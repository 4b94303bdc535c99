/- URL-encoded forms. -/
import TenantScope.Text.Percent
import TenantScope.Text.Split

namespace TenantScope

/-- The values of each key of a form, in the order of their keys. -/
abbrev Form := List (Text × List Text)

namespace Form

/-! Decoding -/

/-- The text of an encoded key or value: plus signs are blanks, and octets that are no UTF-8 are
replaced. -/
def decodePart (bs : Bytes) : Text :=
  Utf8.decodeLossy (Percent.decode (bs.map fun b => if b = 0x2B then 0x20 else b))

/-- The key and the value of one piece; without an equals sign the value is empty. -/
def pairOf (piece : Bytes) : Text × Text :=
  let (key, value) := splitFirst (· == 0x3D) piece
  (decodePart key, decodePart (value.getD []))

/-- The pieces between ampersands, empty ones left out. -/
def pieces (bs : Bytes) : List Bytes := (splitAll (· == 0x26) bs).filter (!·.isEmpty)

/-- The keys and values of an encoded form in the order in which they stand in it. -/
def pairs (bs : Bytes) : List (Text × Text) := (pieces bs).map pairOf

/-! Forms -/

/-- Puts a value in front of the values of a key. -/
def addFirst (key value : Text) : Form → Form
  | [] => [(key, [value])]
  | (k, vs) :: rest =>
    if key = k then (k, value :: vs) :: rest
    else if key < k then (key, [value]) :: (k, vs) :: rest
    else (k, vs) :: addFirst key value rest

/-- The form of some keys and values, the values of each key in their order. -/
def ofPairs (ps : List (Text × Text)) : Form :=
  ps.foldr (fun p form => addFirst p.1 p.2 form) []

/-- The form of an encoded body followed by an encoded query string. -/
def ofParts (body : Bytes) (query : Option Text) : Form :=
  ofPairs (pairs body ++ pairs (Utf8.encode (query.getD [])))

def hasKey (form : Form) (key : Text) : Bool := form.any fun e => e.1 = key

/-! Encoding -/

/-- The characters that stay as they are in an encoded form. -/
def isPlainChar (c : Char) : Bool := c.isAlphanum || ['*', '-', '.', '_'].contains c

/-- One character of an encoded form: a blank becomes a plus sign. -/
def encodeChar (c : Char) : Text :=
  if isPlainChar c then [c] else if c = ' ' then ['+'] else Percent.encodeChar c

def encodePart (s : Text) : Text := s.flatMap encodeChar

def encodePair (p : Text × Text) : Text := encodePart p.1 ++ '=' :: encodePart p.2

def encode (ps : List (Text × Text)) : Text := Text.join ['&'] (ps.map encodePair)

end Form
end TenantScope
