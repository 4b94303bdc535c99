/- Text and bytes as lists, with the small rules on them that several parts share. -/
namespace TenantScope

-- a power of numbers is the built-in one, whatever else is in scope
attribute [instance (high), default_instance (high + 1)] instPowNat

/-- A text is a list of Unicode scalar values. -/
abbrev Text := List Char

/-- A byte string is a list of octets. -/
abbrev Bytes := List UInt8

-- membership tests on texts and on first characters rest on these by name
instance lawfulBEqText : LawfulBEq Text := inferInstance
instance lawfulBEqHead : LawfulBEq (Option Char) := inferInstance

namespace Text

/-- The ASCII letters in lower case and every other character as it is. -/
def lower (s : Text) : Text := s.map Char.toLower

/-- Drops `lead` from the front of a text. -/
def dropLead? : (lead : Text) → Text → Option Text
  | [], s => some s
  | _ :: _, [] => none
  | w :: ws, c :: s => if c = w then dropLead? ws s else none

/-- Drops `word`, given in lower case, from the front of a text whatever its ASCII case. -/
def dropWord? : (word : Text) → Text → Option Text
  | [], s => some s
  | _ :: _, [] => none
  | w :: ws, c :: s => if c.toLower = w then dropWord? ws s else none

/-- The decimal digits of a natural number, without leading zeros. -/
def ofNat (n : Nat) : Text := Nat.toDigits 10 n

/-- The decimal digits of an integer, with a minus sign in front of a negative one. -/
def ofInt (i : Int) : Text :=
  if i < 0 then '-' :: ofNat i.natAbs else ofNat i.natAbs

/-- The value of a digit in the given base, up to base sixteen. -/
def digit? (base : Nat) (c : Char) : Option Nat :=
  let value :=
    if c.isDigit then some (c.toNat - '0'.toNat)
    else if 'a' ≤ c ∧ c ≤ 'f' then some (c.toNat - 'a'.toNat + 10)
    else if 'A' ≤ c ∧ c ≤ 'F' then some (c.toNat - 'A'.toNat + 10)
    else none
  value.filter (· < base)

def isDigitIn (base : Nat) (c : Char) : Bool := (digit? base c).isSome

/-- The number that a list of digits writes in the given base. -/
def toNat (base : Nat) (digits : Text) : Nat :=
  digits.foldl (fun n c => n * base + (digit? base c).getD 0) 0

/-- The lower-case hexadecimal digits of a natural number. -/
def hex (n : Nat) : Text := Nat.toDigits 16 n

/-- The digits with zeros in front of them up to the given width. -/
def padZeros (width : Nat) (digits : Text) : Text :=
  List.replicate (width - digits.length) '0' ++ digits

/-- The texts in order with `sep` between neighbours. -/
def join (sep : Text) (parts : List Text) : Text := sep.intercalate parts

/-- Whether a character has the Unicode property White_Space. -/
def isSpace (c : Char) : Bool :=
  let n := c.toNat
  (9 ≤ n && n ≤ 13) || n == 0x20 || n == 0x85 || n == 0xA0 || n == 0x1680 ||
    (0x2000 ≤ n && n ≤ 0x200A) || n == 0x2028 || n == 0x2029 || n == 0x202F || n == 0x205F ||
    n == 0x3000

/-- Takes the characters satisfying `p` off both ends. -/
def trimBy (p : Char → Bool) (s : Text) : Text :=
  ((s.dropWhile p).reverse.dropWhile p).reverse

/-- Takes the white space off both ends. -/
def trim (s : Text) : Text := trimBy isSpace s

end Text
end TenantScope
