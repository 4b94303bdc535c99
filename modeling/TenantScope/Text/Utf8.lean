/- UTF-8: texts as octets, and octets read one at a time with ill-formed parts kept apart. -/
import TenantScope.Text.Basic

namespace TenantScope.Utf8

def encode (s : Text) : Bytes := s.flatMap String.utf8EncodeChar

/-- A character whose first octets were read: how many are owed, the bounds of the next one, and
the bits collected so far. -/
structure Pending where
  owed : Nat
  low : Nat
  high : Nat
  bits : Nat
  deriving DecidableEq, Repr

/-- What an octet between two characters yields: a character, an ill-formed part, or the start of
a longer character. -/
def lead (b : Nat) : List (Option Char) × Option Pending :=
  if b < 0x80 then ([some (Char.ofNat b)], none)
  else if b < 0xC2 then ([none], none)
  else if b < 0xE0 then ([], some ⟨1, 0x80, 0xBF, b - 0xC0⟩)
  else if b = 0xE0 then ([], some ⟨2, 0xA0, 0xBF, 0⟩)
  else if b = 0xED then ([], some ⟨2, 0x80, 0x9F, 0xD⟩)
  else if b < 0xF0 then ([], some ⟨2, 0x80, 0xBF, b - 0xE0⟩)
  else if b = 0xF0 then ([], some ⟨3, 0x90, 0xBF, 0⟩)
  else if b < 0xF4 then ([], some ⟨3, 0x80, 0xBF, b - 0xF0⟩)
  else if b = 0xF4 then ([], some ⟨3, 0x80, 0x8F, 4⟩)
  else ([none], none)

/-- One octet: an octet out of bounds ends the pending part and is then read afresh. -/
def step : Option Pending → Nat → List (Option Char) × Option Pending
  | none, b => lead b
  | some p, b =>
    if p.low ≤ b ∧ b ≤ p.high then
      let bits := p.bits * 64 + (b - 0x80)
      if p.owed ≤ 1 then ([some (Char.ofNat bits)], none)
      else ([], some ⟨p.owed - 1, 0x80, 0xBF, bits⟩)
    else (none :: (lead b).1, (lead b).2)

/-- Reads the rest of the octets; `read` holds what was read, last first. -/
def unitsFrom (pending : Option Pending) (read : List (Option Char)) :
    Bytes → List (Option Char)
  | [] => (if pending.isSome then none :: read else read).reverse
  | b :: bs =>
    let next := step pending b.toNat
    unitsFrom next.2 (next.1.reverse ++ read) bs

/-- The characters of a byte string, with `none` for each longest ill-formed part. -/
def units (bs : Bytes) : List (Option Char) := unitsFrom none [] bs

/-- The text of a byte string, with U+FFFD for each longest ill-formed part. -/
def decodeLossy (bs : Bytes) : Text := (units bs).map (·.getD '\ufffd')

/-- The text of a well-formed byte string. -/
def decode? (bs : Bytes) : Option Text :=
  let read := units bs
  if read.all Option.isSome then some (read.filterMap id) else none

end TenantScope.Utf8
