/- Binary64 values by their bits, rounded from exact fractions of natural numbers. -/
import TenantScope.Text.Basic

namespace TenantScope

/-- A binary64 value as its sixty-four bits: sign, eleven of exponent, fifty-two of fraction. -/
structure Binary64 where
  bits : UInt64
  deriving DecidableEq, Repr

namespace Binary64

/-- The bits of positive infinity, the first pattern beyond every finite positive value. -/
def infinityBits : Nat := 0x7FF * 2 ^ 52

def infinity : Binary64 := ⟨UInt64.ofNat infinityBits⟩

/-- The one pattern of a value that is not a number. -/
def nan : Binary64 := ⟨0x7FF8000000000000⟩

/-- The bits without the sign. -/
def magnitude (x : Binary64) : Nat := x.bits.toNat % 2 ^ 63

/-- Whether the sign bit is set. -/
def isNegative (x : Binary64) : Bool := 2 ^ 63 ≤ x.bits.toNat

def isNaN (x : Binary64) : Bool := infinityBits < x.magnitude

def isFinite (x : Binary64) : Bool := x.magnitude < infinityBits

def neg (x : Binary64) : Binary64 := ⟨x.bits ^^^ 0x8000000000000000⟩

/-- A finite magnitude in units of 2^-1074, the smallest positive value. -/
def units (x : Binary64) : Nat :=
  let fraction := x.magnitude % 2 ^ 52
  let exponent := x.magnitude / 2 ^ 52
  if exponent = 0 then fraction else (2 ^ 52 + fraction) * 2 ^ (exponent - 1)

/-- The quotient rounded to the nearest integer, a tie to the even one. -/
def roundEven (num den : Nat) : Nat :=
  let q := num / den
  let twice := 2 * (num % den)
  if twice < den then q else if den < twice then q + 1 else q + q % 2

/-- The quotient rounded to the nearest integer, a tie to the larger one. -/
def roundUp (num den : Nat) : Nat := (2 * num + den) / (2 * den)

/-- The non-negative value nearest to a fraction, a tie to the even one and infinity beyond all. -/
def nearest (num den : Nat) : Binary64 :=
  let scaled := num * 2 ^ 1074
  -- the grid around the fraction has steps of `2 ^ k` units; a magnitude is a step count laid over
  -- `k` binades, so a carry into the next binade needs no case of its own
  let k := (scaled / den).log2 - 52
  ⟨UInt64.ofNat (min (k * 2 ^ 52 + roundEven scaled (den * 2 ^ k)) infinityBits)⟩

def ofNat (n : Nat) : Binary64 := nearest n 1

/-- The value nearest to `digits` times ten to the power `exponent`. -/
def ofDecimal (digits : Nat) (exponent : Int) : Binary64 :=
  let top := exponent + (Nat.toDigits 10 digits).length
  -- far out of the range the digit count alone decides
  if digits = 0 ∨ top < -400 then ⟨0⟩
  else if 400 < top then infinity
  else if exponent < 0 then nearest digits (10 ^ exponent.natAbs)
  else nearest (digits * 10 ^ exponent.natAbs) 1

/-- Whether two values are equal as numbers: nothing equals a value that is not a number. -/
def same (x y : Binary64) : Bool :=
  !x.isNaN && !y.isNaN && (x = y || (x.magnitude = 0 && y.magnitude = 0))

end Binary64
end TenantScope
