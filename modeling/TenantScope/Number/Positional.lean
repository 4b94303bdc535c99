/- Positional decimal texts of binary64 values: shortest digits, and a fixed number of places. -/
import TenantScope.Number.Binary64

namespace TenantScope.Binary64

/-- The digits of `n / 10 ^ places` with a decimal point, which is left out if nothing follows. -/
def pointed (places n : Nat) : Text :=
  let whole := Text.ofNat (n / 10 ^ places)
  if places = 0 then whole
  else whole ++ '.' :: Text.padZeros places (Text.ofNat (n % 10 ^ places))

/-- A decimal number `digits * 10 ^ exponent` without an exponent in its text. -/
def plain (digits : Nat) (exponent : Int) : Text :=
  if exponent < 0 then pointed exponent.natAbs digits
  else Text.ofNat (digits * 10 ^ exponent.natAbs)

/-- The power of ten of the first digit of a positive fraction. -/
def leadingPower (num den : Nat) : Int :=
  if den ≤ num then (Nat.toDigits 10 (num / den)).length - 1
  else
    let inverse := (Nat.toDigits 10 (den / num)).length
    if num * 10 ^ (inverse - 1) < den then -inverse else 1 - inverse

/-- The two neighbours of a fraction on the grid of the given power of ten, the nearer one first
and the upper one first on a tie. -/
def neighbours (num den : Nat) (exponent : Int) : List Nat :=
  let num := if exponent < 0 then num * 10 ^ exponent.natAbs else num
  let den := if exponent < 0 then den else den * 10 ^ exponent.natAbs
  let low := num / den
  if 2 * (num % den) < den then [low, low + 1] else [low + 1, low]

/-- The decimals to try for a positive value, fewest digits first. -/
def candidates (num den : Nat) : List (Nat × Int) :=
  (List.range 18).flatMap fun (count : Nat) =>
    -- one power above the leading digit, a value just below a power of ten finds that power
    let exponent := leadingPower num den + 1 - (count : Nat)
    (neighbours num den exponent).map fun digits => (digits, exponent)

/-- The decimal with the fewest digits that reads back as the magnitude of a finite value. -/
def shortest (x : Binary64) : Nat × Int :=
  let found := (candidates x.units (2 ^ 1074)).find? fun d =>
    (ofDecimal d.1 d.2).magnitude = x.magnitude
  -- the exact value always reads back
  found.getD (x.units * 5 ^ 1074, -1074)

/-- The text of a value: the fewest digits that read back, written without an exponent. -/
def text (x : Binary64) : Text :=
  if x.isNaN then "NaN".toList
  else
    let sign := if x.isNegative then ['-'] else []
    if !x.isFinite then sign ++ "Inf".toList
    else if x.magnitude = 0 then sign ++ ['0']
    else sign ++ plain x.shortest.1 x.shortest.2

/-- The text of a finite value with the given number of decimal places, a tie to even. -/
def fixed (places : Nat) (x : Binary64) : Text :=
  let sign := if x.isNegative then ['-'] else []
  sign ++ pointed places (roundEven (x.units * 10 ^ places) (2 ^ 1074))

end TenantScope.Binary64
