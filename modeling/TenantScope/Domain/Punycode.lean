/- Punycode, which writes the characters beyond ASCII of a label as increments in base 36. -/
import TenantScope.Text.Basic
import TenantScope.Text.Split

namespace TenantScope.Domain.Punycode

/-! Digits and thresholds -/

def base : Nat := 36

/-- The digit below 36 of a value: letters stand in front of figures. -/
def digitOf (n : Nat) : Char := if n < 26 then Char.ofNat (0x61 + n) else Char.ofNat (0x30 + n - 26)

def valueOf? (c : Char) : Option Nat :=
  if 'a' ≤ c ∧ c ≤ 'z' then some (c.toNat - 0x61)
  else if 'A' ≤ c ∧ c ≤ 'Z' then some (c.toNat - 0x41)
  else if c.isDigit then some (c.toNat - 0x30 + 26)
  else none

/-- The digit at the given place that is the least to be followed by another one; a digit below it
ends its number. Places are counted in steps of the base. -/
def threshold (bias place : Nat) : Nat := max 1 (min 26 (place - bias))

/-- Takes an increment down to the largest that the thresholds stand for, and counts the places. -/
def settle : (fuel : Nat) → (place increment : Nat) → Nat × Nat
  | 0, place, increment => (place, increment)
  | fuel + 1, place, increment =>
    if 455 < increment then settle fuel (place + base) (increment / 35) else (place, increment)

/-- The bias after an increment, given the number of characters then written. -/
def adapt (increment count : Nat) (isFirst : Bool) : Nat :=
  let increment := if isFirst then increment / 700 else increment / 2
  let (place, increment) := settle increment 0 (increment + increment / count)
  place + base * increment / (increment + 38)

def initialBias : Nat := 72

/-- The first code point beyond ASCII. -/
def firstPoint : Nat := 0x80

/-! Encoding -/

/-- The digits of an increment, the lowest place first. -/
def digits (bias : Nat) : (fuel : Nat) → (place increment : Nat) → Text
  | 0, _, _ => []
  | fuel + 1, place, increment =>
    let t := threshold bias place
    if increment < t then [digitOf increment]
    else
      digitOf (t + (increment - t) % (base - t)) ::
        digits bias fuel (place + base) ((increment - t) / (base - t))

/-- Where an encoder stands: the increment since the last character, the bias, and the number of
characters written. -/
structure Encoder where
  increment : Nat
  bias : Nat
  count : Nat
  deriving DecidableEq, Repr

/-- Passes one character of the label while characters of the code point `n` are written. -/
def Encoder.pass (n basic : Nat) (e : Encoder) (c : Char) : Text × Encoder :=
  if c.toNat < n then ([], { e with increment := e.increment + 1 })
  else if c.toNat = n then
    (digits e.bias (e.increment + 1) base e.increment,
      ⟨0, adapt e.increment (e.count + 1) (e.count = basic), e.count + 1⟩)
  else ([], e)

def Encoder.passAll (n basic : Nat) : Encoder → Text → Text × Encoder
  | e, [] => ([], e)
  | e, c :: s =>
    let (out, e) := e.pass n basic c
    let (more, e) := passAll n basic e s
    (out ++ more, e)

/-- Writes the characters of the given code points, which ascend from `n` on. -/
def encodeFrom (label : Text) (basic : Nat) : Encoder → (n : Nat) → List Nat → Text
  | _, _, [] => []
  | e, n, next :: points =>
    let e := { e with increment := e.increment + (next - n) * (e.count + 1) }
    let (out, e) := e.passAll next basic label
    out ++ encodeFrom label basic { e with increment := e.increment + 1 } (next + 1) points

/-- The code points beyond ASCII of a label, each once and ascending. -/
def points (label : Text) : List Nat :=
  (((label.map Char.toNat).filter (firstPoint ≤ ·)).eraseDups).mergeSort

/-- The encoded label: its ASCII characters, a dash behind them if there are any, and the rest. -/
def encode (label : Text) : Text :=
  let basic := label.filter fun c => c.toNat < firstPoint
  let front := if basic = [] then [] else basic ++ ['-']
  front ++ encodeFrom label basic.length ⟨0, initialBias, basic.length⟩ firstPoint (points label)

/-! Decoding -/

/-- Where a decoder stands: the label so far, the code point and the position of the next character,
the position at the last one, the bias, and the weight and the place of the next digit. -/
structure Decoder where
  label : Text
  point : Nat
  position : Nat
  start : Nat
  bias : Nat
  weight : Nat
  place : Nat
  deriving DecidableEq, Repr

/-- Numbers are kept below this bound. -/
def bound : Nat := 2 ^ 32

/-- Puts the character of a finished increment into the label. -/
def Decoder.insert? (d : Decoder) : Option Decoder :=
  let count := d.label.length + 1
  let point := d.point + d.position / count
  let position := d.position % count
  if point.isValidChar then
    some ⟨d.label.take position ++ Char.ofNat point :: d.label.drop position, point, position + 1,
      position + 1, adapt (d.position - d.start) count (d.start = 0), 1, base⟩
  else none

def Decoder.step? (d : Decoder) (c : Char) : Option Decoder := do
  let value ← valueOf? c
  let position := d.position + value * d.weight
  let t := threshold d.bias d.place
  if bound ≤ position then none
  else if value < t then Decoder.insert? { d with position }
  else if bound ≤ d.weight * (base - t) then none
  else some { d with position, weight := d.weight * (base - t), place := d.place + base }

/-- Whether no increment is half read. -/
def Decoder.isSettled (d : Decoder) : Bool := d.place = base

/-- The parts of an encoded label before and after its last dash; without one the first is empty. -/
def parts (s : Text) : Text × Text :=
  match splitFirst (· == '-') s.reverse with
  | (tail, some front) => (front.reverse, tail.reverse)
  | (_, none) => ([], s)

/-- Decodes a label. A dash with nothing in front of it is no digit. -/
def decode? (s : Text) : Option Text := do
  let (basic, rest) := parts s
  let rest := if basic = [] then s else rest
  let d ← rest.foldlM Decoder.step? ⟨basic, firstPoint, 0, 0, initialBias, 1, base⟩
  if d.isSettled then some d.label else none

end TenantScope.Domain.Punycode
