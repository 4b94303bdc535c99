/- The composed form of texts: canonically equivalent texts have the same one. -/
import TenantScope.Text.Word
import TenantScope.Unicode.CombiningClasses
import TenantScope.Unicode.Decompositions
import TenantScope.Unicode.Table

namespace TenantScope.Unicode

def decompositions : Table := Table.ofLines decompositionLines

/-- The combining class of a character, by which marks behind a letter are put in order. -/
def combiningClass (c : Char) : Nat :=
  ((combiningClassRanges.find? fun r => r.1 ≤ c.toNat && c.toNat ≤ r.2.1).map (·.2.2)).getD 0

/-! Hangul syllables, which are composed by arithmetic -/

/-- The first syllable, and the first leading consonant, vowel and trailing consonant; the trailing
consonant zero is absent. -/
def syllableBase : Nat := 0xAC00
def leadBase : Nat := 0x1100
def vowelBase : Nat := 0x1161
def trailBase : Nat := 0x11A7

def vowelCount : Nat := 21
def trailCount : Nat := 28

def leadCount : Nat := 19

/-- The letters of a Hangul syllable. -/
def syllableParts? (n : Nat) : Option (List Nat) :=
  let i := n - syllableBase
  if syllableBase ≤ n ∧ i < leadCount * vowelCount * trailCount then
    let lead := leadBase + i / (vowelCount * trailCount)
    let vowel := vowelBase + i / trailCount % vowelCount
    some (if i % trailCount = 0 then [lead, vowel] else [lead, vowel, trailBase + i % trailCount])
  else none

/-- The Hangul syllable of a leading consonant and a vowel, or of an open syllable and a trailing
consonant. -/
def syllable? (a b : Nat) : Option Nat :=
  let i := a - syllableBase
  if leadBase ≤ a ∧ a < leadBase + leadCount ∧ vowelBase ≤ b ∧ b < vowelBase + vowelCount then
    some (syllableBase + ((a - leadBase) * vowelCount + (b - vowelBase)) * trailCount)
  else if syllableBase ≤ a ∧ i < leadCount * vowelCount * trailCount ∧ i % trailCount = 0 ∧
      trailBase < b ∧ b < trailBase + trailCount then
    some (a + (b - trailBase))
  else none

/-! Decomposition -/

/-- The decomposition of a code point in at most the given number of steps, each of which takes the
first part further apart. -/
def decomposedIn : (steps : Nat) → Nat → List Nat
  | 0, n => [n]
  | steps + 1, n =>
    match decompositions.find? n with
    | some (first :: rest) => decomposedIn steps first ++ rest
    | _ => [n]

/-- The full canonical decomposition of a character; none takes more than four steps. -/
def decomposed (c : Char) : Text :=
  ((syllableParts? c.toNat).getD (decomposedIn 4 c.toNat)).map Char.ofNat

/-- Puts a mark behind marks of its class and in front of those of higher classes; `done` holds the
characters so far, last first. -/
def insertMark (c : Char) : (done : Text) → Text
  | [] => [c]
  | d :: done =>
    if combiningClass c ≠ 0 ∧ combiningClass c < combiningClass d then d :: insertMark c done
    else c :: d :: done

/-- The characters with the marks behind each letter in the order of their classes. -/
def ordered (s : Text) : Text := (s.foldl (fun done c => insertMark c done) []).reverse

/-! Composition -/

/-- The character that two characters are composed to. -/
def composed? (a b : Char) : Option Char :=
  let found := (syllable? a.toNat b.toNat).or <|
    (decompositions.source? [a.toNat, b.toNat]).filter fun n => !Text.inRanges undoneRanges n
  found.map Char.ofNat

/-- Composes the rest of an ordered text; `letter` is the last letter, and `marks` are the marks
behind it that did not go into it, last first. -/
def composeFrom : (letter : Option Char) → (marks : Text) → Text → Text
  | letter, marks, [] => letter.toList ++ marks.reverse
  | letter, marks, c :: s =>
    let reached := match marks with
      | [] => true
      | m :: _ => combiningClass m < combiningClass c
    match if reached then letter.bind fun l => composed? l c else none with
    | some l => composeFrom (some l) marks s
    | none =>
      if combiningClass c = 0 then letter.toList ++ marks.reverse ++ composeFrom (some c) [] s
      else composeFrom letter (c :: marks) s

def composed (s : Text) : Text := composeFrom none [] (ordered (s.flatMap decomposed))

end TenantScope.Unicode
