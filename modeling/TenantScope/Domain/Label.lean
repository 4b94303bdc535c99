/- The labels of domain names beyond ASCII, and which of them are valid. -/
import TenantScope.Domain.DirectionRanges
import TenantScope.Domain.JoiningRanges
import TenantScope.Unicode.Composed
import TenantScope.Unicode.MarkRanges

namespace TenantScope.Domain

open Text (inRanges)
open Unicode (combiningClass nonspacingRanges spacingRanges)

def isAscii (s : Text) : Bool := s.all fun c => c.toNat < 0x80

/-! Marks and joiners -/

def isNonspacing (c : Char) : Bool := inRanges nonspacingRanges c.toNat

def isMark (c : Char) : Bool := isNonspacing c || inRanges spacingRanges c.toNat

/-- The combining class of the signs that silence a vowel. -/
def viramaClass : Nat := 9

/-- Whether a character lets its neighbours join across it. -/
def isTransparent (c : Char) : Bool := isNonspacing c || c.toNat == 0x1E94B

def joinsAfter (c : Char) : Bool :=
  inRanges joinsBothRanges c.toNat || inRanges joinsAfterRanges c.toNat

def joinsBefore (c : Char) : Bool :=
  inRanges joinsBothRanges c.toNat || inRanges joinsBeforeRanges c.toNat

/-- Whether the first character that is not transparent satisfies `p`. -/
def firstSolid (p : Char → Bool) (s : Text) : Bool := ((s.dropWhile isTransparent).head?).any p

/-- Whether every joiner and non-joiner has a use where it stands: behind a virama, and a non-joiner
also between letters that would join. `done` holds the characters before, last first. -/
def joinersFit : (done : Text) → Text → Bool
  | _, [] => true
  | done, c :: s =>
    let afterVirama := done.head?.any fun d => combiningClass d == viramaClass
    let fits :=
      if c = '\u200d' then afterVirama
      else if c = '\u200c' then
        afterVirama || (firstSolid joinsAfter done && firstSolid joinsBefore s)
      else true
    fits && joinersFit (c :: done) s

/-- Whether a label is valid as far as its own characters go. -/
def isValidLabel (label : Text) : Bool := !label.head?.any isMark && joinersFit [] label

/-! Directions -/

/-- The directions that decide whether a label reads the same way wherever it stands. -/
inductive Direction
  | leftToRight | rightToLeft | arabicNumber | europeanNumber | neutral | mark
  deriving DecidableEq, Repr

/-- The marks that have a direction of their own. -/
def directedMarks : List Nat := [0xCBF, 0xCC6, 0x11A07, 0x11A08, 0x11C3F]

def direction (c : Char) : Direction :=
  if inRanges rightToLeftRanges c.toNat then .rightToLeft
  else if inRanges arabicNumberRanges c.toNat then .arabicNumber
  else if inRanges europeanNumberRanges c.toNat then .europeanNumber
  else if inRanges neutralRanges c.toNat then .neutral
  else if isNonspacing c && !directedMarks.contains c.toNat then .mark
  else .leftToRight

/-- Whether a label holds characters written from right to left. -/
def isRightToLeft (label : Text) : Bool :=
  label.any fun c => direction c ∈ [.rightToLeft, .arabicNumber]

/-- Whether the directions of a label are in order: a label that begins from right to left holds no
letters of the other direction, ends in a letter or a number and has numbers of one kind, and any
other label holds nothing from right to left and ends in a letter or a number. -/
def directionsFit (label : Text) : Bool :=
  let ds := label.map direction
  let last := (ds.reverse.dropWhile (· == .mark)).head?
  match ds with
  | [] => true
  | .rightToLeft :: _ =>
    ds.all (· != .leftToRight) &&
      last.any (fun d => d ∈ [.rightToLeft, .arabicNumber, .europeanNumber]) &&
      !(ds.contains .arabicNumber && ds.contains .europeanNumber)
  | .leftToRight :: _ =>
    ds.all (fun d => d ∉ [.rightToLeft, .arabicNumber]) &&
      last.any fun d => d ∈ [.leftToRight, .europeanNumber]
  | _ => false

end TenantScope.Domain
