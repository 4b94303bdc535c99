/- The mapping of texts to the characters that domain names are made of. -/
import TenantScope.Domain.MappingTable
import TenantScope.Unicode.Composed

namespace TenantScope.Domain

open Unicode (Table)

def mappings : Table := Table.ofLines mappingLines

def runImage? (n : Nat) : Option Nat :=
  (mappedRuns.find? fun r => r.1 ≤ n && n ≤ r.2.1 && (n - r.1) % r.2.2.1 == 0).map fun r =>
    r.2.2.2 + (n - r.1)

/-- The image of a character that is mapped, or left out, as a whole. -/
def image? (c : Char) : Option Text :=
  let images := ((runImage? c.toNat).map fun n => [n]).or (mappings.find? c.toNat)
  (images.map fun ns => ns.map Char.ofNat).or
    (if Text.inRanges ignoredRanges c.toNat then some [] else none)

/-- The image of a character that has no decomposition; refused characters have none. -/
def simpleImage? (c : Char) : Option Text :=
  (image? c).or (if Text.inRanges refusedRanges c.toNat then none else some [c])

/-- The image of a character: what is not mapped as a whole is mapped part by part. -/
def charImage? (c : Char) : Option Text :=
  (image? c).or (((Unicode.decomposed c).mapM simpleImage?).map List.flatten)

/-- The composed image of a text, in lower case and without compatibility characters. -/
def image (s : Text) : Option Text :=
  (s.mapM charImage?).map fun images => Unicode.composed images.flatten

end TenantScope.Domain
