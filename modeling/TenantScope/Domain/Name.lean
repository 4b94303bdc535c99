/- Domain names in ASCII: mapped, checked, and with the labels beyond ASCII encoded. -/
import TenantScope.Domain.Label
import TenantScope.Domain.Mapping
import TenantScope.Domain.Punycode

namespace TenantScope.Domain

/-- The characters of ASCII that no domain name may hold. -/
def isForbidden (c : Char) : Bool :=
  c.toNat ≤ 0x20 || c.toNat == 0x7F ||
    ['%', '#', '/', ':', '<', '>', '?', '@', '[', '\\', ']', '^', '|'].contains c

/-- What stands in front of an encoded label. -/
def encodedMark : Text := "xn--".toList

/-- The most characters of an encoded label that are decoded, and of a label that are encoded. -/
def maxEncoded : Nat := 2000
def maxDecoded : Nat := 1000

/-- Decodes what follows the mark of an encoded label: it must be beyond ASCII, its own image, and
not marked again. -/
def decoded? (s : Text) : Option Text := do
  let label ← if s.length ≤ maxEncoded then Punycode.decode? s else none
  if isAscii label ∨ image label ≠ some label ∨ (Text.dropLead? encodedMark label).isSome then none
  else some label

/-- A label with its characters beyond ASCII, if it is valid. -/
def label? (s : Text) : Option Text := do
  let label ← match Text.dropLead? encodedMark s with
    | some rest => decoded? rest
    | none => some s
  if isAscii label ∨ isValidLabel label then some label else none

def asciiLabel? (label : Text) : Option Text :=
  if isAscii label then some label
  else if maxDecoded < label.length then none
  else some (encodedMark ++ Punycode.encode label)

/-- The ASCII form of a domain name, if it has one. Where one label is written from right to left,
the directions of every label must be in order. -/
def ascii? (s : Text) : Option Text := do
  let name ← image s
  let labels ← (splitAll (· == '.') name).mapM label?
  if name.any isForbidden ∨ (labels.any isRightToLeft ∧ !labels.all directionsFit) then none
  else return Text.join ['.'] (← labels.mapM asciiLabel?)

end TenantScope.Domain
