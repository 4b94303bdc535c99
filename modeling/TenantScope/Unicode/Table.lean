/- Tables from code points to lists of code points, as lines of hexadecimal words. -/
import TenantScope.Text.Basic
import TenantScope.Text.Split

namespace TenantScope.Unicode

/-- A row of a table: a first code point, and the entries of the code points from there on. -/
structure Row where
  first : Nat
  entries : List (Option (List Nat))
  deriving DecidableEq, Repr

abbrev Table := List Row

namespace Table

/-- Reads an entry: code points with plus signs between them, or a dash where there is none. -/
def entry? (word : Text) : Option (List Nat) :=
  if word = ['-'] then none else some ((splitAll (· == '+') word).map (Text.toNat 16))

/-- Reads a line: the first code point and the entries, with blanks between them. -/
def row (line : String) : Row :=
  match splitAll (· == ' ') line.toList with
  | first :: words => ⟨Text.toNat 16 first, words.map entry?⟩
  | [] => ⟨0, []⟩

def ofLines (lines : List String) : Table := lines.map row

/-- The entry of a code point. -/
def find? (t : Table) (n : Nat) : Option (List Nat) :=
  t.findSome? fun r => if r.first ≤ n then (r.entries[n - r.first]?).join else none

/-- The code point with the given entry. -/
def source? (t : Table) (entry : List Nat) : Option Nat :=
  t.findSome? fun r => (r.entries.findIdx? (· == some entry)).map (r.first + ·)

end Table
end TenantScope.Unicode
