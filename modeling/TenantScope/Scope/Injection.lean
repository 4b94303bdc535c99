/- The injection of a filter into every selector of a query tree. -/
import TenantScope.Query.Walk
import TenantScope.Scope.Filter

namespace TenantScope

open Query

/-- A selector with the matchers of a filter behind its own. -/
def Filter.narrow (f : Filter) (s : Selector) : Selector :=
  { s with matchers := s.matchers ++ f.matchers }

/-- Narrows the selectors it meets and counts them. -/
def Filter.visitor (f : Filter) : Visitor Nat := fun count e =>
  match e with
  | .vector s => ⟨count + 1, .vector (f.narrow s), .enter, Nat.le_refl _⟩
  | .matrix s range => ⟨count + 1, .matrix (f.narrow s) range, .enter, Nat.le_refl _⟩
  | e => .same count e .enter

/-- Walks a tree with the filter's visitor, the selectors narrowed before counting on. -/
def Filter.inject (f : Filter) (count : Nat) (e : Expr) : Walked Nat Expr :=
  walk f.visitor count e

end TenantScope
