/- The injection of a filter into a query is the restriction of the store to the filter's series. -/
import TenantScope.Proofs.Query.Reading
import TenantScope.Proofs.Scope.Injection

namespace TenantScope

open Query

universe u v

/-- A narrowed selector carries its own matchers and those of the filter. -/
theorem Filter.allMatchers_narrow_perm (f : Filter) (s : Selector) :
    (f.narrow s).allMatchers.Perm (s.allMatchers ++ f.matchers) := by
  simp only [Filter.narrow, Selector.allMatchers, List.append_assoc]
  exact (List.perm_append_comm).append_left _

section

variable {Series : Type u} {Value : Type v} (R : Reading Series Value)

/-- A narrowed selector takes what the selector itself takes of the filter's series. -/
theorem Filter.restrict_narrow (f : Filter) (s : Selector) (store : List Series) :
    R.restrict (f.narrow s).allMatchers store =
      R.restrict s.allMatchers (R.restrict f.matchers store) := by
  rw [R.restrict_perm (f.allMatchers_narrow_perm s), R.restrict_append]

/-- Whatever the nodes of a query mean and whatever matchers it holds already, the query with a
filter injected has over a store the value that the query itself has over the filter's series. -/
theorem Filter.value_inject (f : Filter) (count : Nat) (e : Expr) (store : List Series) :
    R.value store (f.inject count e).tree = R.value (R.restrict f.matchers store) e := by
  rw [f.inject_tree]
  exact R.value_replace e (fun _ => rfl) fun s _ => f.restrict_narrow R s store

end

end TenantScope
