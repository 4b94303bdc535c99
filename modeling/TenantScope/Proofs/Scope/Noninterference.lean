/- A scoped query cannot tell apart stores that agree on the tenant's series. -/
import TenantScope.Proofs.Query.Reading
import TenantScope.Proofs.Scope.Isolation

namespace TenantScope

open Query

universe u v

/-- Whatever the nodes of a query mean, the text scoped to a filter reads as a tree that has the
same value over any two stores with the same series meeting the filter. -/
theorem Filter.noninterference {f : Filter} {query text : Text}
    (h : f.scopeQuery .reject query = .ok text) :
    ∃ e, Query.read text = .ok e ∧
      ∀ {Series : Type u} {Value : Type v} (R : Reading Series Value)
        (store store' : List Series),
        R.restrict f.matchers store = R.restrict f.matchers store' →
          R.value store e = R.value store' e := by
  obtain ⟨e, hread, hcarry⟩ := f.read_scoped h
  refine ⟨e, hread, fun R store store' hagree => R.value_congr e fun s hs => ?_⟩
  calc
    R.restrict s.allMatchers store
      = R.restrict s.allMatchers (R.restrict f.matchers store) :=
        (R.restrict_restrict (hcarry s hs) store).symm
    _ = R.restrict s.allMatchers (R.restrict f.matchers store') := by rw [hagree]
    _ = R.restrict s.allMatchers store' := R.restrict_restrict (hcarry s hs) store'

/-- The ratio of a sum of rates and a metric. -/
theorem Filter.noninterference_ratio :
    let query := "sum(rate(a[5m])) / b".toList
    let text := "sum(rate(a\x7btenant=\"t1\"\x7d[5m])) / b\x7btenant=\"t1\"\x7d".toList
    Filter.oneTenant.scopeQuery .reject query = .ok text ∧
      ∃ e, Query.read text = .ok e ∧
        ∀ {Series Value : Type} (R : Reading Series Value) (store store' : List Series),
          R.restrict Filter.oneTenant.matchers store =
              R.restrict Filter.oneTenant.matchers store' →
            R.value store e = R.value store' e := by
  intro query text
  have hscope : Filter.oneTenant.scopeQuery .reject query = .ok text := by decide +kernel
  obtain ⟨e, hread, hvalue⟩ := Filter.noninterference hscope
  exact ⟨hscope, e, hread, hvalue⟩

end TenantScope
