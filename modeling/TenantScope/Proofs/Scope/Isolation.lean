/- What it means that a text passes the check for isolation, and that a query is scoped. -/
import TenantScope.Proofs.Scope.Injection

namespace TenantScope

open Query

theorem Filter.appliesTo_iff {f : Filter} {s : Selector} :
    f.appliesTo s = true ↔ ∀ m ∈ f.matchers, m ∈ s.allMatchers := by
  simp only [Filter.appliesTo, List.all_eq_true, List.contains_iff_mem]

/-- The selectors of a tree that lack some matcher of the filter, in pre-order. -/
def Filter.lacking (f : Filter) (e : Expr) : List Selector :=
  e.selectors.filter fun s => ∃ m ∈ f.matchers, m ∉ s.allMatchers

theorem Filter.lacking_eq_nil_iff {f : Filter} {e : Expr} :
    f.lacking e = [] ↔ ∀ s ∈ e.selectors, ∀ m ∈ f.matchers, m ∈ s.allMatchers := by
  simp only [Filter.lacking, List.filter_eq_nil_iff, decide_eq_true_eq, not_exists, not_and,
    not_not]

/-! The census of a tree -/

theorem Filter.sweeps_enroller (f : Filter) : Sweeps f.enroller (onSelector f.enrol) id := by
  constructor <;> intro seen e <;> cases e <;> rfl

theorem Filter.appliesTo_eq (f : Filter) (s : Selector) :
    f.appliesTo s = !decide (∃ m ∈ f.matchers, m ∉ s.allMatchers) := by
  rw [Bool.eq_iff_iff, f.appliesTo_iff]
  simp only [Bool.not_eq_true', decide_eq_false_iff_not, not_exists, not_and, not_not]

theorem Filter.foldl_enrol (f : Filter) (seen : Census) (ss : List Selector) :
    ss.foldl f.enrol seen = ⟨seen.selectors + ss.length, seen.lacking ++
      (ss.filter fun s => ∃ m ∈ f.matchers, m ∉ s.allMatchers).map Selector.print⟩ := by
  induction ss generalizing seen with
  | nil => simp
  | cons s ss ih =>
      rw [List.foldl_cons, ih, Filter.enrol, List.filter_cons, f.appliesTo_eq]
      cases decide (∃ m ∈ f.matchers, m ∉ s.allMatchers) <;>
        simp [Nat.add_assoc, Nat.add_comm 1]

/-- The census counts the selectors and lists the texts of those that lack a matcher. -/
theorem Filter.census_eq (f : Filter) (e : Expr) :
    f.census e = ⟨e.selectors.length, (f.lacking e).map Selector.print⟩ := by
  rw [Filter.census, f.sweeps_enroller.walk_eq_foldl_selectors, f.foldl_enrol, Nat.zero_add]
  rfl

/-! The check -/

theorem readQuery_eq_ok_iff {query : Text} {e : Expr} :
    readQuery query = .ok e ↔ Query.read query = .ok e := by
  unfold readQuery
  cases Query.read query with
  | error f => simp only [Except.mapError, reduceCtorEq]
  | ok d => simp only [Except.mapError, Except.ok.injEq]

theorem Filter.checkIsolated_of_read {f : Filter} {text : Text} {e : Expr}
    (h : Query.read text = .ok e) :
    f.checkIsolated text =
      if f.lacking e = [] then .ok () else .error (.unisolated text (f.census e).reason) := by
  rw [Filter.checkIsolated, readQuery_eq_ok_iff.mpr h]
  simp only [f.census_eq, List.map_eq_nil_iff]

/-- The check passes exactly the texts of trees in which every selector carries the filter. -/
theorem Filter.checkIsolated_eq_ok_iff {f : Filter} {text : Text} :
    f.checkIsolated text = .ok () ↔
      ∃ e, Query.read text = .ok e ∧ ∀ s ∈ e.selectors, ∀ m ∈ f.matchers, m ∈ s.allMatchers := by
  cases hread : Query.read text with
  | error failure =>
      simp only [Filter.checkIsolated, readQuery, hread, Except.mapError, reduceCtorEq, false_and,
        exists_false]
  | ok e =>
      simp only [Filter.checkIsolated_of_read hread, Except.ok.injEq, exists_eq_left',
        ← Filter.lacking_eq_nil_iff, ite_eq_left_iff, reduceCtorEq, imp_false, not_not]

/-- A query is scoped under the strict policy when it reads as a tree whose printed injection
passes the check; the printed injection is then the scoped text. -/
theorem Filter.scopeQuery_reject_eq_ok_iff {f : Filter} {query text : Text} :
    f.scopeQuery .reject query = .ok text ↔
      ∃ e, Query.read query = .ok e ∧ text = (e.replace f.narrowing).print ∧
        f.checkIsolated text = .ok () := by
  unfold Filter.scopeQuery
  cases h : readQuery query with
  | error error =>
      have hread : ∀ e, Query.read query ≠ .ok e := by
        intro e he
        rw [readQuery_eq_ok_iff.mpr he] at h
        cases h
      simp only [bind, Except.bind, reduceCtorEq, false_iff, not_exists, not_and]
      exact fun e he => absurd he (hread e)
  | ok e =>
      have hread := readQuery_eq_ok_iff.mp h
      simp only [bind, Except.bind, hread, Except.ok.injEq, exists_eq_left', Filter.inject_tree]
      cases hc : f.checkIsolated (e.replace f.narrowing).print with
      | error error =>
          simp only [reduceCtorEq, false_iff, not_and]
          intro htext
          rw [htext, hc]
          exact fun h => nomatch h
      | ok u =>
          simp only [pure, Except.pure, Except.ok.injEq]
          constructor
          · rintro rfl
            exact ⟨rfl, hc⟩
          · exact fun h => h.1.symm

/-- A text scoped under the strict policy reads as a tree in which every selector carries the
filter. -/
theorem Filter.read_scoped {f : Filter} {query text : Text}
    (h : f.scopeQuery .reject query = .ok text) :
    ∃ e, Query.read text = .ok e ∧ ∀ s ∈ e.selectors, ∀ m ∈ f.matchers, m ∈ s.allMatchers := by
  obtain ⟨_, _, _, hcheck⟩ := Filter.scopeQuery_reject_eq_ok_iff.mp h
  exact Filter.checkIsolated_eq_ok_iff.mp hcheck

/-- The filter of one tenant. -/
def Filter.oneTenant : Filter :=
  ⟨[⟨"tenant".toList, .equal, "t1".toList⟩], List.cons_ne_nil _ _⟩

end TenantScope
