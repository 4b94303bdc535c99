/- What the check for isolation answers, and that it sees no more of a filter than its matchers. -/
import TenantScope.Proofs.Scope.Isolation

namespace TenantScope

open Query

variable {f g : Filter} {text : Text} {e : Expr}

/-- The reason counts the lacking selectors and all selectors, and lists the texts of the former. -/
theorem Filter.reason_census (f : Filter) (e : Expr) :
    (f.census e).reason = Text.ofNat (f.lacking e).length ++ " of ".toList ++
      Text.ofNat e.selectors.length ++ " selectors lack the filter: ".toList ++
        commaList ((f.lacking e).map Selector.print) := by
  rw [f.census_eq, Census.reason, List.length_map]

/-- A text is refused with itself in the error, whether it can be read or not. -/
theorem Filter.exists_reason (h : f.checkIsolated text ≠ .ok ()) :
    ∃ reason, f.checkIsolated text = .error (.unisolated text reason) := by
  unfold Filter.checkIsolated at h ⊢
  split
  · exact ⟨_, rfl⟩
  · next e hread =>
    rw [hread] at h
    by_cases hnone : (f.census e).lacking = []
    · exact absurd (if_pos hnone) h
    · exact ⟨_, if_neg hnone⟩

theorem Filter.lacking_congr (h : ∀ m, m ∈ g.matchers ↔ m ∈ f.matchers) (e : Expr) :
    g.lacking e = f.lacking e := by
  refine List.filter_congr fun s _ => ?_
  rw [Bool.eq_iff_iff]
  simp only [decide_eq_true_eq, h]

/-- Filters with the same matchers, in whatever order and however often, answer alike. -/
theorem Filter.checkIsolated_congr (h : ∀ m, m ∈ g.matchers ↔ m ∈ f.matchers) (text : Text) :
    g.checkIsolated text = f.checkIsolated text := by
  have hcensus : g.census = f.census := by
    funext e
    rw [g.census_eq, f.census_eq, Filter.lacking_congr h]
  rw [Filter.checkIsolated, Filter.checkIsolated, hcensus]

/-- The check passes exactly the texts that read as a tree in which every selector, wherever it
occurs, carries every matcher. It refuses all others with their text, and those that can be read
with the number of lacking selectors, that of all selectors, and the texts of the lacking ones. -/
theorem Filter.checkIsolated_decides (f : Filter) (text : Text) :
    (f.checkIsolated text = .ok () ↔
      ∃ e, Query.read text = .ok e ∧ ∀ d : Expr, d.Occurs e → ∀ s, d.ownSelector? = some s →
        ∀ m ∈ f.matchers, m ∈ s.allMatchers) ∧
    (f.checkIsolated text ≠ .ok () →
      ∃ reason, f.checkIsolated text = .error (.unisolated text reason) ∧
        ∀ e, Query.read text = .ok e → 1 ≤ (f.lacking e).length ∧
          reason = Text.ofNat (f.lacking e).length ++ " of ".toList ++
            Text.ofNat e.selectors.length ++ " selectors lack the filter: ".toList ++
              commaList ((f.lacking e).map Selector.print)) ∧
    ∀ g : Filter, (∀ m, m ∈ g.matchers ↔ m ∈ f.matchers) →
      g.checkIsolated text = f.checkIsolated text := by
  refine ⟨?_, ?_, fun g hg => Filter.checkIsolated_congr hg text⟩
  · rw [Filter.checkIsolated_eq_ok_iff]
    refine exists_congr fun e => and_congr_right fun _ => ?_
    constructor
    · intro h d hd s hs
      exact h s (Expr.mem_selectors_iff.mpr ⟨d, hd, hs⟩)
    · intro h s hs
      obtain ⟨d, hd, hs⟩ := Expr.mem_selectors_iff.mp hs
      exact h d hd s hs
  · intro hfailed
    obtain ⟨reason, hreason⟩ := Filter.exists_reason hfailed
    refine ⟨reason, hreason, fun e hread => ?_⟩
    have hanswer := Filter.checkIsolated_of_read (f := f) hread
    have hlacking : f.lacking e ≠ [] := by
      intro hnone
      rw [if_pos hnone] at hanswer
      exact hfailed hanswer
    rw [if_neg hlacking, hreason] at hanswer
    cases hanswer
    exact ⟨List.length_pos_iff.mpr hlacking, f.reason_census e⟩

/-- A text with a selector that leaks, checked for a filter and for one that says all twice. -/
theorem Filter.checkIsolated_decides_leak :
    let f := Filter.oneTenant
    let g : Filter := ⟨f.matchers ++ f.matchers, List.cons_ne_nil _ _⟩
    let text := "sum(a\x7btenant=\"t1\"\x7d) / b[5m]".toList
    let refused := ScopeError.unisolated text "1 of 2 selectors lack the filter: b".toList
    f.checkIsolated text = .error refused ∧ (∀ m, m ∈ g.matchers ↔ m ∈ f.matchers) ∧
      (∃ reason, f.checkIsolated text = .error (.unisolated text reason)) ∧
      g.checkIsolated text = .error refused := by
  intro f g text refused
  have hanswer : f.checkIsolated text = .error refused := by decide +kernel
  have hfailed : f.checkIsolated text ≠ .ok () := by
    rw [hanswer]
    exact fun h => nomatch h
  have hsame : ∀ m, m ∈ g.matchers ↔ m ∈ f.matchers := by
    intro m
    simp only [g, List.mem_append, or_self]
  obtain ⟨-, hreported, hcongr⟩ := f.checkIsolated_decides text
  obtain ⟨reason, hreason, -⟩ := hreported hfailed
  exact ⟨hanswer, hsame, ⟨reason, hreason⟩, (hcongr g hsame).trans hanswer⟩

end TenantScope
