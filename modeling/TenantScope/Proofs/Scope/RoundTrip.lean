/- The text of an injected tree is read as that tree, unless a modifier of an operator takes in a
part of the operand behind it. -/
import TenantScope.Proofs.Query.Misreading
import TenantScope.Proofs.Query.Replacing
import TenantScope.Proofs.Scope.Isolation

namespace TenantScope

open Query

/-- Matchers of labels other than that of the metric name. -/
def Filter.Plain (f : Filter) : Prop :=
  ∀ m ∈ f.matchers, labelName? m.name = some (m.name, []) ∧ m.name ≠ metricLabel

/-- A selector with a tame name. -/
def Query.Expr.Tame : Expr → Prop
  | .vector s | .matrix s _ => ∀ n ∈ s.name, isTame n = true
  | _ => True

theorem Query.Expr.Bare.tame {e : Expr} (h : e.Bare) : e.Tame := by
  cases e with
  | vector s => exact fun n hn => isTame_of_metricName? (isBareName_iff.mp (h n hn)).1
  | matrix s range => exact fun n hn => isTame_of_metricName? (isBareName_iff.mp (h n hn)).1
  | _ => trivial

namespace Filter

variable {f : Filter}

/-! What an injection keeps -/

theorem narrow_wellFormed (hf : f.Plain) {s : Selector} (hs : s.WellFormed) :
    (f.narrow s).WellFormed := by
  refine ⟨fun m hm => ?_, fun hname m hm => ?_, hs.inRange⟩
  · rcases List.mem_append.mp hm with hm | hm
    · exact hs.labelled m hm
    · exact (hf m hm).1
  · rcases List.mem_append.mp hm with hm | hm
    · exact hs.unfixed hname m hm
    · rw [Matcher.fixesName, decide_eq_false (hf m hm).2, Bool.false_and]

theorem narrowing_conservative (hf : f.Plain) : f.narrowing.Conservative where
  isNegative := fun _ h => h
  isFinite := fun _ => rfl
  name := fun _ => rfl
  wellFormed := fun _ => narrow_wellFormed hf
  inRange := fun _ h => h

theorem worded_narrowed (f : Filter) (e : Expr) : (e.replace f.narrowing).Worded ↔ e.Tame := by
  have hmatchers : ∀ s : Selector, (f.narrow s).matchers ≠ [] := fun s hnil =>
    f.nonempty (List.append_eq_nil_iff.mp hnil).2
  cases e with
  | vector s => exact and_iff_right (hmatchers s)
  | matrix s range => exact and_iff_right (hmatchers s)
  | aggregation op grouping param body => cases param <;> rfl
  | _ => rfl

theorem exact_narrowed (f : Filter) (e : Expr) : (e.replace f.narrowing).Exact ↔ e.Exact := by
  cases e with
  | aggregation op grouping param body => cases param <;> rfl
  | _ => rfl

/-- An injected tree that is read back from its text is the text's scoped query. -/
theorem checkIsolated_print {e d : Expr}
    (h : Query.read (e.replace f.narrowing).print = .ok d)
    (hselectors : ∀ s ∈ d.selectors, ∃ t : Selector, s.allMatchers = (f.narrow t).allMatchers) :
    f.checkIsolated (e.replace f.narrowing).print = .ok () := by
  refine Filter.checkIsolated_eq_ok_iff.mpr ⟨d, h, fun s hs m hm => ?_⟩
  obtain ⟨t, ht⟩ := hselectors s hs
  rw [ht]
  exact List.mem_append_left _ (List.mem_append_right _ hm)

/-- Read back up to its leaves, an injected tree still carries the filter. -/
theorem scopeQuery_of_read_print {query : Text} {e : Expr} (hread : Query.read query = .ok e)
    (h : Query.read (e.replace f.narrowing).print =
      .ok ((e.replace f.narrowing).replace rereading)) :
    f.scopeQuery .reject query = .ok (e.replace f.narrowing).print := by
  refine Filter.scopeQuery_reject_eq_ok_iff.mpr ⟨e, hread, rfl, checkIsolated_print h ?_⟩
  intro s hs
  rw [Expr.selectors_replace, Expr.selectors_replace] at hs
  obtain ⟨s', hs', rfl⟩ := List.mem_map.mp hs
  obtain ⟨t, -, rfl⟩ := List.mem_map.mp hs'
  exact ⟨t, rfl⟩

section

variable (hf : f.Plain) {query : Text} {e : Expr} (hread : Query.read query = .ok e)
include hf hread

/-- The printed injection of a tree with tame names is read back, up to its leaves, exactly when all
names are read bare and no modifier clashes. -/
theorem read_print_narrowed_iff (htame : e.Everywhere Expr.Tame) :
    Query.read (e.replace f.narrowing).print =
        .ok ((e.replace f.narrowing).replace rereading) ↔
      e.Everywhere Expr.Bare ∧ e.Everywhere Expr.Clear := by
  have hconservative := narrowing_conservative hf
  rw [read_print_iff (hconservative.at_replace (read_at hread))
    ((Expr.everywhere_replace f.worded_narrowed e).mpr htame)]
  rw [Expr.everywhere_replace (fun d => and_congr (hconservative.bare_replace d)
    (hconservative.clear_replace d)) e]
  exact forall₂_and

/-- Rewriting a query whose names and literals are read as they are written gives the text of the
injected tree, which is read as that tree, exactly when no modifier clashes with the operand behind
it. -/
theorem inject_roundTrip (hbare : e.Everywhere Expr.Bare) (hexact : e.Everywhere Expr.Exact) :
    (Query.read (f.inject 0 e).tree.print = .ok (f.inject 0 e).tree ↔
        e.Everywhere Expr.Clear) ∧
      (e.Everywhere Expr.Clear →
        f.scopeQuery .reject query = .ok (f.inject 0 e).tree.print) := by
  have hself : (e.replace f.narrowing).replace rereading = e.replace f.narrowing :=
    ((narrowing_conservative hf).at_replace (read_at hread)).replace_rereading
      ((Expr.everywhere_replace f.exact_narrowed e).mpr hexact)
  have hiff := read_print_narrowed_iff hf hread (hbare.mono fun _ hd => hd.tame)
  rw [f.inject_tree]
  refine ⟨?_, fun hclear => scopeQuery_of_read_print hread (hiff.mpr ⟨hbare, hclear⟩)⟩
  rw [hself] at hiff
  exact hiff.trans (and_iff_right hbare)

end

/-- The sum of a metric and another operand, matched on one label with an empty group list. -/
def groupedSum (right : Expr) : Expr :=
  .binary .add (some ⟨false, some ⟨.on, ["x".toList], some ⟨.left, []⟩⟩⟩)
    (.vector ⟨some "a".toList, [], .empty⟩) right

theorem everywhere_groupedSum {P : Expr → Prop} {right : Expr} (hsum : P (groupedSum right))
    (hleft : P (.vector ⟨some "a".toList, [], .empty⟩)) (hright : right.Everywhere P) :
    (groupedSum right).Everywhere P := by
  refine Expr.everywhere_iff.mpr ⟨hsum, fun c hc => ?_⟩
  rcases List.mem_cons.mp hc with rfl | hc
  · exact Expr.everywhere_leaf hleft rfl
  · cases List.mem_singleton.mp hc
    exact hright

theorem oneTenant_plain : oneTenant.Plain := by
  intro m hm
  cases List.mem_singleton.mp hm
  decide

theorem inject_roundTrip_metric :
    let e := groupedSum (.vector ⟨some "b".toList, [], .empty⟩)
    (Query.read "a + on(x) group_left() b".toList = .ok e ∧ e.Everywhere Expr.Bare ∧
        e.Everywhere Expr.Exact) ∧
      Query.read (oneTenant.inject 0 e).tree.print = .ok (oneTenant.inject 0 e).tree ∧
        oneTenant.scopeQuery .reject "a + on(x) group_left() b".toList =
          .ok "a\x7btenant=\"t1\"\x7d + on (x) group_left b\x7btenant=\"t1\"\x7d".toList := by
  intro e
  have hread : Query.read "a + on(x) group_left() b".toList = .ok e := rfl
  have hname : ∀ n ∈ ["a".toList, "b".toList], isBareName n = true := by decide
  have hbare : e.Everywhere Expr.Bare := by
    refine everywhere_groupedSum trivial ?_ (Expr.everywhere_leaf ?_ rfl)
    · rintro n ⟨⟩
      exact hname _ List.mem_cons_self
    · rintro n ⟨⟩
      exact hname _ (List.mem_cons_of_mem _ List.mem_cons_self)
  have hexact : e.Everywhere Expr.Exact :=
    everywhere_groupedSum trivial (fun _ h => (nomatch h))
      (Expr.everywhere_leaf (fun _ h => (nomatch h)) rfl)
  have hclear : e.Everywhere Expr.Clear :=
    everywhere_groupedSum rfl trivial (Expr.everywhere_leaf trivial rfl)
  obtain ⟨hiff, hscope⟩ := oneTenant.inject_roundTrip oneTenant_plain hread hbare hexact
  refine ⟨⟨hread, hbare, hexact⟩, hiff.mpr hclear, (hscope hclear).trans ?_⟩
  rw [oneTenant.inject_tree]
  rfl

/-- Where a word in parentheses stands behind an empty group list, which is not printed, the query
is refused. -/
theorem not_inject_roundTrip_word :
    let e := groupedSum (.paren (.number .infinity))
    (Query.read "a + on(x) group_left() (inf)".toList = .ok e ∧ e.Everywhere Expr.Bare ∧
        e.Everywhere Expr.Exact) ∧
      Query.read (oneTenant.inject 0 e).tree.print ≠ .ok (oneTenant.inject 0 e).tree ∧
        ∀ text, oneTenant.scopeQuery .reject "a + on(x) group_left() (inf)".toList ≠ .ok text := by
  intro e
  have hread : Query.read "a + on(x) group_left() (inf)".toList = .ok e := rfl
  have hword : number? Binary64.infinity.text = some (.infinity, []) := by decide
  have hparen : ∀ P : Expr → Prop, P (.paren (.number .infinity)) → P (.number .infinity) →
      (Expr.paren (.number .infinity)).Everywhere P := by
    intro P hparen hnumber
    refine Expr.everywhere_iff.mpr ⟨hparen, fun c hc => ?_⟩
    cases List.mem_singleton.mp hc
    exact Expr.everywhere_leaf hnumber rfl
  have hbare : e.Everywhere Expr.Bare := by
    refine everywhere_groupedSum trivial ?_ (hparen _ trivial trivial)
    rintro n ⟨⟩
    decide
  have hexact : e.Everywhere Expr.Exact :=
    everywhere_groupedSum trivial (fun _ h => (nomatch h)) (hparen _ trivial hword)
  have hrefused : Query.read (e.replace oneTenant.narrowing).print =
      .error ⟨[], .name⟩ := rfl
  refine ⟨⟨hread, hbare, hexact⟩, ?_, fun text htext => ?_⟩
  · rw [oneTenant.inject_tree, hrefused]
    exact nofun
  · obtain ⟨d, hd, rfl, hcheck⟩ := Filter.scopeQuery_reject_eq_ok_iff.mp htext
    cases hread.symm.trans hd
    obtain ⟨x, hx, -⟩ := Filter.checkIsolated_eq_ok_iff.mp hcheck
    rw [hrefused] at hx
    cases hx

end Filter
end TenantScope
