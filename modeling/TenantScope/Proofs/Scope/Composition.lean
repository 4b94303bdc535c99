/- Queries scoped to one filter and then to another are scoped to both at once. -/
import TenantScope.Proofs.Scope.RoundTrip

namespace TenantScope

open Query

namespace Filter

/-- The filter of the matchers of one filter and then those of another. -/
def append (f g : Filter) : Filter :=
  ⟨f.matchers ++ g.matchers, List.append_ne_nil_of_left_ne_nil f.nonempty g.matchers⟩

variable {f g : Filter}

theorem append_plain (hf : f.Plain) (hg : g.Plain) : (f.append g).Plain := by
  intro m hm
  rcases List.mem_append.mp hm with hm | hm
  · exact hf m hm
  · exact hg m hm

theorem narrow_append (f g : Filter) : (f.append g).narrow = g.narrow ∘ f.narrow := by
  funext s
  simp only [narrow, append, Function.comp_apply, List.append_assoc]

theorem replace_narrowing_append (f g : Filter) (e : Expr) :
    (e.replace f.narrowing).replace g.narrowing = e.replace (f.append g).narrowing := by
  rw [Expr.replace_replace, narrowing, narrowing, narrowing, narrow_append]
  rfl

/-- A text passes the check for an appended filter exactly if it does for both parts. -/
theorem checkIsolated_append_iff {text : Text} :
    (f.append g).checkIsolated text = .ok () ↔
      f.checkIsolated text = .ok () ∧ g.checkIsolated text = .ok () := by
  simp only [checkIsolated_eq_ok_iff]
  constructor
  · rintro ⟨e, hread, hcarries⟩
    constructor
    · exact ⟨e, hread, fun s hs m hm => hcarries s hs m (List.mem_append_left _ hm)⟩
    · exact ⟨e, hread, fun s hs m hm => hcarries s hs m (List.mem_append_right _ hm)⟩
  · rintro ⟨⟨e, hread, hf⟩, d, hd, hg⟩
    cases hread.symm.trans hd
    refine ⟨e, hread, ?_⟩
    intro s hs m hm
    rcases List.mem_append.mp hm with hm | hm
    · exact hf s hs m hm
    · exact hg s hs m hm

section

variable (hf : f.Plain) {query : Text} {e : Expr} (hread : Query.read query = .ok e)
  (hbare : e.Everywhere Expr.Bare)
include hf hread hbare

theorem scopeQuery_of_clear (hclear : e.Everywhere Expr.Clear) :
    f.scopeQuery .reject query = .ok (e.replace f.narrowing).print :=
  scopeQuery_of_read_print hread
    ((read_print_narrowed_iff hf hread (hbare.mono fun _ hd => hd.tame)).mpr ⟨hbare, hclear⟩)

/-- With exact literals, the text of an injected tree is read as that tree exactly when no modifier
clashes. -/
theorem read_print_narrowed_iff_clear (hexact : e.Everywhere Expr.Exact) :
    Query.read (e.replace f.narrowing).print = .ok (e.replace f.narrowing) ↔
      e.Everywhere Expr.Clear := by
  have hself : (e.replace f.narrowing).replace rereading = e.replace f.narrowing :=
    ((narrowing_conservative hf).at_replace (read_at hread)).replace_rereading
      ((Expr.everywhere_replace f.exact_narrowed e).mpr hexact)
  have hiff := read_print_narrowed_iff hf hread (hbare.mono fun _ hd => hd.tame)
  rw [hself] at hiff
  exact hiff.trans (and_iff_right hbare)

end

/-- What one filter makes of a query is read as the injected tree exactly when no modifier clashes.
A second filter then makes of it what the appended filter makes of the query itself. Whatever the
appended filter makes of a query passes the check for both filters. -/
theorem scopeQuery_append (hf : f.Plain) (hg : g.Plain) {query text : Text} {e : Expr}
    (hread : Query.read query = .ok e) (hbare : e.Everywhere Expr.Bare)
    (hexact : e.Everywhere Expr.Exact) (hscope : f.scopeQuery .reject query = .ok text) :
    (Query.read text = .ok (f.inject 0 e).tree ↔ e.Everywhere Expr.Clear) ∧
      (e.Everywhere Expr.Clear →
        g.scopeQuery .reject text = (f.append g).scopeQuery .reject query ∧
          (f.append g).scopeQuery .reject query = .ok ((f.append g).inject 0 e).tree.print) ∧
      ∀ both, (f.append g).scopeQuery .reject query = .ok both →
        f.checkIsolated both = .ok () ∧ g.checkIsolated both = .ok () := by
  obtain ⟨d, hd, rfl, -⟩ := scopeQuery_reject_eq_ok_iff.mp hscope
  cases hread.symm.trans hd
  have hiff := read_print_narrowed_iff_clear hf hread hbare hexact
  rw [f.inject_tree, (f.append g).inject_tree]
  refine ⟨hiff, ?_, ?_⟩
  · intro hclear
    have hboth := scopeQuery_of_clear (append_plain hf hg) hread hbare hclear
    -- the second pass reads the injected tree, which has the names and the clashes of the first
    have hconservative := narrowing_conservative hf
    have hsecond := scopeQuery_of_clear hg (hiff.mpr hclear)
      ((Expr.everywhere_replace hconservative.bare_replace e).mpr hbare)
      ((Expr.everywhere_replace hconservative.clear_replace e).mpr hclear)
    rw [replace_narrowing_append] at hsecond
    exact ⟨hsecond.trans hboth.symm, hboth⟩
  · intro both h
    obtain ⟨-, -, -, hcheck⟩ := scopeQuery_reject_eq_ok_iff.mp h
    exact checkIsolated_append_iff.mp hcheck

/-- The filter of one environment. -/
def oneEnvironment : Filter :=
  ⟨[⟨"env".toList, .equal, "p".toList⟩], List.cons_ne_nil _ _⟩

theorem oneEnvironment_plain : oneEnvironment.Plain := by
  intro m hm
  cases List.mem_singleton.mp hm
  decide

theorem scopeQuery_append_metric :
    let query := "a + on(x) group_left() b".toList
    let e := groupedSum (.vector ⟨some "b".toList, [], .empty⟩)
    let once := "a\x7btenant=\"t1\"\x7d + on (x) group_left b\x7btenant=\"t1\"\x7d".toList
    let twice := ("a\x7btenant=\"t1\", env=\"p\"\x7d + on (x) group_left " ++
      "b\x7btenant=\"t1\", env=\"p\"\x7d").toList
    (Query.read query = .ok e ∧ e.Everywhere Expr.Bare ∧ e.Everywhere Expr.Exact ∧
        e.Everywhere Expr.Clear ∧ oneTenant.scopeQuery .reject query = .ok once) ∧
      Query.read once = .ok (oneTenant.inject 0 e).tree ∧
      oneEnvironment.scopeQuery .reject once = .ok twice ∧
      oneTenant.checkIsolated twice = .ok () ∧ oneEnvironment.checkIsolated twice = .ok () := by
  intro query e once twice
  have hread : Query.read query = .ok e := rfl
  have hbare : e.Everywhere Expr.Bare := by decide
  have hexact : e.Everywhere Expr.Exact := by decide
  have hclear : e.Everywhere Expr.Clear := by decide
  have hscope : oneTenant.scopeQuery .reject query = .ok once :=
    scopeQuery_of_clear oneTenant_plain hread hbare hclear
  obtain ⟨hiff, hcompose, hchecks⟩ :=
    scopeQuery_append oneTenant_plain oneEnvironment_plain hread hbare hexact hscope
  obtain ⟨hsecond, hboth⟩ := hcompose hclear
  have htwice : (oneTenant.append oneEnvironment).scopeQuery .reject query = .ok twice := by
    rw [hboth, inject_tree]
    rfl
  exact ⟨⟨hread, hbare, hexact, hclear, hscope⟩, hiff.mpr hclear, hsecond.trans htwice,
    hchecks twice htwice⟩

/-- A word in parentheses behind an empty group list, which is not printed, is read as that list the
second time, and the sum behind it as one with a signed operand: the texts differ by a blank. -/
theorem not_scopeQuery_append_word :
    let query := "a + on(x) group_left() (inf) + b".toList
    let e := Expr.binary .add none (groupedSum (.paren (.number .infinity)))
      (.vector ⟨some "b".toList, [], .empty⟩)
    let once := ("a\x7btenant=\"t1\"\x7d + on (x) group_left (Inf) + " ++
      "b\x7btenant=\"t1\"\x7d").toList
    (oneTenant.Plain ∧ oneEnvironment.Plain ∧ Query.read query = .ok e ∧
        e.Everywhere Expr.Bare ∧ e.Everywhere Expr.Exact ∧
        oneTenant.scopeQuery .reject query = .ok once) ∧
      oneEnvironment.scopeQuery .reject once =
        .ok ("a\x7btenant=\"t1\", env=\"p\"\x7d + on (x) group_left (Inf) " ++
          "+b\x7btenant=\"t1\", env=\"p\"\x7d").toList ∧
      (oneTenant.append oneEnvironment).scopeQuery .reject query =
        .ok ("a\x7btenant=\"t1\", env=\"p\"\x7d + on (x) group_left (Inf) " ++
          "+ b\x7btenant=\"t1\", env=\"p\"\x7d").toList ∧
      oneEnvironment.scopeQuery .reject once ≠
        (oneTenant.append oneEnvironment).scopeQuery .reject query := by
  intro query e once
  have hread : Query.read query = .ok e := rfl
  have hbare : e.Everywhere Expr.Bare := by decide
  have hexact : e.Everywhere Expr.Exact := by decide
  have hscope : oneTenant.scopeQuery .reject query = .ok once := by decide +kernel
  have hsecond : oneEnvironment.scopeQuery .reject once =
      .ok ("a\x7btenant=\"t1\", env=\"p\"\x7d + on (x) group_left (Inf) " ++
        "+b\x7btenant=\"t1\", env=\"p\"\x7d").toList := by decide +kernel
  have hboth : (oneTenant.append oneEnvironment).scopeQuery .reject query =
      .ok ("a\x7btenant=\"t1\", env=\"p\"\x7d + on (x) group_left (Inf) " ++
        "+ b\x7btenant=\"t1\", env=\"p\"\x7d").toList := by decide +kernel
  refine ⟨⟨oneTenant_plain, oneEnvironment_plain, hread, hbare, hexact, hscope⟩, hsecond, hboth,
    ?_⟩
  rw [hsecond, hboth]
  decide

end Filter
end TenantScope
