/- Filters are read back from their texts. -/
import TenantScope.Proofs.Scope.Acceptance

namespace TenantScope

open Query

namespace Filter

variable {f : Filter}

theorem print_eq (f : Filter) : f.print = matchersText f.matchers := by
  simp only [print, Selector.print, Selector.nameAndMatchers, Option.getD_none, List.nil_append,
    Modifiers.print, Modifiers.empty, List.append_nil]

theorem exists_print (f : Filter) : ∃ inside, f.print = '{' :: inside ++ ['}'] := by
  obtain ⟨m, ms, hms⟩ := List.exists_cons_of_ne_nil f.nonempty
  rw [f.print_eq, hms]
  exact ⟨_, rfl⟩

theorem braced_print (f : Filter) : braced f.print = f.print := by
  obtain ⟨inside, h⟩ := f.exists_print
  -- the braces are there already, and no blanks around them
  rw [h, braced, Text.trim, Text.trimBy_enclosed (by decide) (by decide)]
  rfl

theorem matchersOfText_print (hf : ∀ m ∈ f.matchers, m.Labelled) :
    matchersOfText f.print = .ok f.matchers := by
  have hread : matcherList f.print = .ok (f.matchers, []) := by
    rw [f.print_eq, ← List.append_nil (matchersText f.matchers)]
    exact matcherList_append f.nonempty hf []
  rw [matchersOfText, hread]
  rfl

theorem ofMatchers_matchers (f : Filter) : ofMatchers f.matchers = .ok f := dif_neg f.nonempty

theorem ofMatchers_eq_ok {ms : List Matcher} (h : ofMatchers ms = .ok f) : f.matchers = ms := by
  unfold ofMatchers at h
  split at h
  · cases h
  · cases h
    rfl

/-! What the matchers of a filter are called -/

theorem labelled_of_ofText {s : Text} (h : ofText s = .ok f) : ∀ m ∈ f.matchers, m.Labelled := by
  unfold ofText at h
  split at h
  · cases h
  · next ms hread =>
    obtain ⟨⟨ms', rest⟩, hlist, htail⟩ := bind_eq_ok hread
    dsimp only at htail
    split at htail
    · cases htail
      rw [ofMatchers_eq_ok (mapError_eq_ok h)]
      exact matcherList_labelled hlist
    · cases htail

/-- A filter is read back from its text exactly when each of its matchers has a whole label name,
which is printed as it stands. -/
theorem ofText_print_iff : ofText f.print = .ok f ↔ ∀ m ∈ f.matchers, m.Labelled := by
  constructor
  · exact labelled_of_ofText
  · intro hf
    rw [ofText, braced_print, matchersOfText_print hf]
    simp only [ofMatchers_matchers, Except.mapError]

theorem labelled_of_ofTenant {s : Settings} (hs : s.validate = .ok ()) {tenant : Text}
    (h : ofTenant tenant s.tenantLabel = .ok f) : ∀ m ∈ f.matchers, m.Labelled := by
  cases hchars : tenant.any isMatcherChar with
  | true =>
      rw [ofTenant, hchars] at h
      exact labelled_of_ofText h
  | false =>
      rw [ofTenant_of_not_isMatcherChar hchars] at h
      cases h
      intro m hm
      cases List.mem_singleton.mp hm
      exact Settings.labelName?_of_validate hs

/-- Every filter that a tenant is given has matchers and is read back from its text, whether the
tenant is a bare name or a list of matchers. -/
theorem ofText_print_of_ofTenant {s : Settings} (hs : s.validate = .ok ()) {tenant : Text}
    (h : ofTenant tenant s.tenantLabel = .ok f) :
    f.matchers ≠ [] ∧ ofText f.print = .ok f :=
  ⟨f.nonempty, ofText_print_iff.mpr (labelled_of_ofTenant hs h)⟩

/-- A quoted metric name in front of matchers without braces is printed as a matcher of the label of
metric names. -/
theorem ofText_print_of_ofTenant_metric :
    let f : Filter := ⟨[⟨metricLabel, .equal, "a\"b".toList⟩, ⟨"x".toList, .notRegex, []⟩],
      List.cons_ne_nil _ _⟩
    Settings.oneMachine.validate = .ok () ∧
      ofTenant " 'a\"b', x !~ `` ,".toList "tenant".toList = .ok f ∧
        f.print = "\x7b__name__=\"a\\\"b\", x!~\"\"\x7d".toList ∧ ofText f.print = .ok f := by
  intro f
  have h : ofTenant " 'a\"b', x !~ `` ,".toList "tenant".toList = .ok f := by decide +kernel
  have hback := ofText_print_of_ofTenant Settings.oneMachine_validate h
  exact ⟨Settings.oneMachine_validate, h, rfl, hback.2⟩

end Filter
end TenantScope
