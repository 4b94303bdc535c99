/- A printed selector is read back, with the modifiers that its text shows. -/
import TenantScope.Proofs.Query.Following
import TenantScope.Proofs.Query.Names
import TenantScope.Proofs.Query.Quoting

namespace TenantScope.Query

/-! Matchers -/

/-- A matcher whose label is one whole label name. -/
def Matcher.Labelled (m : Matcher) : Prop := labelName? m.name = some (m.name, [])

theorem Matcher.print_cons {m : Matcher} (hm : m.Labelled) :
    ∃ c w, m.print = c :: w ∧ isLabelStart c = true := by
  obtain ⟨c, t, hname, hc, -⟩ := word?_cons hm
  exact ⟨c, t ++ m.op.text ++ quote m.value, by rw [Matcher.print, hname]; rfl, hc⟩

theorem Matcher.print_isInk {m : Matcher} (hm : m.Labelled) :
    ∃ c w, m.print = c :: w ∧ isInk c = true := by
  obtain ⟨c, w, hw, hc⟩ := m.print_cons hm
  exact ⟨c, w, hw, isInk_of_isMetricStart (isMetricStart_of_isLabelStart hc)⟩

theorem wordOf?_matchOp (op : MatchOp) (v s : Text) :
    wordOf? MatchOp.text MatchOp.all (skip (op.text ++ (quote v ++ s))) =
      some (op, quote v ++ s) := by
  cases op <;> rfl

theorem matcher?_print_append {m : Matcher} (hm : m.Labelled) (s : Text) :
    matcher? (m.print ++ s) = some (m, s) := by
  obtain ⟨c, w, hw, hc⟩ := m.print_isInk hm
  have hskip : skip (m.print ++ s) = m.name ++ (m.op.text ++ (quote m.value ++ s)) := by
    rw [hw, List.cons_append, skip_of_isInk hc, ← List.cons_append, ← hw, Matcher.print,
      List.append_assoc, List.append_assoc]
  have hstop : Text.StopsAt isLabelChar (m.op.text ++ (quote m.value ++ s)) := by
    cases m.op <;> exact .cons (by decide)
  have hquote : skip (quote m.value ++ s) = quote m.value ++ s := skip_of_isInk (by decide) _
  have hname : labelName? (m.name ++ (m.op.text ++ (quote m.value ++ s))) =
      some (m.name, m.op.text ++ (quote m.value ++ s)) := word?_append hm hstop
  have hread : namedMatcher? (m.print ++ s) = some (m, s) := by
    simp only [namedMatcher?, hskip, hname, wordOf?_matchOp, hquote, stringLiteral?_quote_append,
      Option.bind_eq_bind, Option.bind_some, pure]
  rw [matcher?, hread]
  rfl

/-- A printed matcher list is read as its matchers. -/
theorem matcherList_append {ms : List Matcher} (hne : ms ≠ []) (hms : ∀ m ∈ ms, m.Labelled)
    (s : Text) : matcherList (matchersText ms ++ s) = .ok (ms, s) := by
  obtain ⟨m, ms, rfl⟩ := List.exists_cons_of_ne_nil hne
  have hink := fun n hn => Matcher.print_isInk (hms n hn)
  have hnil : ∀ n ∈ m :: ms, n.print ≠ [] := by
    intro n hn hnil
    obtain ⟨c, w, hw, -⟩ := hink n hn
    rw [hnil] at hw
    cases hw
  have hlength := length_le_commaList hnil
  have htext : matchersText (m :: ms) ++ s =
      '{' :: (commaList ((m :: ms).map Matcher.print) ++ '}' :: s) := by
    simp only [matchersText, List.cons_append, List.append_assoc, List.nil_append]
  have hskip := skip_commaList ms (hink m List.mem_cons_self) ('}' :: s)
  have hread : ∀ n ∈ m :: ms, ∀ t, FollowsItem ('}' :: s) t →
      ∃ r, matcher? (n.print ++ t) = some (id n, r) ∧ skip r = skip t :=
    fun n hn t _ => ⟨t, matcher?_print_append (hms n hn) t, rfl⟩
  have hfuel : (m :: ms).length ≤
      (commaList ((m :: ms).map Matcher.print) ++ '}' :: s).length + 1 := by
    rw [List.length_append]
    omega
  obtain ⟨r, hr, hrest⟩ := sepList_commaList (m :: ms) hread hink rfl hne hfuel
  have hclose : skip r = '}' :: s := hrest
  have hcomma : dropComma r = r := by
    rw [dropComma, hclose]
    rfl
  rw [List.map_id, List.map_cons] at hr
  rw [List.map_cons] at hskip htext
  rw [htext]
  simp only [matcherList, expect, if_true, bind, Except.bind, hskip, matchersInside, hr, hcomma,
    hclose, pure, Except.pure]

/-! Selectors -/

/-- Selectors as the reader makes them: each matcher has a label, none fixes the name of a selector
without name, and the modifiers are in range. -/
structure Selector.WellFormed (s : Selector) : Prop where
  labelled : ∀ m ∈ s.matchers, m.Labelled
  unfixed : s.name = none → ∀ m ∈ s.matchers, m.fixesName = false
  inRange : s.modifiers.InRange

/-- The selector that is read from the text of a selector. -/
def Selector.reread (s : Selector) : Selector := { s with modifiers := s.modifiers.reread }

theorem atSubquery_append {ms : Nat} (hms : ms ≤ maxInteger) (s : Text) :
    atSubquery ('[' :: durationText ms ++ ':' :: s) = true := by
  have hread := duration_durationText_append hms (s := ':' :: s) (.cons (by decide))
  simp only [List.cons_append, atSubquery, hread]

theorem modifiersFrom_skip {fuel : Nat} {m m' : Modifiers} {s r : Text}
    (h : modifiersFrom fuel m s = .ok (m', r)) :
    ∃ r', modifiersFrom fuel m (skip s) = .ok (m', r') ∧ skip r' = skip r := by
  cases fuel with
  | zero =>
      cases h
      exact ⟨skip s, rfl, skip_skip s⟩
  | succ fuel =>
      have hinstant : instant? (skip s) = instant? s := by rw [instant?, skip_skip, instant?]
      have hoffset : offset? (skip s) = offset? s := by rw [offset?, skip_skip, offset?]
      rw [modifiersFrom] at h ⊢
      rw [hinstant, hoffset]
      split at h
      · split at h
        · cases h
        · next hnone =>
          rw [if_neg hnone]
          exact ⟨r, h, rfl⟩
      · split at h
        · cases h
        · next hnone =>
          rw [if_neg hnone]
          exact ⟨r, h, rfl⟩
      · cases h
        exact ⟨skip s, rfl, skip_skip s⟩

/-- Modifiers and what follows them begin with a bracket only in front of a subquery range. -/
theorem atSubquery_modifiers {m : Modifiers} {s : Text} (hs : Follows .primary s)
    (hhead : (skip (m.print ++ s)).head? = some '[') : atSubquery (skip (m.print ++ s)) = true := by
  obtain ⟨instant, offset⟩ := m
  cases instant with
  | some i => cases hhead
  | none =>
      cases offset with
      | some ms => cases hhead
      | none =>
          cases hs with
          | nil => cases hhead
          | close s => cases hhead
          | comma s => cases hhead
          | operator hp op s => cases op <;> cases hhead
          | range hms s => exact atSubquery_append hms s

/-- What follows the matchers of a printed vector selector is read as its modifiers. -/
theorem selectorTail_vector {m : Modifiers} (hm : m.InRange) (name : Option Text)
    (ms : List Matcher) {s : Text} (hs : Follows .primary s) :
    ∃ r, selectorTail name ms (m.print ++ s) = .ok (.vector ⟨name, ms, m.reread⟩, r) ∧
      skip r = skip s := by
  obtain ⟨r, hr, hskip⟩ := modifiersFrom_skip (modifiers_print_append hm hs)
  refine ⟨r, ?_, hskip⟩
  rw [← modifiers] at hr
  have hsub := atSubquery_modifiers (m := m) hs
  generalize hfront : skip (m.print ++ s) = t at hr hsub
  rw [selectorTail, hfront]
  cases t with
  | nil => simp only [hr, bind, Except.bind, pure, Except.pure]
  | cons c t =>
      by_cases hc : c = '['
      · subst hc
        simp only [hsub rfl, if_true, hr, bind, Except.bind, pure, Except.pure]
      · have hother : ∀ inside, c :: t ≠ '[' :: inside := fun _ h => hc (List.cons.inj h).1
        simp only [hr, bind, Except.bind, pure, Except.pure]

/-- What follows the matchers of a printed matrix selector is read as its range and modifiers. -/
theorem selectorTail_matrix {m : Modifiers} (hm : m.InRange) {range : Nat}
    (hrange : range ≤ maxInteger) (name : Option Text) (ms : List Matcher) {p : Place} {s : Text}
    (hs : Follows p s) :
    selectorTail name ms ('[' :: durationText range ++ ']' :: (m.print ++ s)) =
      .ok (.matrix ⟨name, ms, m.reread⟩ range, s) := by
  have hread := duration_durationText_append hrange (s := ']' :: (m.print ++ s))
    (.cons (by decide))
  have hsub : atSubquery ('[' :: (durationText range ++ ']' :: (m.print ++ s))) = false := by
    simp only [atSubquery, hread]
    rfl
  have hskip : skip ('[' :: (durationText range ++ ']' :: (m.print ++ s))) =
      '[' :: (durationText range ++ ']' :: (m.print ++ s)) := skip_of_isInk (by decide) _
  rw [List.cons_append]
  simp only [selectorTail, hskip, hsub, Bool.false_eq_true, if_false, hread, expect, if_true,
    modifiers_print_append hm hs, bind, Except.bind, pure, Except.pure]

theorem find?_fixesName {ms : List Matcher} (h : ∀ m ∈ ms, m.fixesName = false) :
    ms.find? Matcher.fixesName = none ∧ (ms.filter fun m => !m.fixesName) = ms := by
  constructor
  · exact List.find?_eq_none.mpr fun m hm => Bool.not_eq_true _ ▸ h m hm
  · exact List.filter_eq_self.mpr fun m hm => by rw [h m hm]; rfl

section

variable {fuel : Nat} {expr : Reader Expr} {s : Selector} (hs : s.WellFormed)
  (hmatchers : s.matchers ≠ []) (hname : ∀ n ∈ s.name, isBareName n = true)
include hs hmatchers hname

/-- The name and the matchers of a printed selector are read, and what follows them is read as its
tail. -/
theorem primary_nameAndMatchers (rest : Text) :
    primary fuel expr (s.nameAndMatchers ++ rest) = selectorTail s.name s.matchers rest ∨
      ∃ t, primary fuel expr (s.nameAndMatchers ++ rest) =
        (selectorTail s.name s.matchers rest).mapError fun _ => ⟨t, .name⟩ := by
  have hlist := matcherList_append hmatchers hs.labelled rest
  obtain ⟨w, hw⟩ : ∃ w, matchersText s.matchers ++ rest = '{' :: w := by
    obtain ⟨m, ms, hms⟩ := List.exists_cons_of_ne_nil hmatchers
    rw [hms]
    exact ⟨_, rfl⟩
  rw [Selector.nameAndMatchers, List.append_assoc]
  cases hn : s.name with
  | none =>
      obtain ⟨hfind, hfilter⟩ := find?_fixesName (hs.unfixed hn)
      refine .inr ⟨matchersText s.matchers ++ rest, ?_⟩
      have hselector : matcherSelector (matchersText s.matchers ++ rest) =
          selectorTail none s.matchers rest := by
        simp only [matcherSelector, hlist, bind, Except.bind, hfind, Option.map_none, hfilter]
      rw [Option.getD_none, List.nil_append, ← hselector, hw]
      rfl
  | some n =>
      left
      rw [Option.getD_some, hw, primary_of_isBareName (hname n hn) (by decide)]
      have hskip : skip ('{' :: w) = '{' :: w := skip_of_isInk (by decide) w
      rw [hskip, if_neg (by simp)]
      rw [hw] at hlist
      simp only [namedSelector, hlist, bind, Except.bind]

theorem primary_selector_of_tail {rest r : Text} {e : Expr}
    (htail : selectorTail s.name s.matchers rest = .ok (e, r)) :
    primary fuel expr (s.nameAndMatchers ++ rest) = .ok (e, r) := by
  have hread : primary fuel expr (s.nameAndMatchers ++ rest) = _ ∨ _ :=
    primary_nameAndMatchers hs hmatchers hname rest
  rcases hread with h | ⟨t, ht⟩
  · rw [h, htail]
  · rw [ht, htail]
    rfl

/-- A printed vector selector is read back. -/
theorem primary_vector_append {rest : Text} (hrest : Follows .primary rest) :
    ∃ r, primary fuel expr ((Expr.vector s).print ++ rest) = .ok (.vector s.reread, r) ∧
      skip r = skip rest := by
  obtain ⟨r, hr, hskip⟩ := selectorTail_vector hs.inRange s.name s.matchers hrest
  refine ⟨r, ?_, hskip⟩
  rw [Expr.print, Selector.print, List.append_assoc]
  exact primary_selector_of_tail hs hmatchers hname hr

/-- A printed matrix selector is read back. -/
theorem primary_matrix_append {range : Nat} (hrange : range ≤ maxInteger) {rest : Text}
    (hrest : Follows .primary rest) :
    primary fuel expr ((Expr.matrix s range).print ++ rest) =
      .ok (.matrix s.reread range, rest) := by
  have htail := selectorTail_matrix hs.inRange hrange s.name s.matchers hrest
  have htext : (Expr.matrix s range).print ++ rest =
      s.nameAndMatchers ++ ('[' :: durationText range ++ ']' :: (s.modifiers.print ++ rest)) := by
    simp only [Expr.print, List.append_assoc, List.cons_append]
  rw [htext]
  exact primary_selector_of_tail hs hmatchers hname htail

end

end TenantScope.Query
