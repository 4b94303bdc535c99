/- Printed label lists and modifiers of operators are read back, unless the operand behind them goes
on like them. -/
import TenantScope.Proofs.Query.Grammar

namespace TenantScope.Query

/-! Label lists -/

theorem clauseLabel?_append {l s : Text} (hl : clauseLabel? l = some (l, []))
    (hs : Text.StopsAt isLabelChar s) : clauseLabel? (l ++ s) = some (l, s) := by
  obtain ⟨hword, hfree⟩ := Option.filter_eq_some_iff.mp hl
  exact Option.filter_eq_some_iff.mpr ⟨word?_append hword hs, hfree⟩

theorem clauseLabel?_isInk {l : Text} (hl : clauseLabel? l = some (l, [])) :
    ∃ c w, l = c :: w ∧ isInk c = true := by
  obtain ⟨c, w, hw, hc, -⟩ := word?_cons (Option.filter_eq_some_iff.mp hl).1
  exact ⟨c, w, hw, isInk_of_isMetricStart (isMetricStart_of_isLabelStart hc)⟩

/-- A printed label list is read as its labels. -/
theorem labelList?_append {ls : List Text} (hls : ∀ l ∈ ls, clauseLabel? l = some (l, []))
    (s : Text) : labelList? (labelsText ls ++ s) = some (ls, s) := by
  have htext : labelsText ls ++ s = '(' :: (commaList ls ++ ')' :: s) := by
    simp only [labelsText, List.cons_append, List.append_assoc, List.nil_append]
  rw [htext]
  cases ls with
  | nil => rfl
  | cons l ls =>
      have hink := fun m hm => clauseLabel?_isInk (hls m hm)
      have hnil : ∀ m ∈ l :: ls, id m ≠ [] := by
        rintro m hm rfl
        cases hls _ hm
      have hlength := length_le_commaList hnil
      have hskip : skip (commaList ((l :: ls).map id) ++ ')' :: s) = _ :=
        skip_commaList ls (hink l List.mem_cons_self) (')' :: s)
      have hread : ∀ m ∈ l :: ls, ∀ t, FollowsItem (')' :: s) t →
          ∃ r, clauseLabel? (id m ++ t) = some (id m, r) ∧ skip r = skip t := by
        intro m hm t ht
        refine ⟨t, clauseLabel?_append (hls m hm) ?_, rfl⟩
        rcases ht with rfl | ⟨t, rfl⟩ <;> exact .cons (by decide)
      have hfuel : (l :: ls).length ≤ (commaList (l :: ls) ++ ')' :: s).length + 1 := by
        rw [List.map_id] at hlength
        rw [List.length_append]
        omega
      obtain ⟨r, hr, hrest⟩ :=
        sepList_commaList (l :: ls) hread hink rfl (List.cons_ne_nil l ls) hfuel
      have hclose : skip r = ')' :: s := hrest
      rw [List.map_id] at hr hskip
      simp only [labelList?, hskip, hr, hclose]

theorem skip_labelsText (ls : List Text) (s : Text) :
    skip (labelsText ls ++ s) = labelsText ls ++ s := rfl

/-- A printed grouping is read back. -/
theorem grouping?_append {g : Grouping} (hg : g.WellFormed) (s : Text) :
    grouping? (g.print ++ s) = some (g, s) := by
  have hmode : ([GroupingMode.by, .without].findSome? fun mode =>
      (Text.dropWord? mode.text (g.mode.text ++ ' ' :: (labelsText g.labels ++ s))).map
        fun rest => (mode, rest)) = some (g.mode, ' ' :: (labelsText g.labels ++ s)) := by
    cases g.mode <;> rfl
  have htext : g.print ++ s = g.mode.text ++ ' ' :: (labelsText g.labels ++ s) := by
    simp only [Grouping.print, List.append_assoc, List.cons_append]
  rw [htext]
  simp only [grouping?, hmode, skip_space, skip_labelsText, labelList?_append hg,
    Option.bind_eq_bind, Option.bind_some, pure]

/-! Modifiers of binary operators -/

/-- Whether the reader of a modifier goes on into the text behind it. -/
def runsOn (m : Option BinaryModifier) (s : Text) : Bool :=
  match m with
  | none => (Text.dropKeyword? "bool".toList s).isSome || (vectorMatching? s).isSome
  | some ⟨_, none⟩ => (vectorMatching? s).isSome
  | some ⟨_, some ⟨_, _, none⟩⟩ => (groupModifier? s).isSome
  | some ⟨_, some ⟨_, _, some ⟨_, []⟩⟩⟩ => (labelList? s).isSome
  | some ⟨_, some ⟨_, _, some ⟨_, _ :: _⟩⟩⟩ => false

theorem keywordOf?_groupSide (side : GroupSide) (s : Text) :
    keywordOf? GroupSide.text [.left, .right] (side.text ++ ' ' :: s) = some (side, ' ' :: s) := by
  cases side <;> rfl

theorem keywordOf?_matchingMode (mode : MatchingMode) (s : Text) :
    keywordOf? MatchingMode.text [.on, .ignoring] (mode.text ++ ' ' :: s) =
      some (mode, ' ' :: s) := by
  cases mode <;> rfl

/-- A group modifier without labels takes over a label list that follows it. -/
theorem groupModifier?_bare (side : GroupSide) {s : Text} (hs : skip s = s) :
    groupModifier? ((⟨side, []⟩ : GroupModifier).print ++ ' ' :: s) =
      match labelList? s with
      | some (labels, r) => some (⟨side, labels⟩, r)
      | none => some (⟨side, []⟩, s) := by
  have htext : (⟨side, []⟩ : GroupModifier).print ++ ' ' :: s = side.text ++ ' ' :: s := by
    simp only [GroupModifier.print, if_true, List.append_nil]
  rw [htext]
  cases hread : labelList? s <;>
    simp only [groupModifier?, keywordOf?_groupSide, skip_space, hs, hread, Option.bind_eq_bind,
      Option.bind_some, pure]

theorem groupModifier?_labelled {g : GroupModifier}
    (hg : ∀ l ∈ g.labels, clauseLabel? l = some (l, [])) (hne : g.labels ≠ []) (s : Text) :
    groupModifier? (g.print ++ ' ' :: s) = some (g, ' ' :: s) := by
  have htext : g.print ++ ' ' :: s = g.side.text ++ ' ' :: (labelsText g.labels ++ ' ' :: s) := by
    simp only [GroupModifier.print, hne, if_false, List.append_assoc, List.cons_append]
  rw [htext]
  simp only [groupModifier?, keywordOf?_groupSide, skip_space, skip_labelsText,
    labelList?_append hg, Option.bind_eq_bind, Option.bind_some, pure]

theorem skip_groupModifier (g : GroupModifier) (s : Text) : skip (g.print ++ s) = g.print ++ s := by
  obtain ⟨side, labels⟩ := g
  cases side <;> rfl

section

variable (mode : MatchingMode) {labels : List Text}
  (hlabels : ∀ l ∈ labels, clauseLabel? l = some (l, []))
include hlabels

/-- A matching without a group modifier takes over one that follows it. -/
theorem vectorMatching?_ungrouped {s : Text} (hs : skip s = s) :
    vectorMatching? ((⟨mode, labels, none⟩ : VectorMatching).print ++ ' ' :: s) =
      match groupModifier? s with
      | some (g, r) => some (⟨mode, labels, some g⟩, r)
      | none => some (⟨mode, labels, none⟩, s) := by
  have htext : (⟨mode, labels, none⟩ : VectorMatching).print ++ ' ' :: s =
      mode.text ++ ' ' :: (labelsText labels ++ ' ' :: s) := by
    simp only [VectorMatching.print, List.append_assoc, List.cons_append, List.append_nil]
  rw [htext]
  cases hread : groupModifier? s <;>
    simp only [vectorMatching?, keywordOf?_matchingMode, skip_space, skip_labelsText,
      labelList?_append hlabels, hs, hread, Option.bind_eq_bind, Option.bind_some, pure]

theorem vectorMatching?_grouped {g g' : GroupModifier} {s r : Text}
    (h : groupModifier? (g.print ++ ' ' :: s) = some (g', r)) :
    vectorMatching? ((⟨mode, labels, some g⟩ : VectorMatching).print ++ ' ' :: s) =
      some (⟨mode, labels, some g'⟩, r) := by
  have htext : (⟨mode, labels, some g⟩ : VectorMatching).print ++ ' ' :: s =
      mode.text ++ ' ' :: (labelsText labels ++ ' ' :: (g.print ++ ' ' :: s)) := by
    simp only [VectorMatching.print, List.append_assoc, List.cons_append]
  rw [htext]
  simp only [vectorMatching?, keywordOf?_matchingMode, skip_space, skip_labelsText,
    labelList?_append hlabels, skip_groupModifier, h, Option.bind_eq_bind, Option.bind_some, pure]

end

theorem dropKeyword?_bool (s : Text) :
    Text.dropKeyword? "bool".toList ("bool".toList ++ ' ' :: s) = some (' ' :: s) := rfl

/-- The modifier with a matching is read as its matching is. -/
theorem binaryModifier_matching (returnBool : Bool) {m m' : VectorMatching} {s r : Text}
    (h : vectorMatching? (m.print ++ ' ' :: s) = some (m', r)) :
    binaryModifier (modifierText (some ⟨returnBool, some m⟩) ++ ' ' :: s) =
      (some ⟨returnBool, some m'⟩, r) := by
  have hfront : skip (m.print ++ ' ' :: s) = m.print ++ ' ' :: s ∧
      Text.dropKeyword? "bool".toList (m.print ++ ' ' :: s) = none := by
    obtain ⟨mode, labels, group⟩ := m
    cases mode <;> exact ⟨rfl, rfl⟩
  cases returnBool with
  | false =>
      have htext : modifierText (some ⟨false, some m⟩) ++ ' ' :: s =
          ' ' :: (m.print ++ ' ' :: s) := rfl
      rw [htext]
      simp only [binaryModifier, skip_space, hfront.1, hfront.2, h]
  | true =>
      have hskip : skip (modifierText (some ⟨true, some m⟩) ++ ' ' :: s) =
          "bool".toList ++ ' ' :: (m.print ++ ' ' :: s) := rfl
      simp only [binaryModifier, hskip, dropKeyword?_bool, skip_space, hfront.1, h]

theorem binaryModifier_bool {s : Text} (hs : skip s = s) :
    binaryModifier (modifierText (some ⟨true, none⟩) ++ ' ' :: s) =
      match vectorMatching? s with
      | some (m, r) => (some ⟨true, some m⟩, r)
      | none => (some ⟨true, none⟩, s) := by
  have hskip : skip (modifierText (some ⟨true, none⟩) ++ ' ' :: s) =
      "bool".toList ++ ' ' :: s := rfl
  cases hread : vectorMatching? s <;>
    simp only [binaryModifier, hskip, dropKeyword?_bool, skip_space, hs, hread, if_true]

/-- The modifier of a binary operator is read back when the reader does not run on. -/
theorem binaryModifier_append {m : Option BinaryModifier} (hm : ∀ b ∈ m, b.WellFormed) {s : Text}
    (hs : skip s = s) (hstop : runsOn m s = false) :
    ∃ r, binaryModifier (modifierText m ++ ' ' :: s) = (m, r) ∧ skip r = s := by
  match m with
  | none =>
      obtain ⟨hbool, hmatching⟩ := Bool.or_eq_false_iff.mp hstop
      rw [Option.isSome_eq_false_iff, Option.isNone_iff_eq_none] at hbool hmatching
      refine ⟨s, ?_, hs⟩
      have htext : modifierText none ++ ' ' :: s = ' ' :: s := rfl
      rw [htext]
      simp only [binaryModifier, skip_space, hs, hbool, hmatching, Bool.false_eq_true, if_false]
  | some ⟨returnBool, none⟩ =>
      obtain rfl : returnBool = true := (hm _ rfl).nonempty rfl
      have hnone : vectorMatching? s = none := by
        simpa only [runsOn, Option.isSome_eq_false_iff, Option.isNone_iff_eq_none] using hstop
      exact ⟨s, by rw [binaryModifier_bool hs, hnone], hs⟩
  | some ⟨returnBool, some ⟨mode, labels, none⟩⟩ =>
      have hmatching := (hm _ rfl).matching _ rfl
      have hnone : groupModifier? s = none := by
        simpa only [runsOn, Option.isSome_eq_false_iff, Option.isNone_iff_eq_none] using hstop
      have hread := vectorMatching?_ungrouped mode hmatching.labels hs
      rw [hnone] at hread
      exact ⟨s, binaryModifier_matching returnBool hread, hs⟩
  | some ⟨returnBool, some ⟨mode, labels, some ⟨side, []⟩⟩⟩ =>
      have hmatching := (hm _ rfl).matching _ rfl
      have hnone : labelList? s = none := by
        simpa only [runsOn, Option.isSome_eq_false_iff, Option.isNone_iff_eq_none] using hstop
      have hgroup := groupModifier?_bare side hs
      rw [hnone] at hgroup
      have hread := vectorMatching?_grouped mode hmatching.labels hgroup
      exact ⟨s, binaryModifier_matching returnBool hread, hs⟩
  | some ⟨returnBool, some ⟨mode, labels, some ⟨side, l :: ls⟩⟩⟩ =>
      have hmatching := (hm _ rfl).matching _ rfl
      have hgroup := groupModifier?_labelled (hmatching.group _ rfl) (List.cons_ne_nil l ls) s
      have hread := vectorMatching?_grouped mode hmatching.labels hgroup
      exact ⟨' ' :: s, binaryModifier_matching returnBool hread, hs⟩

/-- Where the reader of a modifier runs on, it reads another modifier. -/
theorem runsOn_eq_false {m : Option BinaryModifier} (hm : ∀ b ∈ m, b.WellFormed) {s : Text}
    (hs : skip s = s) (hlabels : ∀ r, labelList? s ≠ some ([], r))
    (h : (binaryModifier (modifierText m ++ ' ' :: s)).1 = m) : runsOn m s = false := by
  match m with
  | none =>
      have htext : modifierText none ++ ' ' :: s = ' ' :: s := rfl
      rw [htext] at h
      simp only [binaryModifier, skip_space, hs] at h
      rw [runsOn]
      cases hbool : Text.dropKeyword? "bool".toList s with
      | some rest =>
          rw [hbool] at h
          dsimp only at h
          split at h <;> cases h
      | none =>
          rw [hbool] at h
          cases hmatching : vectorMatching? s with
          | some p =>
              rw [hmatching] at h
              cases h
          | none => rfl
  | some ⟨returnBool, none⟩ =>
      obtain rfl : returnBool = true := (hm _ rfl).nonempty rfl
      rw [binaryModifier_bool hs] at h
      rw [runsOn]
      cases hmatching : vectorMatching? s with
      | some p =>
          rw [hmatching] at h
          cases h
      | none => rfl
  | some ⟨returnBool, some ⟨mode, labels, none⟩⟩ =>
      have hmatching := (hm _ rfl).matching _ rfl
      have hread := vectorMatching?_ungrouped mode hmatching.labels hs
      rw [runsOn]
      cases hgroup : groupModifier? s with
      | some p =>
          rw [hgroup] at hread
          rw [binaryModifier_matching returnBool hread] at h
          cases h
      | none => rfl
  | some ⟨returnBool, some ⟨mode, labels, some ⟨side, []⟩⟩⟩ =>
      have hmatching := (hm _ rfl).matching _ rfl
      have hgroup := groupModifier?_bare side hs
      rw [runsOn]
      cases hlist : labelList? s with
      | some p =>
          obtain ⟨ls, r⟩ := p
          rw [hlist] at hgroup
          have hread := vectorMatching?_grouped mode hmatching.labels hgroup
          rw [binaryModifier_matching returnBool hread] at h
          cases h
          exact absurd hlist (hlabels r)
      | none => rfl
  | some ⟨_, some ⟨_, _, some ⟨_, _ :: _⟩⟩⟩ => rfl

end TenantScope.Query
