/- Blanks and comments in front of words. -/
import TenantScope.Proofs.Text.Scan
import TenantScope.Query.Printer

namespace TenantScope.Query

/-- The characters that begin no blank and no comment. -/
def isInk (c : Char) : Bool := !(isBlank c || c == '#')

theorem skip_space (s : Text) : skip (' ' :: s) = skip s := rfl

theorem skip_of_isInk {c : Char} (h : isInk c = true) (s : Text) : skip (c :: s) = c :: s := by
  simp only [isInk, Bool.not_eq_true', Bool.or_eq_false_iff, beq_eq_false_iff_ne] at h
  simp only [skip, skipFrom, h.1, Bool.false_eq_true, if_false, h.2]

theorem isInk_of_isDigit {c : Char} (h : c.isDigit = true) : isInk c = true := by
  simp only [isInk, isBlank, Bool.not_eq_true', Bool.or_eq_false_iff, beq_eq_false_iff_ne]
  refine ⟨⟨⟨⟨?_, ?_⟩, ?_⟩, ?_⟩, ?_⟩ <;> rintro rfl <;> cases h

/-- What is left behind blanks and comments begins with none, a broken comment included. -/
theorem skip_skip (s : Text) : skip (skip s) = skip s := by
  have hall : ∀ s : Text, skip (skipFrom none s) = skipFrom none s ∧
      ∀ hash, skip hash = skipFrom (some hash) s →
        skip (skipFrom (some hash) s) = skipFrom (some hash) s := by
    intro s
    induction s with
    | nil => exact ⟨rfl, fun _ _ => rfl⟩
    | cons c s ih =>
        refine ⟨?_, ?_⟩
        · rw [skipFrom]
          split
          · exact ih.1
          split
          · next hc =>
            subst hc
            exact ih.2 ('#' :: s) rfl
          · next hblank hhash =>
            exact skip_of_isInk (by simp [isInk, hblank, hhash]) s
        · intro hash h
          rw [skipFrom] at h ⊢
          split at h
          · rw [if_pos ‹_›]
            exact ih.1
          split at h
          · rw [if_neg ‹_›, if_pos ‹_›]
            split at h
            · rw [if_pos ‹_›]
              exact ih.1
            · rw [if_neg ‹_›]
              exact h
          · rw [if_neg ‹_›, if_neg ‹_›]
            exact ih.2 hash h
  exact (hall s).1

/-! Separated items -/

/-- What follows an item of a printed list: the comma before the next item, or the end. -/
def FollowsItem (rest s : Text) : Prop := s = rest ∨ ∃ t, s = ',' :: t

theorem commaList_singleton (x : Text) : commaList [x] = x := by
  simp [commaList, Text.join, List.intercalate]

theorem commaList_cons_cons (x y : Text) (xs : List Text) :
    commaList (x :: y :: xs) = x ++ ',' :: ' ' :: commaList (y :: xs) := by
  simp [commaList, Text.join, List.intercalate]

/-- A list begins like its first item. -/
theorem commaList_cons (x : Text) (xs : List Text) : ∃ t, commaList (x :: xs) = x ++ t := by
  cases xs with
  | nil => exact ⟨[], by rw [commaList_singleton, List.append_nil]⟩
  | cons y xs => exact ⟨_, commaList_cons_cons x y xs⟩

theorem skipComma?_eq_none {s : Text} (h : (skip s).head? ≠ some ',') : skipComma? s = none := by
  rw [skipComma?]
  split
  · next heq =>
    rw [heq] at h
    exact absurd rfl h
  · rfl

theorem skipComma?_separator {s t : Text} (hs : skip s = skip (',' :: ' ' :: t))
    (ht : skip t = t) : skipComma? s = some t := by
  rw [skipComma?, hs, skip_of_isInk (by decide)]
  simp only [skip_space, ht]

section

variable {α β : Type} {item : Lexer β} {print : α → Text} {f : α → β} {rest : Text}

theorem skip_commaList {x : α} (xs : List α) (hx : ∃ c w, print x = c :: w ∧ isInk c = true)
    (s : Text) :
    skip (commaList ((x :: xs).map print) ++ s) = commaList ((x :: xs).map print) ++ s := by
  obtain ⟨c, w, hw, hc⟩ := hx
  obtain ⟨t, ht⟩ := commaList_cons (print x) (xs.map print)
  rw [List.map_cons, ht, hw, List.cons_append, List.cons_append, skip_of_isInk hc]

theorem length_le_commaList {xs : List α} (hxs : ∀ x ∈ xs, print x ≠ []) :
    xs.length ≤ (commaList (xs.map print)).length := by
  induction xs with
  | nil => exact Nat.zero_le _
  | cons x xs ih =>
      have hx := List.length_pos_iff.mpr (hxs x List.mem_cons_self)
      have hrest := ih fun y hy => hxs y (List.mem_cons_of_mem x hy)
      cases xs with
      | nil =>
          rw [List.map_cons, List.map_nil, commaList_singleton]
          exact hx
      | cons y ys =>
          simp only [List.map_cons, commaList_cons_cons, List.length_cons, List.length_append]
            at hrest ⊢
          omega

theorem sepItems_of_skipComma?_eq_none {s : Text} (hs : skipComma? s = none) (fuel : Nat) :
    sepItems skipComma? item fuel s = ([], s) := by
  cases fuel with
  | zero => rfl
  | succ fuel => rw [sepItems, hs]; rfl

theorem skipComma?_congr {s t : Text} (h : skip s = skip t) : skipComma? s = skipComma? t := by
  rw [skipComma?, h, skipComma?]

/-- The items behind a separator are a list of their own, unless there are none. -/
theorem sepItems_eq_sepList {sep : Text → Option Text} {s t : Text} (hsep : sep s = some t)
    (fuel : Nat) :
    sepItems sep item fuel s = ([], s) ∨
      ∃ fuel', sepItems sep item fuel s = sepList sep item fuel' t := by
  cases fuel with
  | zero => exact .inl rfl
  | succ fuel =>
      cases hitem : item t with
      | none =>
          left
          rw [sepItems, hsep, Option.bind_some, hitem]
      | some p =>
          refine .inr ⟨fuel, ?_⟩
          rw [sepItems, hsep, Option.bind_some, hitem, sepList, hitem]

/-- With one more step of fuel, the items behind a separator are the list that is read there. -/
theorem sepItems_of_sepList {sep : Text → Option Text} {fuel : Nat} {s t r : Text} {b : β}
    {bs : List β} (hsep : sep s = some t) (h : sepList sep item fuel t = (b :: bs, r)) :
    sepItems sep item (fuel + 1) s = (b :: bs, r) := by
  rw [sepList] at h
  rw [sepItems, hsep, Option.bind_some]
  cases hitem : item t with
  | none =>
      rw [hitem] at h
      cases h
  | some p =>
      rw [hitem] at h
      exact h

/-- The items of a printed list are read one by one when each of them is read before a comma and
before the end of the list. -/
theorem sepList_commaList (xs : List α)
    (hread : ∀ x ∈ xs, ∀ s, FollowsItem rest s →
      ∃ r, item (print x ++ s) = some (f x, r) ∧ skip r = skip s)
    (hink : ∀ x ∈ xs, ∃ c w, print x = c :: w ∧ isInk c = true)
    (hrest : skipComma? rest = none) (hxs : xs ≠ []) {fuel : Nat} (hfuel : xs.length ≤ fuel + 1) :
    ∃ r, sepList skipComma? item fuel (commaList (xs.map print) ++ rest) = (xs.map f, r) ∧
      skip r = skip rest := by
  induction xs generalizing fuel with
  | nil => exact absurd rfl hxs
  | cons x xs ih =>
      cases xs with
      | nil =>
          obtain ⟨r, hr, hskip⟩ := hread x List.mem_cons_self rest (.inl rfl)
          refine ⟨r, ?_, hskip⟩
          have hlist : commaList ([x].map print) = print x := commaList_singleton (print x)
          have hstop : skipComma? r = none := (skipComma?_congr hskip).trans hrest
          rw [hlist, sepList, hr]
          simp only [sepItems_of_skipComma?_eq_none hstop]
          rfl
      | cons y ys =>
          have hxs' := fun z hz => hread z (List.mem_cons_of_mem x hz)
          have hink' := fun z hz => hink z (List.mem_cons_of_mem x hz)
          cases fuel with
          | zero =>
              simp only [List.length_cons] at hfuel
              omega
          | succ fuel =>
              obtain ⟨r, hr, hskip⟩ := hread x List.mem_cons_self
                (',' :: ' ' :: (commaList ((y :: ys).map print) ++ rest)) (.inr ⟨_, rfl⟩)
              obtain ⟨r', hr', hskip'⟩ := ih hxs' hink' (List.cons_ne_nil y ys)
                (Nat.le_of_succ_le_succ hfuel)
              refine ⟨r', ?_, hskip'⟩
              have hcomma : skipComma? r = some (commaList ((y :: ys).map print) ++ rest) :=
                skipComma?_separator hskip (skip_commaList ys (hink' y List.mem_cons_self) rest)
              rw [List.map_cons, List.map_cons, commaList_cons_cons, List.append_assoc,
                List.cons_append, List.cons_append, ← List.map_cons, sepList, hr]
              simp only [sepItems_of_sepList hcomma hr']
              rfl

end

end TenantScope.Query
