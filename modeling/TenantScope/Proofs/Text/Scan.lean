/- Words at the front of a text: what a scanner takes, and where it stops. -/
import TenantScope.Query.Lexeme
import Mathlib.Data.List.TakeWhile

namespace TenantScope

/-! Characters of a class -/

/-- A text whose first character, if any, is not of the class. -/
def Text.StopsAt (p : Char → Bool) (s : Text) : Prop := ∀ c ∈ s.head?, p c = false

namespace Text

/-- What holds of every character of a list is decided along the list. -/
instance decidableForallMem {P : Char → Prop} [DecidablePred P] (cs : List Char) :
    Decidable (∀ c ∈ cs, P c) := List.decidableBAll P cs

variable {p : Char → Bool} {w s : Text}

theorem StopsAt.nil : StopsAt p [] := fun _ h => nomatch h

theorem StopsAt.cons {c : Char} (h : p c = false) : StopsAt p (c :: s) := by
  intro d hd
  cases hd
  exact h

theorem StopsAt.takeWhile (h : StopsAt p s) : s.takeWhile p = [] := by
  cases s with
  | nil => rfl
  | cons c s => rw [List.takeWhile_cons_of_neg]; exact Bool.not_eq_true _ ▸ h c rfl

theorem StopsAt.dropWhile (h : StopsAt p s) : s.dropWhile p = s := by
  cases s with
  | nil => rfl
  | cons c s => rw [List.dropWhile_cons_of_neg]; exact Bool.not_eq_true _ ▸ h c rfl

theorem takeWhile_append_stopsAt (w : Text) (hs : StopsAt p s) :
    (w ++ s).takeWhile p = w.takeWhile p := by
  induction w with
  | nil => exact hs.takeWhile
  | cons c w ih => simp only [List.cons_append, List.takeWhile_cons, ih]

theorem dropWhile_append_stopsAt (w : Text) (hs : StopsAt p s) :
    (w ++ s).dropWhile p = w.dropWhile p ++ s := by
  induction w with
  | nil => exact hs.dropWhile
  | cons c w ih =>
      simp only [List.cons_append, List.dropWhile_cons, ih]
      split <;> rfl

theorem takeWhile_append (hw : ∀ c ∈ w, p c = true) (hs : StopsAt p s) :
    (w ++ s).takeWhile p = w := by
  rw [List.takeWhile_append_of_pos hw, hs.takeWhile, List.append_nil]

theorem dropWhile_append (hw : ∀ c ∈ w, p c = true) (hs : StopsAt p s) :
    (w ++ s).dropWhile p = s := by
  rw [List.dropWhile_append_of_pos hw, hs.dropWhile]

theorem stopsAt_dropWhile (s : Text) : StopsAt p (s.dropWhile p) := by
  intro c hc
  cases hd : s.dropWhile p with
  | nil => rw [hd] at hc; cases hc
  | cons d rest =>
      rw [hd] at hc
      cases hc
      have := List.head_dropWhile_not p (l := s) (by rw [hd]; exact List.cons_ne_nil _ _)
      simpa only [hd, List.head_cons] using this

theorem forall_takeWhile (s : Text) : ∀ c ∈ s.takeWhile p, p c = true :=
  fun _ hc => List.mem_takeWhile_imp hc

theorem trimBy_subset (p : Char → Bool) (s : Text) : trimBy p s ⊆ s := by
  intro c hc
  rw [trimBy, List.mem_reverse] at hc
  have hfront := List.mem_reverse.mp ((List.dropWhile_sublist p).subset hc)
  exact (List.dropWhile_sublist p).subset hfront

/-- Between two characters that stay, nothing is taken off the ends. -/
theorem trimBy_enclosed {a b : Char} (ha : p a = false) (hb : p b = false) (s : Text) :
    trimBy p (a :: s ++ [b]) = a :: s ++ [b] := by
  have hfront : (a :: s ++ [b]).dropWhile p = a :: s ++ [b] := StopsAt.dropWhile (.cons ha)
  have hback : (b :: (a :: s).reverse).dropWhile p = b :: (a :: s).reverse :=
    StopsAt.dropWhile (.cons hb)
  rw [trimBy, hfront, List.reverse_append, List.reverse_singleton, List.singleton_append, hback,
    List.reverse_cons, List.reverse_reverse]

/-! Fixed words -/

theorem dropLead?_eq_some {w s r : Text} (h : dropLead? w s = some r) : s = w ++ r := by
  induction w generalizing s with
  | nil => exact Option.some.inj h
  | cons d w ih =>
      cases s with
      | nil => cases h
      | cons c s =>
          simp only [dropLead?] at h
          split at h
          · rename_i hc
            rw [hc, List.cons_append, ← ih h]
          · cases h

theorem dropLead?_append (w s : Text) : dropLead? w (w ++ s) = some s := by
  induction w with
  | nil => rfl
  | cons d w ih => rw [List.cons_append, dropLead?, if_pos rfl, ih]

/-- The characters of a word in front of a text that goes on with a character of no word. -/
theorem dropWord?_append {w n s : Text} {c : Char} (hc : ∀ d ∈ w, d ≠ c.toLower) :
    dropWord? w (n ++ c :: s) = (dropWord? w n).map (· ++ c :: s) := by
  induction w generalizing n with
  | nil => rfl
  | cons d w ih =>
      cases n with
      | nil =>
          simp only [List.nil_append, dropWord?, Option.map_none]
          rw [if_neg (hc d List.mem_cons_self).symm]
      | cons b n =>
          simp only [List.cons_append, dropWord?]
          split
          · exact ih fun d hd => hc d (List.mem_cons_of_mem _ hd)
          · rfl

/-- A keyword in front of a name is the same as one in front of the name and what follows it, as
long as no word character follows. -/
theorem dropKeyword?_append {w n s : Text} {c : Char} (hc : ∀ d ∈ w, d ≠ c.toLower)
    (hbound : isWordChar c = false) :
    dropKeyword? w (n ++ c :: s) = (dropKeyword? w n).map (· ++ c :: s) := by
  rw [dropKeyword?, dropWord?_append hc, dropKeyword?]
  cases dropWord? w n with
  | none => rfl
  | some r =>
      have hr : atBoundary (r ++ c :: s) = atBoundary r := by
        cases r with
        | nil => simp only [List.nil_append, atBoundary, hbound, Bool.not_false]
        | cons b r => rfl
      rw [Option.map_some, Option.filter_some, hr, Option.filter_some]
      split <;> rfl

end Text

namespace Query

/-! Ends of words -/

/-- The characters that stand right behind the words of printed queries. -/
def delimiters : Text := [' ', ')', ',', '[']

/-- A text whose first character, if any, ends the word before it. -/
def Delimited (s : Text) : Prop := ∀ c ∈ s.head?, c ∈ delimiters

theorem Delimited.stopsAt {p : Char → Bool} {s : Text} (hs : Delimited s)
    (hp : ∀ c ∈ delimiters, p c = false) : Text.StopsAt p s := fun c hc => hp c (hs c hc)

theorem Delimited.nil : Delimited [] := fun _ h => nomatch h

theorem Delimited.cons {c : Char} {s : Text} (h : c ∈ delimiters) : Delimited (c :: s) := by
  intro d hd
  cases hd
  exact h

/-! Words by their first and their other characters -/

variable {isStart isPart : Char → Bool} {n r s : Text}

theorem word?_append (h : word? isStart isPart n = some (n, [])) (hr : Text.StopsAt isPart r) :
    word? isStart isPart (n ++ r) = some (n, r) := by
  cases n with
  | nil => cases h
  | cons c n =>
      simp only [word?] at h ⊢
      simp only [List.cons_append]
      split at h
      · rename_i hc
        obtain ⟨htake, hdrop⟩ := Prod.mk.inj (Option.some.inj h)
        have hn : ∀ d ∈ n, isPart d = true := by
          rw [List.cons_inj_right] at htake
          rw [← htake]
          exact Text.forall_takeWhile n
        rw [if_pos hc, Text.takeWhile_append hn hr, Text.dropWhile_append hn hr]
      · cases h

theorem word?_eq_some (h : word? isStart isPart s = some (n, r)) :
    s = n ++ r ∧ word? isStart isPart n = some (n, []) ∧ Text.StopsAt isPart r := by
  cases s with
  | nil => cases h
  | cons c s =>
      simp only [word?] at h
      split at h
      · rename_i hc
        obtain ⟨rfl, rfl⟩ := Prod.mk.inj (Option.some.inj h)
        have hall := Text.forall_takeWhile (p := isPart) s
        have htake := Text.takeWhile_append hall .nil
        have hdrop := Text.dropWhile_append hall .nil
        rw [List.append_nil] at htake hdrop
        refine ⟨by rw [List.cons_append, List.takeWhile_append_dropWhile], ?_,
          Text.stopsAt_dropWhile s⟩
        rw [word?, if_pos hc, htake, hdrop]
      · cases h

theorem word?_cons (h : word? isStart isPart n = some (n, [])) :
    ∃ c t, n = c :: t ∧ isStart c = true ∧ ∀ d ∈ t, isPart d = true := by
  cases n with
  | nil => cases h
  | cons c t =>
      simp only [word?] at h
      split at h
      · rename_i hc
        refine ⟨c, t, rfl, hc, ?_⟩
        have ht := List.cons_inj_right c |>.mp (Prod.mk.inj (Option.some.inj h)).1
        rw [← ht]
        exact Text.forall_takeWhile t
      · cases h

end Query
end TenantScope
