/- Lists put together with separators are split where they were put together; lists up to an
element. -/
import TenantScope.Text.Basic
import TenantScope.Text.Split
import Mathlib.Data.List.Basic
import Mathlib.Data.List.TakeWhile

namespace TenantScope

/-! Parts between separators -/

theorem splitAll_eq_splitOnP {α : Type} (isSep : α → Bool) (xs : List α) :
    splitAll isSep xs = xs.splitOnP isSep := by
  induction xs with
  | nil => rfl
  | cons x xs ih =>
      rw [List.splitOnP_cons_eq_if_modifyHead, ← ih]
      have hne := splitAll_ne_nil isSep xs
      simp only [splitAll, List.foldr_cons] at hne ⊢
      split
      · rfl
      · generalize xs.foldr _ _ = parts at hne
        cases parts with
        | nil => exact absurd rfl hne
        | cons part rest => rfl

theorem splitAll_of_forall_not {α : Type} {isSep : α → Bool} {xs : List α}
    (h : ∀ x ∈ xs, isSep x = false) : splitAll isSep xs = [xs] := by
  rw [splitAll_eq_splitOnP, List.splitOnP_eq_singleton h]

/-- Parts without separators are what their combination is split into. -/
theorem splitAll_intercalate {α : Type} [BEq α] [LawfulBEq α] {x : α} {parts : List (List α)}
    (hne : parts ≠ []) (h : ∀ part ∈ parts, x ∉ part) :
    splitAll (· == x) ([x].intercalate parts) = parts := by
  rw [splitAll_eq_splitOnP, ← List.splitOn_eq_splitOnP, List.splitOn_intercalate x h hne]

theorem intercalate_splitAll {α : Type} [BEq α] [LawfulBEq α] (x : α) (xs : List α) :
    [x].intercalate (splitAll (· == x) xs) = xs := by
  rw [splitAll_eq_splitOnP, ← List.splitOn_eq_splitOnP, List.intercalate_splitOn]

theorem Text.join_singleton (sep part : Text) : join sep [part] = part :=
  List.intercalate_singleton

theorem Text.join_cons_cons (sep part next : Text) (parts : List Text) :
    join sep (part :: next :: parts) = part ++ (sep ++ join sep (next :: parts)) := by
  rw [join, List.intercalate_cons_cons, List.append_assoc, join]

/-- No part of a list contains a separator. -/
theorem not_isSep_of_mem_splitAll {α : Type} {isSep : α → Bool} {xs part : List α}
    (h : part ∈ splitAll isSep xs) : ∀ x ∈ part, isSep x = false := by
  induction xs generalizing part with
  | nil =>
      rw [List.mem_singleton.mp h]
      exact List.forall_mem_nil _
  | cons x xs ih =>
      have hne := splitAll_ne_nil isSep xs
      simp only [splitAll, List.foldr_cons] at h ih hne
      split at h
      · rcases List.mem_cons.mp h with rfl | h
        · exact List.forall_mem_nil _
        · exact ih h
      · next hx =>
        generalize xs.foldr _ _ = parts at h ih hne
        cases parts with
        | nil => exact absurd rfl hne
        | cons first rest =>
            rcases List.mem_cons.mp h with rfl | h
            · exact List.forall_mem_cons.mpr
                ⟨Bool.not_eq_true _ ▸ hx, ih List.mem_cons_self⟩
            · exact ih (List.mem_cons_of_mem _ h)

theorem splitFirst_fst {α : Type} (isSep : α → Bool) (xs : List α) :
    (splitFirst isSep xs).1 = xs.takeWhile fun x => !isSep x := by
  have happend := xs.takeWhile_append_dropWhile (p := fun x => !isSep x)
  unfold splitFirst
  split
  · next hnil => rw [hnil, List.append_nil] at happend; exact happend.symm
  · rfl

theorem splitFirst_of_forall_not {α : Type} {isSep : α → Bool} {xs : List α}
    (h : ∀ x ∈ xs, isSep x = false) : splitFirst isSep xs = (xs, none) := by
  have hnil : xs.dropWhile (fun x => !isSep x) = [] :=
    List.dropWhile_eq_nil_iff.mpr fun x hx => by rw [h x hx]; rfl
  rw [splitFirst, hnil]

theorem eq_of_splitFirst_none {α : Type} {isSep : α → Bool} {xs ys : List α}
    (h : splitFirst isSep xs = (ys, none)) : xs = ys := by
  unfold splitFirst at h
  split at h
  · cases h
    rfl
  · cases h

theorem splitFirst_fst_subset {α : Type} (isSep : α → Bool) (xs : List α) :
    (splitFirst isSep xs).1 ⊆ xs := by
  rw [splitFirst_fst]
  exact (List.takeWhile_sublist _).subset

theorem splitFirst_snd_subset {α : Type} {isSep : α → Bool} {xs rest : List α}
    (h : (splitFirst isSep xs).2 = some rest) : rest ⊆ xs := by
  unfold splitFirst at h
  split at h
  · cases h
  · next x _ hdrop =>
    cases h
    exact fun y hy => (List.dropWhile_sublist _).subset (hdrop ▸ List.mem_cons_of_mem x hy)

/-- What stands in front of the first separator, and what stands behind it. -/
theorem splitFirst_append_cons {α : Type} {isSep : α → Bool} {xs : List α} {x : α}
    (hxs : ∀ y ∈ xs, isSep y = false) (hx : isSep x = true) (ys : List α) :
    splitFirst isSep (xs ++ x :: ys) = (xs, some ys) := by
  have hpass : ∀ y ∈ xs, (!isSep y) = true := fun y hy => by rw [hxs y hy]; rfl
  rw [splitFirst, List.dropWhile_append_of_pos hpass, List.takeWhile_append_of_pos hpass]
  simp only [List.dropWhile_cons, List.takeWhile_cons, hx, Bool.not_true, Bool.false_eq_true,
    if_false, List.append_nil]

/-! Lists up to an element -/

section

variable {α β : Type} {p : α → Bool}

/-- A list up to the first element that satisfies `p`, this one included. -/
def upTo (p : α → Bool) : List α → List α
  | [] => []
  | x :: xs => x :: if p x then [] else upTo p xs

theorem upTo_append (xs ys : List α) :
    upTo p (xs ++ ys) = if xs.any p then upTo p xs else xs ++ upTo p ys := by
  induction xs with
  | nil => rfl
  | cons x xs ih =>
      rw [List.cons_append, upTo, upTo, ih, List.any_cons]
      cases p x with
      | true => rfl
      | false => cases xs.any p <;> rfl

theorem upTo_eq_self {xs : List α} (h : xs.any p = false) : upTo p xs = xs := by
  have happend := upTo_append (p := p) xs []
  rw [h, List.append_nil] at happend
  exact happend.trans (List.append_nil xs)

theorem map_upTo (f : β → α) (xs : List β) :
    (upTo (fun x => p (f x)) xs).map f = upTo p (xs.map f) := by
  induction xs with
  | nil => rfl
  | cons x xs ih =>
      rw [upTo, List.map_cons, List.map_cons, upTo, ← ih]
      cases p (f x) <;> rfl

theorem upTo_eq_take [DecidableEq α] (k : α) (xs : List α) :
    upTo (fun x => k = x) xs = xs.take (xs.idxOf k + 1) := by
  induction xs with
  | nil => rfl
  | cons x xs ih =>
      rw [upTo, ih]
      by_cases heq : k = x
      · rw [if_pos (decide_eq_true heq), heq, List.idxOf_cons_self]
        rfl
      · rw [if_neg (by rwa [decide_eq_true_eq]), List.idxOf_cons_ne xs (Ne.symm heq)]
        rfl

end

end TenantScope
