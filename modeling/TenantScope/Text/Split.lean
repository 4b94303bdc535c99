/- Lists split at separators. -/
namespace TenantScope

/-- The parts of a list between the elements that satisfy `isSep`; there is always one more part
than there are separators. -/
def splitAll {α : Type} (isSep : α → Bool) (xs : List α) : List (List α) :=
  xs.foldr
    (fun x parts =>
      if isSep x then [] :: parts
      else match parts with
        | [] => [[x]]
        | part :: rest => (x :: part) :: rest)
    [[]]

/-- The parts before and after the first element that satisfies `isSep`. -/
def splitFirst {α : Type} (isSep : α → Bool) (xs : List α) : List α × Option (List α) :=
  match xs.dropWhile fun x => !isSep x with
  | [] => (xs, none)
  | _ :: rest => (xs.takeWhile fun x => !isSep x, some rest)

theorem splitAll_cons_sep {α : Type} {isSep : α → Bool} {x : α} (xs : List α) (h : isSep x) :
    splitAll isSep (x :: xs) = [] :: splitAll isSep xs := by
  simp only [splitAll, List.foldr_cons, h, if_true]

theorem splitAll_ne_nil {α : Type} (isSep : α → Bool) (xs : List α) : splitAll isSep xs ≠ [] := by
  cases xs with
  | nil => simp only [splitAll, List.foldr_nil, ne_eq, List.cons_ne_self, not_false_eq_true]
  | cons x xs =>
    simp only [splitAll, List.foldr_cons]
    split
    · exact List.cons_ne_nil _ _
    · split <;> exact List.cons_ne_nil _ _

/-- A separator between two lists keeps their parts apart. -/
theorem splitAll_append_sep {α : Type} {isSep : α → Bool} {x : α} (xs ys : List α) (h : isSep x) :
    splitAll isSep (xs ++ x :: ys) = splitAll isSep xs ++ splitAll isSep ys := by
  induction xs with
  | nil => rw [List.nil_append, splitAll_cons_sep ys h]; rfl
  | cons c xs ih =>
    have hne := splitAll_ne_nil isSep xs
    simp only [splitAll, List.cons_append, List.foldr_cons] at ih hne ⊢
    rw [ih]
    split
    · rfl
    · generalize xs.foldr _ _ = parts at hne
      cases parts with
      | nil => exact absurd rfl hne
      | cons part rest => rfl

end TenantScope
