/- The injection of a filter is the replacement of every selector by the narrowed one. -/
import TenantScope.Proofs.Query.Walk
import TenantScope.Scope.Query
import Mathlib.Data.List.DropRight

namespace TenantScope

open Query

/-- The leaves as an injection leaves them. -/
def Filter.narrowing (f : Filter) : Leaves := ⟨id, f.narrow, id⟩

/-- The result of an injection that starts to count at `n`. -/
def Filter.narrowed (f : Filter) (n : Nat) (e : Expr) : Walked Nat Expr :=
  ⟨n + e.selectors.length, e.replace f.narrowing, true⟩

theorem Filter.sweeps_visitor (f : Filter) :
    Sweeps f.visitor (onSelector fun n _ => n + 1) f.narrow := by
  constructor <;> intro n e <;> cases e <;> rfl

theorem foldl_count (n : Nat) (ss : List Selector) :
    ss.foldl (fun n _ => n + 1) n = n + ss.length := by
  induction ss generalizing n with
  | nil => rfl
  | cons s ss ih =>
      rw [List.foldl_cons, ih, List.length_cons, Nat.add_assoc, Nat.add_comm 1]

/-- An injection narrows every selector, keeps all else, and counts the selectors on. -/
theorem Filter.inject_eq (f : Filter) (n : Nat) (e : Expr) :
    f.inject n e = f.narrowed n e := by
  rw [Filter.inject, f.sweeps_visitor.walk_eq_foldl_selectors, foldl_count]
  rfl

theorem Filter.inject_tree (f : Filter) (n : Nat) (e : Expr) :
    (f.inject n e).tree = e.replace f.narrowing := by rw [f.inject_eq]; rfl

/-! Several walks by one visitor -/

/-- What some walks by one visitor leave of a tree; its count goes on from walk to walk. -/
def Filter.injectTimes (f : Filter) : Nat → Expr → Walked Nat Expr
  | 0, e => ⟨0, e, true⟩
  | n + 1, e => f.inject (f.injectTimes n e).state (f.injectTimes n e).tree

/-- A selector with the matchers of a filter behind its own, several times over. -/
def Filter.narrowTimes (f : Filter) (n : Nat) (s : Selector) : Selector :=
  { s with matchers := s.matchers ++ (List.replicate n f.matchers).flatten }

/-- A selector without the last of its matchers. -/
def Query.Selector.widen (n : Nat) (s : Selector) : Selector :=
  { s with matchers := s.matchers.rdrop n }

theorem Filter.narrowTimes_zero (f : Filter) : f.narrowTimes 0 = id := by
  funext s
  simp only [Filter.narrowTimes, List.replicate_zero, List.flatten_nil, List.append_nil, id]

theorem Filter.narrow_comp_narrowTimes (f : Filter) (n : Nat) :
    f.narrow ∘ f.narrowTimes n = f.narrowTimes (n + 1) := by
  funext s
  simp only [Function.comp_apply, Filter.narrow, Filter.narrowTimes, List.replicate_succ',
    List.flatten_append, List.flatten_singleton, List.append_assoc]

theorem Filter.widen_comp_narrowTimes (f : Filter) (n : Nat) :
    Selector.widen (n * f.matchers.length) ∘ f.narrowTimes n = id := by
  funext s
  have hlength : (List.replicate n f.matchers).flatten.length = n * f.matchers.length := by
    simp only [List.length_flatten, List.map_replicate, List.sum_replicate_nat]
  simp only [Function.comp_apply, Selector.widen, Filter.narrowTimes, ← hlength,
    List.rdrop_append_length, id]

theorem Filter.injectTimes_eq (f : Filter) (n : Nat) (e : Expr) :
    f.injectTimes n e =
      ⟨n * e.selectors.length, e.replace ⟨id, f.narrowTimes n, id⟩, true⟩ := by
  induction n with
  | zero => rw [f.narrowTimes_zero, Expr.replace_id, Nat.zero_mul, Filter.injectTimes]
  | succ n ih =>
      have htree : (e.replace ⟨id, f.narrowTimes n, id⟩).replace f.narrowing =
          e.replace ⟨id, f.narrowTimes (n + 1), id⟩ := by
        rw [Expr.replace_replace, ← f.narrow_comp_narrowTimes]
        rfl
      rw [Filter.injectTimes, ih, f.inject_eq, Filter.narrowed, htree, Expr.selectors_replace,
        List.length_map, Nat.succ_mul]

/-- Walks of one visitor put the filter behind the matchers of every selector, once for each walk,
and count every selector as often. All else stays, so that the tree can be had back. -/
theorem Filter.injectTimes_exact (f : Filter) (n : Nat) (e : Expr) :
    (f.injectTimes n e).tree = e.replace ⟨id, f.narrowTimes n, id⟩ ∧
      (f.injectTimes n e).tree.selectors.map Selector.matchers =
        e.selectors.map (fun s => s.matchers ++ (List.replicate n f.matchers).flatten) ∧
      (f.injectTimes n e).state = n * e.selectors.length ∧
      (f.injectTimes n e).tree.replace ⟨id, Selector.widen (n * f.matchers.length), id⟩ = e := by
  rw [f.injectTimes_eq]
  refine ⟨rfl, ?_, rfl, ?_⟩
  · rw [Expr.selectors_replace, List.map_map]
    rfl
  · rw [Expr.replace_replace, f.widen_comp_narrowTimes]
    exact e.replace_id

end TenantScope
