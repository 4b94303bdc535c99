/- Walks that enter every node pass the nodes in pre-order, and selectors change in place. Walks that
may replace nodes, prune and stop keep the selectors if every visit does. -/
import TenantScope.Proofs.Query.Tree
import Mathlib.Data.List.Forall2

namespace TenantScope.Query

variable {σ : Type}

/-- A node with another selector in the place of its own. -/
def Expr.withSelector (select : Selector → Selector) : Expr → Expr
  | .vector s => .vector (select s)
  | .matrix s range => .matrix (select s) range
  | e => e

/-- A visitor that enters every node and changes nothing but selectors. -/
structure Sweeps (visit : Visitor σ) (next : σ → Expr → σ) (select : Selector → Selector) :
    Prop where
  state : ∀ seen e, (visit seen e).state = next seen e
  node : ∀ seen e, (visit seen e).node = e.withSelector select
  step : ∀ seen e, (visit seen e).step = .enter

/-- What such a visitor leaves of a tree. -/
def swept (next : σ → Expr → σ) (select : Selector → Selector) (seen : σ) (e : Expr) :
    Walked σ Expr :=
  ⟨e.preorder.foldl next seen, e.replace ⟨id, select, id⟩, true⟩

variable {visit : Visitor σ} {next : σ → Expr → σ} {select : Selector → Selector}

theorem walkAll_swept {es : List Expr}
    (h : ∀ e ∈ es, ∀ seen, walk visit seen e = swept next select seen e) (seen : σ) :
    walkAll visit seen es = ⟨(es.flatMap Expr.preorder).foldl next seen,
      es.map (Expr.replace ⟨id, select, id⟩), true⟩ := by
  induction es generalizing seen with
  | nil => rw [walkAll]; rfl
  | cons e es ih =>
      have hes := ih fun d hd => h d (List.mem_cons_of_mem e hd)
      rw [walkAll, h e List.mem_cons_self]
      simp only [swept, if_true, hes, List.flatMap_cons, List.foldl_append, List.map_cons]

/-- The children of a node are swept one after the other, each on from the state before it. -/
theorem walkChildren_swept {e : Expr}
    (h : ∀ c ∈ e.children, ∀ seen, walk visit seen c = swept next select seen c) (seen : σ) :
    walkChildren visit seen (e.withSelector select) =
      ⟨(e.children.flatMap Expr.preorder).foldl next seen,
        e.replace ⟨id, select, id⟩, true⟩ := by
  cases e with
  | call function args =>
      have hargs := walkAll_swept h seen
      simp only [Expr.children] at hargs
      simp only [Expr.withSelector, walkChildren, hargs, Expr.replace_call, Expr.children]
  | aggregation op grouping param body =>
      cases param with
      | none =>
          have hbody := h body List.mem_cons_self
          simp only [Expr.withSelector, walkChildren, hbody, swept, Expr.replace, Expr.children,
            Option.toList_none, List.nil_append, List.flatMap_singleton]
      | some param =>
          have hparam := h param List.mem_cons_self
          have hbody := h body (List.mem_cons_of_mem _ List.mem_cons_self)
          simp only [Expr.withSelector, walkChildren, hparam, hbody, swept, if_true, Expr.replace,
            Expr.children, Option.toList_some, List.cons_append, List.nil_append,
            List.flatMap_cons, List.flatMap_nil, List.append_nil, List.foldl_append]
  | binary op modifier left right =>
      have hleft := h left List.mem_cons_self
      have hright := h right (List.mem_cons_of_mem _ List.mem_cons_self)
      simp only [Expr.withSelector, walkChildren, hleft, hright, swept, if_true, Expr.replace,
        Expr.children, List.flatMap_cons, List.flatMap_nil, List.append_nil, List.foldl_append]
  | unary sign e | paren e | subquery e range step m =>
      have hinner := h e List.mem_cons_self
      simp only [Expr.withSelector, walkChildren, hinner, swept, Expr.replace, Expr.children,
        List.flatMap_singleton, id]
  | _ => simp only [Expr.withSelector, walkChildren]; rfl

/-- A sweep passes all nodes in pre-order, replaces every selector and runs to its end. -/
theorem Sweeps.walk_eq (h : Sweeps visit next select) (seen : σ) (e : Expr) :
    walk visit seen e = swept next select seen e := by
  -- the state is general, for a child is walked on from where its siblings left it
  induction e using Expr.induction_on_children generalizing seen with
  | node e ih =>
    calc
      walk visit seen e
        = walkChildren visit (next seen e) (e.withSelector select) := by
          rw [walk, h.step, h.state, h.node]
      _ = swept next select seen e := by
          rw [walkChildren_swept ih, swept, Expr.preorder_eq, List.foldl_cons]

/-- The step of a visitor that attends to selectors only. -/
def onSelector (next : σ → Selector → σ) (seen : σ) (e : Expr) : σ :=
  match e.ownSelector? with
  | some s => next seen s
  | none => seen

theorem foldl_onSelector (next : σ → Selector → σ) (seen : σ) (ds : List Expr) :
    ds.foldl (onSelector next) seen = (ds.filterMap Expr.ownSelector?).foldl next seen := by
  induction ds generalizing seen with
  | nil => rfl
  | cons d ds ih =>
      rw [List.foldl_cons, ih, List.filterMap_cons, onSelector]
      cases d.ownSelector? <;> rfl

/-- A sweep that attends to selectors only comes to them in the order in which they are listed. -/
theorem Sweeps.walk_eq_foldl_selectors {next : σ → Selector → σ}
    (h : Sweeps visit (onSelector next) select) (seen : σ) (e : Expr) :
    walk visit seen e = ⟨e.selectors.foldl next seen, e.replace ⟨id, select, id⟩, true⟩ := by
  rw [h.walk_eq, swept, foldl_onSelector, Expr.selectors_eq_filterMap]

/-! Walks that may replace nodes, prune and stop -/

section

variable {R : Expr → Expr → Prop} (hrefl : ∀ e, R e e)
include hrefl

/-- Where the walk of every tree of a list stands in a relation to it, so does that of the list; the
trees behind a stop stay as they were. -/
theorem walkAll_forall₂ {es : List Expr}
    (h : ∀ e ∈ es, ∀ seen, R e (walk visit seen e).tree) (seen : σ) :
    List.Forall₂ R es (walkAll visit seen es).tree := by
  induction es generalizing seen with
  | nil =>
      rw [walkAll]
      exact .nil
  | cons e es ih =>
      have he := h e List.mem_cons_self seen
      have hes := ih fun d hd => h d (List.mem_cons_of_mem e hd)
      rw [walkAll]
      dsimp only
      split
      · exact .cons he (hes _)
      · exact .cons he (List.forall₂_same.mpr fun d _ => hrefl d)

/-- A walk of the children of a node keeps its selector and relates child by child. -/
theorem walkChildren_forall₂ {e : Expr}
    (h : ∀ c ∈ e.children, ∀ seen, R c (walk visit seen c).tree) (seen : σ) :
    (walkChildren visit seen e).tree.ownSelector? = e.ownSelector? ∧
      List.Forall₂ R e.children (walkChildren visit seen e).tree.children := by
  cases e with
  | call function args =>
      rw [walkChildren]
      exact ⟨rfl, walkAll_forall₂ hrefl h seen⟩
  | aggregation op grouping param body =>
      cases param with
      | none =>
          rw [walkChildren]
          exact ⟨rfl, .cons (h body List.mem_cons_self seen) .nil⟩
      | some param =>
          have hparam := h param List.mem_cons_self seen
          have hbody := h body (List.mem_cons_of_mem _ List.mem_cons_self)
          rw [walkChildren]
          dsimp only
          split
          · exact ⟨rfl, .cons hparam (.cons (hbody _) .nil)⟩
          · exact ⟨rfl, .cons hparam (.cons (hrefl body) .nil)⟩
  | binary op modifier left right =>
      have hleft := h left List.mem_cons_self seen
      have hright := h right (List.mem_cons_of_mem _ List.mem_cons_self)
      rw [walkChildren]
      dsimp only
      split
      · exact ⟨rfl, .cons hleft (.cons (hright _) .nil)⟩
      · exact ⟨rfl, .cons hleft (.cons (hrefl right) .nil)⟩
  | unary sign e | paren e | subquery e range step m =>
      rw [walkChildren]
      exact ⟨rfl, .cons (h e List.mem_cons_self seen) .nil⟩
  | _ =>
      simp only [walkChildren, Expr.children, true_and]
      exact .nil

end

theorem flatMap_selectors_of_forall₂ {ds es : List Expr}
    (h : List.Forall₂ (fun d e => e.selectors = d.selectors) ds es) :
    es.flatMap Expr.selectors = ds.flatMap Expr.selectors := by
  induction h with
  | nil => rfl
  | cons hhead _ ih => rw [List.flatMap_cons, List.flatMap_cons, hhead, ih]

/-- If every visit keeps the selectors of its node, a walk keeps those of the tree, whether or not it
prunes or stops. -/
theorem selectors_walk (h : ∀ seen e, (visit seen e).node.selectors = e.selectors) (seen : σ)
    (e : Expr) : (walk visit seen e).tree.selectors = e.selectors := by
  rw [walk]
  split
  · exact h seen e
  · exact h seen e
  · obtain ⟨hown, hchildren⟩ := walkChildren_forall₂ (R := fun c d => d.selectors = c.selectors)
      (fun _ => rfl) (fun c hc s => selectors_walk h s c) (visit seen e).state
    rw [Expr.selectors_eq, hown, flatMap_selectors_of_forall₂ hchildren, ← Expr.selectors_eq, h]
-- the node in the place of another need not be below it, but it is no larger
termination_by e.size
decreasing_by
  exact Nat.lt_of_lt_of_le (Expr.size_lt_of_mem_children hc) (visit seen e).size_le

/-- Taking parentheses off loses no selector. -/
theorem selectors_walk_unwrapper (pruned : List NodeKind) (halt : Option NodeKind)
    (seen : List NodeKind) (e : Expr) :
    (walk (unwrapper pruned halt) seen e).tree.selectors = e.selectors := by
  refine selectors_walk (fun seen e => ?_) seen e
  unfold unwrapper
  split
  · rfl
  · cases e <;> rfl

end TenantScope.Query
