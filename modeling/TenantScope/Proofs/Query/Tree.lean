/- Query trees by their nodes: children, occurrences, and leaves replaced in place. -/
import TenantScope.Query.Reader
import TenantScope.Query.Printer
import TenantScope.Query.Walk
import Mathlib.Data.List.Basic

namespace TenantScope.Query

/-! Children and occurrences -/

/-- The trees right below a node, in the order in which a walk enters them. -/
def Expr.children : Expr → List Expr
  | .number _ | .string _ | .vector _ | .matrix _ _ => []
  | .call _ args => args
  | .aggregation _ _ param body => param.toList ++ [body]
  | .binary _ _ left right => [left, right]
  | .unary _ e | .paren e | .subquery e _ _ _ => [e]

/-- A tree occurs in itself and in every tree with a child in which it occurs. -/
inductive Expr.Occurs (d : Expr) : Expr → Prop
  | root : Occurs d d
  | inside {c e : Expr} : c ∈ e.children → Occurs d c → Occurs d e

/-- The selector of a vector or matrix selector. -/
def Expr.ownSelector? : Expr → Option Selector
  | .vector s | .matrix s _ => some s
  | _ => none

theorem Expr.size_lt_of_mem_sizeAll {c : Expr} {es : List Expr} (h : c ∈ es) :
    c.size < Expr.size.sizeAll es + 1 := by
  induction es with
  | nil => cases h
  | cons e es ih =>
      simp only [Expr.size.sizeAll]
      cases h with
      | head => omega
      | tail _ h => have := ih h; omega

theorem Expr.size_lt_of_mem_children {c e : Expr} (h : c ∈ e.children) : c.size < e.size := by
  cases e with
  | number x => cases h
  | string s => cases h
  | vector s => cases h
  | matrix s range => cases h
  | call function args => exact Expr.size_lt_of_mem_sizeAll h
  | aggregation op grouping param body =>
      cases param with
      | none =>
          obtain rfl := List.mem_singleton.mp h
          exact Nat.lt_succ_self _
      | some p =>
          simp only [Expr.children, Option.toList_some, List.cons_append, List.nil_append,
            List.mem_cons, List.not_mem_nil, or_false] at h
          simp only [Expr.size]
          rcases h with rfl | rfl <;> omega
  | binary op modifier left right =>
      simp only [Expr.children, List.mem_cons, List.not_mem_nil, or_false] at h
      simp only [Expr.size]
      rcases h with rfl | rfl <;> omega
  | unary sign e =>
      obtain rfl := List.mem_singleton.mp h
      exact Nat.lt_succ_self _
  | paren e =>
      obtain rfl := List.mem_singleton.mp h
      exact Nat.lt_succ_self _
  | subquery e range step m =>
      obtain rfl := List.mem_singleton.mp h
      exact Nat.lt_succ_self _

/-- What passes from the children of every node to the node holds of every tree. -/
theorem Expr.induction_on_children {P : Expr → Prop}
    (node : ∀ e : Expr, (∀ c ∈ e.children, P c) → P e) (e : Expr) : P e :=
  node e fun c _ => Expr.induction_on_children node c
termination_by e.size
decreasing_by exact Expr.size_lt_of_mem_children ‹_›

theorem Expr.Occurs.trans {b c d : Expr} (hb : b.Occurs c) (hc : c.Occurs d) : b.Occurs d := by
  induction hc with
  | root => exact hb
  | inside hmem _ ih => exact .inside hmem ih

/-! Nodes in pre-order -/

/-- The nodes of a tree in pre-order, each with all that is below it. -/
def Expr.preorder : Expr → List Expr
  | .call function args => .call function args :: preorderAll args
  | .aggregation op grouping none body =>
    .aggregation op grouping none body :: body.preorder
  | .aggregation op grouping (some param) body =>
    .aggregation op grouping (some param) body :: (param.preorder ++ body.preorder)
  | .binary op modifier left right =>
    .binary op modifier left right :: (left.preorder ++ right.preorder)
  | .unary sign e => .unary sign e :: e.preorder
  | .paren e => .paren e :: e.preorder
  | .subquery e range step m => .subquery e range step m :: e.preorder
  | e => [e]
where
  /-- The nodes of the trees of a list. -/
  preorderAll : List Expr → List Expr
    | [] => []
    | e :: es => e.preorder ++ preorderAll es

theorem Expr.preorderAll_eq (es : List Expr) :
    Expr.preorder.preorderAll es = es.flatMap Expr.preorder := by
  induction es with
  | nil => rfl
  | cons e es ih => simp only [Expr.preorder.preorderAll, ih, List.flatMap_cons]

theorem Expr.preorder_eq (e : Expr) :
    e.preorder = e :: e.children.flatMap Expr.preorder := by
  cases e with
  | call function args => rw [Expr.preorder, Expr.preorderAll_eq]; rfl
  | aggregation op grouping param body =>
      cases param <;> simp [Expr.preorder, Expr.children]
  | _ => simp [Expr.preorder, Expr.children]

/-- The nodes in pre-order are the trees that occur in the tree. -/
theorem Expr.mem_preorder_iff {d e : Expr} : d ∈ e.preorder ↔ d.Occurs e := by
  constructor
  · intro h
    induction e using Expr.induction_on_children with
    | node e ih =>
      rw [Expr.preorder_eq] at h
      cases h with
      | head => exact .root
      | tail _ h =>
          obtain ⟨c, hc, hd⟩ := List.mem_flatMap.mp h
          exact .inside hc (ih c hc hd)
  · intro h
    induction h with
    | root =>
        rw [Expr.preorder_eq]
        exact List.mem_cons_self
    | inside hmem _ ih =>
        rw [Expr.preorder_eq]
        exact List.mem_cons_of_mem _ (List.mem_flatMap.mpr ⟨_, hmem, ih⟩)

/-! The selectors of a tree -/

theorem Expr.selectorsAll_eq (es : List Expr) :
    Expr.selectors.selectorsAll es = es.flatMap Expr.selectors := by
  induction es with
  | nil => rfl
  | cons e es ih => simp only [Expr.selectors.selectorsAll, ih, List.flatMap_cons]

theorem Expr.selectors_eq (e : Expr) :
    e.selectors = e.ownSelector?.toList ++ e.children.flatMap Expr.selectors := by
  cases e with
  | call function args => exact Expr.selectorsAll_eq args
  | aggregation op grouping param body =>
      cases param <;> simp [Expr.selectors, Expr.ownSelector?, Expr.children]
  | _ => simp [Expr.selectors, Expr.ownSelector?, Expr.children]

theorem Expr.selectors_eq_filterMap (e : Expr) :
    e.selectors = e.preorder.filterMap Expr.ownSelector? := by
  induction e using Expr.induction_on_children with
  | node e ih =>
    rw [Expr.selectors_eq, Expr.preorder_eq, List.filterMap_cons, List.filterMap_flatMap,
      List.flatMap_congr ih]
    cases e.ownSelector? <;> rfl

/-- The listed selectors are those of the nodes that occur in the tree. -/
theorem Expr.mem_selectors_iff {s : Selector} {e : Expr} :
    s ∈ e.selectors ↔ ∃ d : Expr, d.Occurs e ∧ d.ownSelector? = some s := by
  simp only [Expr.selectors_eq_filterMap, List.mem_filterMap, Expr.mem_preorder_iff]

/-! Leaves replaced in place -/

/-- What becomes of the numbers, of the selectors, and of the modifiers of subqueries. -/
structure Leaves where
  number : Binary64 → Binary64
  selector : Selector → Selector
  modifiers : Modifiers → Modifiers

/-- The tree with its leaves replaced and all else as it is. -/
def Expr.replace (φ : Leaves) : Expr → Expr
  | .number x => .number (φ.number x)
  | .string s => .string s
  | .vector s => .vector (φ.selector s)
  | .matrix s range => .matrix (φ.selector s) range
  | .call function args => .call function (replaceAll φ args)
  | .aggregation op grouping none body => .aggregation op grouping none (body.replace φ)
  | .aggregation op grouping (some param) body =>
    .aggregation op grouping (some (param.replace φ)) (body.replace φ)
  | .binary op modifier left right => .binary op modifier (left.replace φ) (right.replace φ)
  | .unary sign e => .unary sign (e.replace φ)
  | .paren e => .paren (e.replace φ)
  | .subquery e range step m => .subquery (e.replace φ) range step (φ.modifiers m)
where
  /-- The trees of a list with their leaves replaced. -/
  replaceAll (φ : Leaves) : List Expr → List Expr
    | [] => []
    | e :: es => e.replace φ :: replaceAll φ es

theorem Expr.replaceAll_eq (φ : Leaves) (es : List Expr) :
    Expr.replace.replaceAll φ es = es.map (Expr.replace φ) := by
  induction es with
  | nil => rfl
  | cons e es ih => simp only [Expr.replace.replaceAll, ih, List.map_cons]

theorem Expr.replace_call (φ : Leaves) (function : Text) (args : List Expr) :
    (Expr.call function args).replace φ = .call function (args.map (Expr.replace φ)) := by
  rw [Expr.replace, Expr.replaceAll_eq]

theorem Expr.replace_aggregation (φ : Leaves) (op : AggregateOp) (grouping : Option Grouping)
    (param : Option Expr) (body : Expr) :
    (Expr.aggregation op grouping param body).replace φ =
      .aggregation op grouping (param.map (Expr.replace φ)) (body.replace φ) := by
  cases param <;> rfl

theorem Expr.replace_id (e : Expr) : e.replace ⟨id, id, id⟩ = e := by
  induction e using Expr.induction_on_children with
  | node e ih =>
    cases e with
    | call function args =>
        have hargs : args.map (Expr.replace ⟨id, id, id⟩) = args :=
          (List.map_congr_left ih).trans (List.map_id args)
        rw [Expr.replace_call, hargs]
    | aggregation op grouping param body =>
        cases param with
        | none => exact congrArg _ (ih body List.mem_cons_self)
        | some param =>
            have hbody := ih body (List.mem_cons_of_mem _ List.mem_cons_self)
            simp only [Expr.replace, ih param List.mem_cons_self, hbody]
    | binary op modifier left right =>
        have hright := ih right (List.mem_cons_of_mem _ List.mem_cons_self)
        simp only [Expr.replace, ih left List.mem_cons_self, hright]
    | unary sign e => exact congrArg _ (ih e List.mem_cons_self)
    | paren e => exact congrArg _ (ih e List.mem_cons_self)
    | subquery e range step m => simp only [Expr.replace, id, ih e List.mem_cons_self]
    | _ => rfl

/-- Leaves replaced twice over are replaced by what both make of them. -/
theorem Expr.replace_replace (φ ψ : Leaves) (e : Expr) :
    (e.replace φ).replace ψ =
      e.replace ⟨ψ.number ∘ φ.number, ψ.selector ∘ φ.selector, ψ.modifiers ∘ φ.modifiers⟩ := by
  induction e using Expr.induction_on_children with
  | node e ih =>
    cases e with
    | call function args =>
        simp only [Expr.replace_call, List.map_map]
        exact congrArg _ (List.map_congr_left ih)
    | aggregation op grouping param body =>
        cases param with
        | none => exact congrArg _ (ih body List.mem_cons_self)
        | some param =>
            have hbody := ih body (List.mem_cons_of_mem _ List.mem_cons_self)
            simp only [Expr.replace, ih param List.mem_cons_self, hbody]
    | binary op modifier left right =>
        have hright := ih right (List.mem_cons_of_mem _ List.mem_cons_self)
        simp only [Expr.replace, ih left List.mem_cons_self, hright]
    | unary sign e => exact congrArg _ (ih e List.mem_cons_self)
    | paren e => exact congrArg _ (ih e List.mem_cons_self)
    | subquery e range step m =>
        simp only [Expr.replace, ih e List.mem_cons_self, Function.comp_apply]
    | _ => rfl

theorem Expr.children_replace (φ : Leaves) (e : Expr) :
    (e.replace φ).children = e.children.map (Expr.replace φ) := by
  cases e with
  | call function args => rw [Expr.replace_call]; rfl
  | aggregation op grouping param body => cases param <;> rfl
  | _ => rfl

theorem Expr.ownSelector?_replace (φ : Leaves) (e : Expr) :
    (e.replace φ).ownSelector? = e.ownSelector?.map φ.selector := by
  cases e with
  | aggregation op grouping param body => cases param <;> rfl
  | _ => rfl

theorem Expr.selectors_replace (φ : Leaves) (e : Expr) :
    (e.replace φ).selectors = e.selectors.map φ.selector := by
  induction e using Expr.induction_on_children with
  | node e ih =>
    rw [Expr.selectors_eq, Expr.selectors_eq e, Expr.children_replace, Expr.ownSelector?_replace,
      List.map_append, List.flatMap_map, List.map_flatMap]
    congr 1
    · cases e.ownSelector? <;> rfl
    · exact List.flatMap_congr fun c hc => ih c hc

end TenantScope.Query
