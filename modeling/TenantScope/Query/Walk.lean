/- Walks over query trees in pre-order, by visitors that may change, prune and stop. -/
import TenantScope.Query.Syntax

namespace TenantScope.Query

/-- The number of nodes of a tree, every list element counting once more. -/
def Expr.size : Expr → Nat
  | .number _ | .string _ | .vector _ | .matrix _ _ => 1
  | .call _ args => sizeAll args + 1
  | .aggregation _ _ none body => body.size + 1
  | .aggregation _ _ (some param) body => param.size + body.size + 1
  | .binary _ _ left right => left.size + right.size + 1
  | .unary _ e | .paren e | .subquery e _ _ _ => e.size + 1
where
  sizeAll : List Expr → Nat
    | [] => 0
    | e :: es => e.size + sizeAll es + 1

/-- How a walk goes on from a node: into its children, past them, or not at all. -/
inductive Step
  | enter | skip | stop
  deriving DecidableEq, Repr

/-- What a visitor makes of a node. The node may be replaced by one that is no larger, whose
children are then walked. -/
structure Visit (σ : Type) (e : Expr) where
  state : σ
  node : Expr
  step : Step
  size_le : node.size ≤ e.size

/-- A visit that leaves the node as it is. -/
def Visit.same {σ : Type} (state : σ) (e : Expr) (step : Step) : Visit σ e :=
  ⟨state, e, step, Nat.le_refl _⟩

/-- A visitor is handed every node before its children. -/
abbrev Visitor (σ : Type) := σ → (e : Expr) → Visit σ e

/-- A walk's last state, the tree it leaves, and whether it ran to its end. -/
structure Walked (σ α : Type) where
  state : σ
  tree : α
  finished : Bool

mutual

/-- Walks a tree in pre-order. A stop leaves the rest of the tree as it was. -/
def walk {σ : Type} (visit : Visitor σ) (state : σ) (e : Expr) : Walked σ Expr :=
  let v := visit state e
  match v.step with
  | .stop => ⟨v.state, v.node, false⟩
  | .skip => ⟨v.state, v.node, true⟩
  | .enter => walkChildren visit v.state v.node
termination_by 2 * e.size + 1
decreasing_by
  have : (visit state e).node.size ≤ e.size := (visit state e).size_le
  omega

/-- Walks the children of a node: a parameter before its body, and otherwise from left to right. -/
def walkChildren {σ : Type} (visit : Visitor σ) (state : σ) : Expr → Walked σ Expr
  | .call function args =>
    let w := walkAll visit state args
    ⟨w.state, .call function w.tree, w.finished⟩
  | .aggregation op grouping none body =>
    let w := walk visit state body
    ⟨w.state, .aggregation op grouping none w.tree, w.finished⟩
  | .aggregation op grouping (some param) body =>
    let w := walk visit state param
    if w.finished then
      let u := walk visit w.state body
      ⟨u.state, .aggregation op grouping (some w.tree) u.tree, u.finished⟩
    else ⟨w.state, .aggregation op grouping (some w.tree) body, false⟩
  | .binary op modifier left right =>
    let w := walk visit state left
    if w.finished then
      let u := walk visit w.state right
      ⟨u.state, .binary op modifier w.tree u.tree, u.finished⟩
    else ⟨w.state, .binary op modifier w.tree right, false⟩
  | .unary sign operand =>
    let w := walk visit state operand
    ⟨w.state, .unary sign w.tree, w.finished⟩
  | .paren inner =>
    let w := walk visit state inner
    ⟨w.state, .paren w.tree, w.finished⟩
  | .subquery body range step m =>
    let w := walk visit state body
    ⟨w.state, .subquery w.tree range step m, w.finished⟩
  | e => ⟨state, e, true⟩
termination_by e => 2 * e.size
decreasing_by
  all_goals simp only [Expr.size]; omega

def walkAll {σ : Type} (visit : Visitor σ) (state : σ) : List Expr → Walked σ (List Expr)
  | [] => ⟨state, [], true⟩
  | e :: es =>
    let w := walk visit state e
    if w.finished then
      let u := walkAll visit w.state es
      ⟨u.state, w.tree :: u.tree, u.finished⟩
    else ⟨w.state, w.tree :: es, false⟩
termination_by es => 2 * Expr.size.sizeAll es
decreasing_by
  all_goals simp only [Expr.size.sizeAll]; omega

end

/-! Visitors that keep a record -/

/-- A tree without the parentheses around it, if it has any. -/
def Expr.unwrap : Expr → Expr
  | .paren inner => inner
  | e => e

theorem Expr.size_unwrap_le (e : Expr) : e.unwrap.size ≤ e.size := by
  cases e <;> simp only [Expr.unwrap, Expr.size] <;> omega

/-- Records the kinds of the nodes in order, prunes below some kinds and stops at one. -/
def recorder (pruned : List NodeKind) (halt : Option NodeKind) : Visitor (List NodeKind) :=
  fun seen e =>
    if halt = some e.kind then .same (seen ++ [e.kind]) e .stop
    else .same (seen ++ [e.kind]) e (if e.kind ∈ pruned then .skip else .enter)

/-- Records like `recorder` and takes the parentheses off every node it does not stop at. -/
def unwrapper (pruned : List NodeKind) (halt : Option NodeKind) : Visitor (List NodeKind) :=
  fun seen e =>
    if halt = some e.kind then .same (seen ++ [e.kind]) e .stop
    else ⟨seen ++ [e.kind], e.unwrap, if e.kind ∈ pruned then .skip else .enter,
      e.size_unwrap_le⟩

/-- The kinds of all nodes in pre-order. -/
def Expr.kinds (e : Expr) : List NodeKind := (walk (recorder [] none) [] e).state

/-! Selectors -/

/-- The selectors of a tree in pre-order, those of matrix selectors without their range. -/
def Expr.selectors : Expr → List Selector
  | .number _ | .string _ => []
  | .vector s | .matrix s _ => [s]
  | .call _ args => selectorsAll args
  | .aggregation _ _ none body => body.selectors
  | .aggregation _ _ (some param) body => param.selectors ++ body.selectors
  | .binary _ _ left right => left.selectors ++ right.selectors
  | .unary _ e | .paren e | .subquery e _ _ _ => e.selectors
where
  selectorsAll : List Expr → List Selector
    | [] => []
    | e :: es => e.selectors ++ selectorsAll es

end TenantScope.Query
