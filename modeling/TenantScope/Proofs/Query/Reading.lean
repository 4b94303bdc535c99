/- Compositional readings of query trees over stores of series. -/
import TenantScope.Proofs.Query.Tree

namespace TenantScope.Query

universe u v

/-- What each kind of node makes of its own fields and of the values of its children. A selector
sees the store only through the list of the series that meet its matchers. -/
structure Reading (Series : Type u) (Value : Type v) where
  meets : Series → Matcher → Bool
  number : Binary64 → Value
  string : Text → Value
  vector : Modifiers → List Series → Value
  matrix : Nat → Modifiers → List Series → Value
  call : Text → List Value → Value
  aggregation : AggregateOp → Option Grouping → Option Value → Value → Value
  binary : BinaryOp → Option BinaryModifier → Value → Value → Value
  unary : Sign → Value → Value
  paren : Value → Value
  subquery : Nat → Option Nat → Modifiers → Value → Value

namespace Reading

variable {Series : Type u} {Value : Type v} (R : Reading Series Value)

/-- The series of a store that meet all the given matchers. -/
def restrict (ms : List Matcher) (store : List Series) : List Series :=
  store.filter fun series => ms.all (R.meets series)

/-- The value of a tree over a store. -/
def value (store : List Series) : Expr → Value
  | .number x => R.number x
  | .string s => R.string s
  | .vector s => R.vector s.modifiers (R.restrict s.allMatchers store)
  | .matrix s range => R.matrix range s.modifiers (R.restrict s.allMatchers store)
  | .call function args => R.call function (valueAll store args)
  | .aggregation op grouping none body => R.aggregation op grouping none (value store body)
  | .aggregation op grouping (some param) body =>
    R.aggregation op grouping (some (value store param)) (value store body)
  | .binary op modifier left right =>
    R.binary op modifier (value store left) (value store right)
  | .unary sign e => R.unary sign (value store e)
  | .paren e => R.paren (value store e)
  | .subquery e range step m => R.subquery range step m (value store e)
where
  /-- The values of the trees of a list. -/
  valueAll (store : List Series) : List Expr → List Value
    | [] => []
    | e :: es => value store e :: valueAll store es

theorem valueAll_eq (store : List Series) (es : List Expr) :
    value.valueAll R store es = es.map (R.value store) := by
  induction es with
  | nil => rfl
  | cons e es ih => simp only [value.valueAll, ih, List.map_cons]

/-- A tree with its selectors replaced has over one store the value of the tree over another one, if
each new selector takes the series from the first that the old one takes from the second. -/
theorem value_replace {select : Selector → Selector} {store store' : List Series} (e : Expr)
    (hmodifiers : ∀ s, (select s).modifiers = s.modifiers)
    (h : ∀ s ∈ e.selectors,
      R.restrict (select s).allMatchers store = R.restrict s.allMatchers store') :
    R.value store (e.replace ⟨id, select, id⟩) = R.value store' e := by
  induction e using Expr.induction_on_children with
  | node e ih =>
    rw [Expr.selectors_eq] at h
    have hown : ∀ s, e.ownSelector? = some s →
        R.restrict (select s).allMatchers store = R.restrict s.allMatchers store' :=
      fun s hs => h s (List.mem_append_left _ (Option.mem_toList.mpr hs))
    have hchildren : ∀ c ∈ e.children,
        R.value store (c.replace ⟨id, select, id⟩) = R.value store' c := by
      intro c hc
      refine ih c hc fun s hs => h s (List.mem_append_right _ ?_)
      exact List.mem_flatMap.mpr ⟨c, hc, hs⟩
    cases e with
    | number x => rfl
    | string s => rfl
    | vector s => simp only [Expr.replace, value, hmodifiers, hown s rfl]
    | matrix s range => simp only [Expr.replace, value, hmodifiers, hown s rfl]
    | call function args =>
        rw [Expr.replace_call]
        simp only [value, valueAll_eq, List.map_map]
        exact congrArg _ (List.map_congr_left hchildren)
    | aggregation op grouping param body =>
        cases param with
        | none => simp only [Expr.replace, value, hchildren body List.mem_cons_self]
        | some param =>
            have hbody := hchildren body (List.mem_cons_of_mem _ List.mem_cons_self)
            simp only [Expr.replace, value, hchildren param List.mem_cons_self, hbody]
    | binary op modifier left right =>
        have hright := hchildren right (List.mem_cons_of_mem _ List.mem_cons_self)
        simp only [Expr.replace, value, hchildren left List.mem_cons_self, hright]
    | unary sign e => simp only [Expr.replace, value, hchildren e List.mem_cons_self]
    | paren e => simp only [Expr.replace, value, hchildren e List.mem_cons_self]
    | subquery e range step m =>
        simp only [Expr.replace, value, id, hchildren e List.mem_cons_self]

/-- The value of a tree depends on the store only through what its selectors select. -/
theorem value_congr {store store' : List Series} (e : Expr)
    (h : ∀ s ∈ e.selectors, R.restrict s.allMatchers store = R.restrict s.allMatchers store') :
    R.value store e = R.value store' e := by
  have hvalue : R.value store (e.replace ⟨id, id, id⟩) = R.value store' e :=
    R.value_replace e (fun _ => rfl) h
  rwa [Expr.replace_id] at hvalue

/-- Restricting by one list of matchers after another is restricting by both. -/
theorem restrict_append (ms ns : List Matcher) (store : List Series) :
    R.restrict (ms ++ ns) store = R.restrict ms (R.restrict ns store) := by
  simp only [restrict, List.filter_filter, List.all_append]

/-- What is left by some matchers does not depend on their order. -/
theorem restrict_perm {ms ns : List Matcher} (h : ms.Perm ns) (store : List Series) :
    R.restrict ms store = R.restrict ns store :=
  List.filter_congr fun _ _ => h.all_eq

/-- Restricting by more matchers is restricting what fewer of them leave. -/
theorem restrict_restrict {ms ns : List Matcher} (h : ∀ m ∈ ms, m ∈ ns) (store : List Series) :
    R.restrict ns (R.restrict ms store) = R.restrict ns store := by
  simp only [restrict, List.filter_filter]
  refine List.filter_congr fun series _ => ?_
  rw [Bool.and_eq_left_iff_imp]
  simp only [List.all_eq_true]
  exact fun hns m hm => hns m (h m hm)

end Reading
end TenantScope.Query
