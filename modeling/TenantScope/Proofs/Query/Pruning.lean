/- Walks that change nothing: below which nodes they do not go, and where they end. -/
import TenantScope.Proofs.Query.Tree
import TenantScope.Proofs.Text.Split

namespace TenantScope.Query

/-! Nodes with those above them -/

/-- The nodes of a tree in pre-order, each behind the nodes above it, of which the nearest is the
first and `above` are those above the whole tree. -/
def Expr.lineages (above : List Expr) (e : Expr) : List (List Expr × Expr) :=
  (above, e) ::
    match e with
    | .call _ args => lineagesAll (e :: above) args
    | .aggregation _ _ none body => body.lineages (e :: above)
    | .aggregation _ _ (some param) body =>
      param.lineages (e :: above) ++ body.lineages (e :: above)
    | .binary _ _ left right => left.lineages (e :: above) ++ right.lineages (e :: above)
    | .unary _ c | .paren c | .subquery c _ _ _ => c.lineages (e :: above)
    | _ => []
where
  /-- The nodes of the trees of a list. -/
  lineagesAll (above : List Expr) : List Expr → List (List Expr × Expr)
    | [] => []
    | e :: es => e.lineages above ++ lineagesAll above es

theorem Expr.lineagesAll_eq (above es : List Expr) :
    Expr.lineages.lineagesAll above es = es.flatMap (Expr.lineages above) := by
  induction es with
  | nil => rfl
  | cons e es ih => rw [Expr.lineages.lineagesAll, ih, List.flatMap_cons]

theorem Expr.lineages_eq (above : List Expr) (e : Expr) :
    e.lineages above = (above, e) :: e.children.flatMap (Expr.lineages (e :: above)) := by
  cases e with
  | call function args => rw [Expr.lineages, Expr.lineagesAll_eq]; rfl
  | aggregation op grouping param body =>
      cases param <;> simp [Expr.lineages, Expr.children]
  | _ => simp [Expr.lineages, Expr.children]

/-- Without those above them, these are the nodes in pre-order. -/
theorem Expr.map_lineages (above : List Expr) (e : Expr) :
    (e.lineages above).map Prod.snd = e.preorder := by
  induction e using Expr.induction_on_children generalizing above with
  | node e ih =>
    rw [Expr.lineages_eq, Expr.preorder_eq, List.map_cons, List.map_flatMap]
    exact congrArg (e :: ·) (List.flatMap_congr fun c hc => ih c hc (e :: above))

/-- Above a node stand its parent, the parent of this one, and so on up to the whole tree. -/
theorem Expr.isChain_of_mem_lineages {above : List Expr} {e : Expr} {n : List Expr × Expr}
    (habove : (e :: above).IsChain fun c d => c ∈ d.children) (h : n ∈ e.lineages above) :
    (n.2 :: n.1).IsChain fun c d => c ∈ d.children := by
  induction e using Expr.induction_on_children generalizing above with
  | node e ih =>
    rw [Expr.lineages_eq] at h
    rcases List.mem_cons.mp h with rfl | h
    · exact habove
    · obtain ⟨c, hc, hn⟩ := List.mem_flatMap.mp h
      exact ih c hc (List.isChain_cons_cons.mpr ⟨hc, habove⟩) hn

theorem Expr.suffix_of_mem_lineages {above : List Expr} {e : Expr} {n : List Expr × Expr}
    (h : n ∈ e.lineages above) : e :: above <:+ n.2 :: n.1 := by
  induction e using Expr.induction_on_children generalizing above with
  | node e ih =>
    rw [Expr.lineages_eq] at h
    rcases List.mem_cons.mp h with rfl | h
    · exact List.suffix_refl _
    · obtain ⟨c, hc, hn⟩ := List.mem_flatMap.mp h
      exact (List.suffix_cons c _).trans (ih c hc hn)

theorem Expr.mem_above_of_mem_lineages {above : List Expr} {d e : Expr} {n : List Expr × Expr}
    (hd : d ∈ above) (h : n ∈ e.lineages above) : d ∈ n.1 := by
  rcases List.suffix_cons_iff.mp (Expr.suffix_of_mem_lineages h) with heq | hsuffix
  · obtain ⟨-, rfl⟩ := List.cons.inj heq
    exact hd
  · exact hsuffix.subset (List.mem_cons_of_mem e hd)

/-! Nodes that are not below a pruned one -/

/-- The nodes of a tree in pre-order that have no pruned node above them. -/
def Expr.keptBelow (prunes : Expr → Bool) (above : List Expr) (e : Expr) : List Expr :=
  ((e.lineages above).filter fun n => !n.1.any prunes).map Prod.snd

theorem Expr.keptBelow_eq_nil {prunes : Expr → Bool} {above : List Expr}
    (h : above.any prunes = true) (e : Expr) : e.keptBelow prunes above = [] := by
  rw [Expr.keptBelow, List.map_eq_nil_iff, List.filter_eq_nil_iff]
  intro n hn
  obtain ⟨d, hd, hprunes⟩ := List.any_eq_true.mp h
  have hpruned : n.1.any prunes = true :=
    List.any_eq_true.mpr ⟨d, Expr.mem_above_of_mem_lineages hd hn, hprunes⟩
  rw [hpruned]
  exact Bool.false_ne_true

theorem Expr.keptBelow_eq {prunes : Expr → Bool} {above : List Expr}
    (h : above.any prunes = false) (e : Expr) :
    e.keptBelow prunes above = e :: e.children.flatMap (Expr.keptBelow prunes (e :: above)) := by
  rw [Expr.keptBelow, Expr.lineages_eq, List.filter_cons_of_pos (by simp only [h, Bool.not_false]),
    List.map_cons, List.filter_flatMap, List.map_flatMap]
  rfl

/-- The nodes of a tree in pre-order that have no node of a pruned kind above them. -/
def Expr.kept (pruned : List NodeKind) (e : Expr) : List Expr :=
  e.keptBelow (fun d => d.kind ∈ pruned) []

theorem Expr.kept_nil (e : Expr) : e.kept [] = e.preorder := by
  rw [Expr.kept, Expr.keptBelow, List.filter_eq_self.mpr, Expr.map_lineages]
  intro n _
  rw [Bool.not_eq_true', List.any_eq_false]
  intro d _
  simp

/-! Walks that change nothing -/

variable {σ : Type}

/-- A visitor that changes nothing, ends the walk at some nodes and does not go below others. -/
structure Surveys (visit : Visitor σ) (next : σ → Expr → σ) (halts prunes : Expr → Bool) :
    Prop where
  state : ∀ seen e, (visit seen e).state = next seen e
  node : ∀ seen e, (visit seen e).node = e
  step : ∀ seen e, (visit seen e).step =
    if halts e then .stop else if prunes e then .skip else .enter

/-- What is left of a walk past some nodes that is ended by the first of them that halts it. -/
def surveyed {α : Type} (next : σ → Expr → σ) (halts : Expr → Bool) (nodes : List Expr) (seen : σ)
    (tree : α) : Walked σ α :=
  ⟨(upTo halts nodes).foldl next seen, tree, !nodes.any halts⟩

variable {visit : Visitor σ} {next : σ → Expr → σ} {halts prunes : Expr → Bool}
  {kept : Expr → List Expr}

/-- Past a halt in the first part of the nodes a walk does not come to the rest of them. -/
theorem surveyed_append {α : Type} (xs ys : List Expr) (seen : σ) (tree : α) :
    surveyed next halts (xs ++ ys) seen tree =
      if !xs.any halts then
        ⟨(upTo halts ys).foldl next ((upTo halts xs).foldl next seen), tree, !ys.any halts⟩
      else ⟨(upTo halts xs).foldl next seen, tree, false⟩ := by
  rw [surveyed, upTo_append, List.any_append]
  by_cases hany : xs.any halts = true
  · simp only [hany, Bool.true_or, Bool.not_true, if_true, Bool.false_eq_true, if_false]
  · have hnone : xs.any halts = false := Bool.eq_false_iff.mpr hany
    simp only [hnone, upTo_eq_self, Bool.false_or, Bool.not_false, if_true, Bool.false_eq_true,
      if_false, List.foldl_append]

theorem walkAll_surveyed {es : List Expr}
    (h : ∀ e ∈ es, ∀ seen, walk visit seen e = surveyed next halts (kept e) seen e) (seen : σ) :
    walkAll visit seen es = surveyed next halts (es.flatMap kept) seen es := by
  induction es generalizing seen with
  | nil => rw [walkAll]; rfl
  | cons e es ih =>
      have hes := ih fun d hd => h d (List.mem_cons_of_mem e hd)
      rw [walkAll, h e List.mem_cons_self, List.flatMap_cons, surveyed_append]
      simp only [surveyed, hes]

theorem walkChildren_surveyed {e : Expr}
    (h : ∀ c ∈ e.children, ∀ seen, walk visit seen c = surveyed next halts (kept c) seen c)
    (seen : σ) :
    walkChildren visit seen e = surveyed next halts (e.children.flatMap kept) seen e := by
  cases e with
  | call function args =>
      have hargs := walkAll_surveyed h seen
      simp only [Expr.children] at hargs ⊢
      rw [walkChildren, hargs]
      rfl
  | aggregation op grouping param body =>
      cases param with
      | none =>
          have hbody := h body List.mem_cons_self
          simp only [walkChildren, hbody, surveyed, Expr.children, Option.toList_none,
            List.nil_append, List.flatMap_singleton]
      | some param =>
          have hparam := h param List.mem_cons_self
          have hbody := h body (List.mem_cons_of_mem _ List.mem_cons_self)
          simp only [walkChildren, hparam, hbody, Expr.children, Option.toList_some,
            List.cons_append, List.nil_append, List.flatMap_cons, List.flatMap_nil,
            List.append_nil, surveyed_append]
          rfl
  | binary op modifier left right =>
      have hleft := h left List.mem_cons_self
      have hright := h right (List.mem_cons_of_mem _ List.mem_cons_self)
      simp only [walkChildren, hleft, hright, Expr.children, List.flatMap_cons, List.flatMap_nil,
        List.append_nil, surveyed_append]
      rfl
  | unary sign e | paren e | subquery e range step m =>
      have hinner := h e List.mem_cons_self
      simp only [walkChildren, hinner, surveyed, Expr.children, List.flatMap_singleton]
  | _ => simp only [walkChildren]; rfl

/-- A walk that changes nothing passes the nodes that are not below a pruned one in pre-order, up to
the first of them that halts it, and it runs to its end if there is none. -/
theorem Surveys.walk_eq (h : Surveys visit next halts prunes) {above : List Expr}
    (habove : above.any prunes = false) (e : Expr) (seen : σ) :
    walk visit seen e = surveyed next halts (e.keptBelow prunes above) seen e := by
  -- the nodes above grow on the way down, so that below a pruned node none is kept
  induction e using Expr.induction_on_children generalizing above seen with
  | node e ih =>
    rw [Expr.keptBelow_eq habove, ← List.singleton_append, surveyed_append, walk]
    simp only [h.step, h.state, h.node, List.any_cons, List.any_nil, Bool.or_false, upTo]
    cases hhalts : halts e with
    | true => rfl
    | false =>
        cases hprunes : prunes e with
        | true =>
            have hnone : e.children.flatMap (Expr.keptBelow prunes (e :: above)) = [] :=
              List.flatMap_eq_nil_iff.mpr fun c _ =>
                Expr.keptBelow_eq_nil (by rw [List.any_cons, hprunes, Bool.true_or]) c
            rw [hnone]
            rfl
        | false =>
            have hopen : (e :: above).any prunes = false := by
              rw [List.any_cons, hprunes, habove, Bool.false_or]
            exact walkChildren_surveyed (fun c hc => ih c hc hopen) (next seen e)

/-! Recorders -/

theorem surveys_recorder (pruned : List NodeKind) (halt : Option NodeKind) :
    Surveys (recorder pruned halt) (fun seen e => seen ++ [e.kind]) (fun e => halt = some e.kind)
      (fun e => e.kind ∈ pruned) where
  state seen e := by unfold recorder; split <;> rfl
  node seen e := by unfold recorder; split <;> rfl
  step seen e := by
    unfold recorder
    simp only [decide_eq_true_eq]
    split <;> rfl

theorem foldl_kind (seen : List NodeKind) (es : List Expr) :
    es.foldl (fun seen e => seen ++ [e.kind]) seen = seen ++ es.map Expr.kind := by
  induction es generalizing seen with
  | nil => exact (List.append_nil seen).symm
  | cons e es ih => rw [List.foldl_cons, ih, List.map_cons, List.append_assoc]; rfl

/-- A recorder's walk changes nothing and records the kinds of the nodes that are kept, up to the
first one that halts it. -/
theorem walk_recorder (pruned : List NodeKind) (halt : Option NodeKind) (e : Expr) :
    walk (recorder pruned halt) [] e =
      ⟨upTo (fun k => halt = some k) ((e.kept pruned).map Expr.kind), e,
        !((e.kept pruned).map Expr.kind).any fun k => halt = some k⟩ := by
  rw [(surveys_recorder pruned halt).walk_eq List.any_nil, surveyed, foldl_kind, List.nil_append,
    map_upTo (p := fun k => halt = some k), List.any_map]
  rfl

theorem Expr.kinds_eq (e : Expr) : e.kinds = e.preorder.map Expr.kind := by
  have hnone : (e.preorder.map Expr.kind).any (fun k => none = some k) = false :=
    List.any_eq_false.mpr fun k _ => Bool.false_ne_true
  rw [Expr.kinds, walk_recorder, Expr.kept_nil]
  exact upTo_eq_self hnone

/-- A walk that records, prunes below some kinds and stops at one leaves the tree as it was. It
records the kinds of the nodes in pre-order, without those that have a node of a pruned kind above
them, up to the first kind to stop at, and it stops exactly if this kind is among them. -/
theorem walk_recorder_exact (pruned : List NodeKind) (halt : Option NodeKind) (e : Expr) :
    let walked := walk (recorder pruned halt) [] e
    let kinds := (e.kept pruned).map Expr.kind
    walked.tree = e ∧
      walked.state = (match halt with
        | none => kinds
        | some k => kinds.take (kinds.idxOf k + 1)) ∧
      (walked.finished = false ↔ ∃ k ∈ kinds, halt = some k) ∧
      (e.lineages []).map Prod.snd = e.preorder ∧
      ∀ n ∈ e.lineages [], (n.2 :: n.1).IsChain (fun c d => c ∈ d.children) ∧
        [e] <:+ n.2 :: n.1 := by
  intro walked kinds
  have hwalked : walked = ⟨upTo (fun k => halt = some k) kinds, e,
      !kinds.any fun k => halt = some k⟩ := walk_recorder pruned halt e
  rw [hwalked]
  refine ⟨rfl, ?_, ?_, Expr.map_lineages [] e, fun n hn => ?_⟩
  · cases halt with
    | none => exact upTo_eq_self (List.any_eq_false.mpr fun k _ => Bool.false_ne_true)
    | some k =>
        simp only [Option.some.injEq]
        exact upTo_eq_take k kinds
  · rw [Bool.not_eq_false', List.any_eq_true]
    simp only [decide_eq_true_eq]
  · exact ⟨Expr.isChain_of_mem_lineages (.singleton e) hn,
      Expr.suffix_of_mem_lineages hn⟩

/-- The literal in parentheses is not come to, and the one behind them ends the walk. -/
example : (walk (recorder [.paren] (some .string)) []
    (.binary .add none (.paren (.string [])) (.call [] [.string [], .string []]))).state =
      [.binary, .paren, .call, .string] := by decide +kernel

end TenantScope.Query
