/- The trees that the reader makes at each place of an expression. -/
import TenantScope.Proofs.Query.Chains
import TenantScope.Proofs.Query.Selectors

namespace TenantScope.Query

/-- Groupings as the reader makes them. -/
def Grouping.WellFormed (g : Grouping) : Prop := ∀ l ∈ g.labels, clauseLabel? l = some (l, [])

/-- Vector matchings as the reader makes them. -/
structure VectorMatching.WellFormed (m : VectorMatching) : Prop where
  labels : ∀ l ∈ m.labels, clauseLabel? l = some (l, [])
  group : ∀ g ∈ m.group, ∀ l ∈ g.labels, clauseLabel? l = some (l, [])

/-- Modifiers of binary operators as the reader makes them: none of them is empty. -/
structure BinaryModifier.WellFormed (m : BinaryModifier) : Prop where
  matching : ∀ matching ∈ m.matching, matching.WellFormed
  nonempty : m.matching = none → m.returnBool = true

/-- Subquery ranges as the reader makes them. -/
structure Window.InRange (w : Window) : Prop where
  range : w.range ≤ maxInteger
  step : ∀ step ∈ w.step, step ≤ maxInteger
  modifiers : w.modifiers.InRange

/-- The grammar of trees, place by place, with the bounds and words that the reader keeps to. -/
inductive Expr.At : Place → Expr → Prop
  | chain {first : Expr} {links : List Link} :
      At .operand first →
      (∀ link ∈ links, ∀ m ∈ link.modifier, m.WellFormed) →
      (∀ link ∈ links, At .operand link.operand) → At .chain (.ofChain first links)
  | unary {e : Expr} (sign : Sign) : At .operand e → At .operand (.unary sign e)
  | windows {base : Expr} {windows : List Window} :
      At .primary base → (∀ w ∈ windows, w.InRange) → At .operand (.ofWindows base windows)
  | number {x : Binary64} : x.isNegative = false → At .primary (.number x)
  | string (s : Text) : At .primary (.string s)
  | vector {s : Selector} : s.WellFormed → At .primary (.vector s)
  | matrix {s : Selector} {range : Nat} :
      s.WellFormed → range ≤ maxInteger → At .primary (.matrix s range)
  | call {function : Text} {args : List Expr} :
      isBareName function = true → (∀ a ∈ args, At .chain a) → At .primary (.call function args)
  | aggregation {op : AggregateOp} {grouping : Option Grouping} {param : Option Expr}
      {body : Expr} :
      (∀ g ∈ grouping, g.WellFormed) → param.isSome = op.hasParam →
      (∀ p ∈ param, At .chain p) → At .chain body →
      At .primary (.aggregation op grouping param body)
  | paren {e : Expr} : At .chain e → At .primary (.paren e)

/-! Words, durations and instants -/

theorem bind_eq_ok {ε α β : Type} {x : Except ε α} {f : α → Except ε β} {b : β}
    (h : x >>= f = .ok b) : ∃ a, x = .ok a ∧ f a = .ok b := by
  cases x with
  | error e => cases h
  | ok a => exact ⟨a, rfl, h⟩

theorem mapError_eq_ok {ε ε' α : Type} {x : Except ε α} {f : ε → ε'} {a : α}
    (h : x.mapError f = .ok a) : x = .ok a := by
  cases x with
  | error _ => cases h
  | ok p =>
      cases h
      rfl

theorem clauseLabel?_self {s l r : Text} (h : clauseLabel? s = some (l, r)) :
    clauseLabel? l = some (l, []) := by
  obtain ⟨hword, hfree⟩ := Option.filter_eq_some_iff.mp h
  obtain ⟨-, hself, -⟩ := word?_eq_some hword
  exact Option.filter_eq_some_iff.mpr ⟨hself, hfree⟩

theorem duration_le {s r : Text} {ms : Nat} (h : duration s = .ok (ms, r)) : ms ≤ maxInteger := by
  obtain ⟨⟨first, rest⟩, -, h⟩ := bind_eq_ok h
  dsimp only at h
  split at h
  · cases h
  · cases h
    omega

theorem natAbs_sign (negative : Bool) (n : Nat) :
    (if negative = true then -(n : Int) else n).natAbs = n := by
  cases negative with
  | false => rfl
  | true => exact Int.natAbs_neg n

theorem signedDuration?_le {s r : Text} {ms : Int} (h : signedDuration? s = some (ms, r)) :
    ms.natAbs ≤ maxInteger := by
  obtain ⟨⟨n, rest⟩, hread, heq⟩ := Option.map_eq_some_iff.mp h
  have hn : n ≤ maxInteger := by
    cases hd : duration _ with
    | error f => rw [hd] at hread; cases hread
    | ok p =>
        rw [hd] at hread
        cases hread
        exact duration_le hd
  rw [← (Prod.mk.inj heq).1]
  exact Nat.le_trans (Nat.le_of_eq (natAbs_sign _ n)) hn

theorem millisOf?_inRange {x : Binary64} {ms : Int} (h : millisOf? x = some ms) :
    (Instant.millis ms).InRange := by
  by_cases hx : x.isFinite = true
  · rw [millisOf?, if_pos hx] at h
    rw [← Option.some.inj h]
    exact inRange_clampInstant _
  · rw [millisOf?, if_neg hx] at h
    cases h

theorem instant?_inRange {s r : Text} {i : Instant} (h : instant? s = some (i, r)) :
    i.InRange := by
  unfold instant? at h
  split at h
  · rcases Option.or_eq_some_iff.mp h with h | ⟨-, h⟩
    · obtain ⟨_, -, heq⟩ := Option.map_eq_some_iff.mp h
      cases heq
      trivial
    rcases Option.or_eq_some_iff.mp h with h | ⟨-, h⟩
    · obtain ⟨_, -, heq⟩ := Option.map_eq_some_iff.mp h
      cases heq
      trivial
    · obtain ⟨⟨x, rest⟩, -, h⟩ := Option.bind_eq_some_iff.mp h
      obtain ⟨ms, hms, heq⟩ := Option.bind_eq_some_iff.mp h
      cases heq
      exact millisOf?_inRange hms
  · cases h

theorem modifiersFrom_inRange {fuel : Nat} {m m' : Modifiers} {s r : Text} (hm : m.InRange)
    (h : modifiersFrom fuel m s = .ok (m', r)) : m'.InRange := by
  induction fuel generalizing m s with
  | zero =>
      cases h
      exact hm
  | succ fuel ih =>
      rw [modifiersFrom] at h
      split at h
      · next i rest hi =>
        split at h
        · cases h
        · refine ih ?_ h
          refine ⟨?_, hm.offset⟩
          rintro _ ⟨⟩
          exact instant?_inRange hi
      · next ms rest hi hms =>
        split at h
        · cases h
        · refine ih ?_ h
          refine ⟨hm.instant, ?_⟩
          rintro _ ⟨⟩
          obtain ⟨_, -, hread⟩ := Option.bind_eq_some_iff.mp hms
          exact signedDuration?_le hread
      · cases h
        exact hm

theorem Modifiers.inRange_empty : Modifiers.empty.InRange :=
  ⟨fun _ h => (by cases h), fun _ h => (by cases h)⟩

theorem modifiers_inRange {m : Modifiers} {s r : Text} (h : modifiers s = .ok (m, r)) :
    m.InRange := modifiersFrom_inRange Modifiers.inRange_empty h

/-! Lists -/

theorem sepItems_forall {α : Type} {P : α → Prop} {sep : Text → Option Text} {item : Lexer α}
    (hitem : ∀ s a r, item s = some (a, r) → P a) (fuel : Nat) (s : Text) :
    ∀ a ∈ (sepItems sep item fuel s).1, P a := by
  induction fuel generalizing s with
  | zero => exact List.forall_mem_nil _
  | succ fuel ih =>
      rw [sepItems]
      split
      · exact List.forall_mem_nil _
      · next a rest h =>
        obtain ⟨t, -, ht⟩ := Option.bind_eq_some_iff.mp h
        exact List.forall_mem_cons.mpr ⟨hitem t a rest ht, ih rest⟩

theorem sepList_forall {α : Type} {P : α → Prop} {sep : Text → Option Text} {item : Lexer α}
    (hitem : ∀ s a r, item s = some (a, r) → P a) (fuel : Nat) (s : Text) :
    ∀ a ∈ (sepList sep item fuel s).1, P a := by
  rw [sepList]
  split
  · exact List.forall_mem_nil _
  · next a rest h =>
    exact List.forall_mem_cons.mpr ⟨hitem s a rest h, sepItems_forall hitem fuel rest⟩

theorem labelList?_forall {s r : Text} {ls : List Text} (h : labelList? s = some (ls, r)) :
    ∀ l ∈ ls, clauseLabel? l = some (l, []) := by
  unfold labelList? at h
  split at h
  · dsimp only at h
    split at h
    · cases h
      exact sepList_forall (fun _ _ _ => clauseLabel?_self) _ _
    · cases h
  · cases h

/-! Selectors -/

theorem matcher?_labelled {s r : Text} {m : Matcher} (h : matcher? s = some (m, r)) :
    m.Labelled := by
  rcases Option.or_eq_some_iff.mp h with h | ⟨-, h⟩
  · obtain ⟨⟨name, s⟩, hname, h⟩ := Option.bind_eq_some_iff.mp h
    obtain ⟨⟨op, s⟩, -, h⟩ := Option.bind_eq_some_iff.mp h
    obtain ⟨⟨value, s⟩, -, heq⟩ := Option.bind_eq_some_iff.mp h
    cases heq
    exact (word?_eq_some hname).2.1
  · obtain ⟨r, -, heq⟩ := Option.map_eq_some_iff.mp h
    cases heq
    exact (by decide : labelName? metricLabel = some (metricLabel, []))

theorem matchersInside_labelled (s : Text) : ∀ m ∈ (matchersInside s).1, m.Labelled := by
  have hall : ∀ m ∈ (sepList skipComma? matcher? s.length s).1, m.Labelled :=
    sepList_forall (fun _ _ _ => matcher?_labelled) s.length s
  rw [matchersInside]
  split
  · exact List.forall_mem_nil _
  · next hread =>
    rw [hread] at hall
    exact hall

theorem matcherList_labelled {s r : Text} {ms : List Matcher} (h : matcherList s = .ok (ms, r)) :
    ∀ m ∈ ms, m.Labelled := by
  obtain ⟨inside, -, h⟩ := bind_eq_ok h
  have hall := matchersInside_labelled (skip inside)
  cases hread : matchersInside (skip inside) with
  | mk ms' rest =>
      rw [hread] at h hall
      obtain ⟨rest', -, heq⟩ := bind_eq_ok h
      cases heq
      exact hall

/-- Whatever follows the matchers, the selector is one of the grammar. -/
theorem selectorTail_at {name : Option Text} {ms : List Matcher} {s r : Text} {e : Expr}
    (hms : ∀ m ∈ ms, m.Labelled) (hname : name = none → ∀ m ∈ ms, m.fixesName = false)
    (h : selectorTail name ms s = .ok (e, r)) : e.At .primary := by
  have hvector : ∀ t, (modifiers t >>= fun p => pure (Expr.vector ⟨name, ms, p.1⟩, p.2)) =
      Except.ok (e, r) → e.At .primary := by
    intro t h
    obtain ⟨⟨m, rest⟩, hm, heq⟩ := bind_eq_ok h
    cases heq
    exact .vector ⟨hms, hname, modifiers_inRange hm⟩
  unfold selectorTail at h
  dsimp only at h
  split at h
  · split at h
    · exact hvector _ h
    · obtain ⟨⟨range, rest⟩, hrange, h⟩ := bind_eq_ok h
      obtain ⟨rest', -, h⟩ := bind_eq_ok h
      obtain ⟨⟨m, rest''⟩, hm, heq⟩ := bind_eq_ok h
      cases heq
      exact .matrix ⟨hms, hname, modifiers_inRange hm⟩ (duration_le hrange)
  · exact hvector _ h

theorem matcherSelector_at {s r : Text} {e : Expr} (h : matcherSelector s = .ok (e, r)) :
    e.At .primary := by
  obtain ⟨⟨ms, rest⟩, hms, h⟩ := bind_eq_ok h
  refine selectorTail_at ?_ ?_ h
  · exact fun m hm => matcherList_labelled hms m (List.mem_of_mem_filter hm)
  · intro _ m hm
    simpa only [Bool.not_eq_true'] using List.of_mem_filter hm

theorem namedSelector_at {name s r : Text} {e : Expr} (h : namedSelector name s = .ok (e, r)) :
    e.At .primary := by
  unfold namedSelector at h
  split at h
  · obtain ⟨⟨ms, rest⟩, hms, h⟩ := bind_eq_ok h
    exact selectorTail_at (matcherList_labelled hms) (fun hn => (by cases hn)) h
  · exact selectorTail_at (fun _ hm => (by cases hm)) (fun hn => (by cases hn)) h

/-! Operators -/

theorem grouping?_wellFormed {s r : Text} {g : Grouping} (h : grouping? s = some (g, r)) :
    g.WellFormed := by
  obtain ⟨⟨mode, s⟩, -, h⟩ := Option.bind_eq_some_iff.mp h
  obtain ⟨⟨labels, s⟩, hlabels, heq⟩ := Option.bind_eq_some_iff.mp h
  cases heq
  exact labelList?_forall hlabels

theorem groupModifier?_forall {s r : Text} {g : GroupModifier}
    (h : groupModifier? s = some (g, r)) : ∀ l ∈ g.labels, clauseLabel? l = some (l, []) := by
  obtain ⟨⟨side, s⟩, -, h⟩ := Option.bind_eq_some_iff.mp h
  dsimp only at h
  split at h
  · next labels s hlabels =>
    cases h
    exact labelList?_forall hlabels
  · cases h
    exact fun _ hl => (by cases hl)

theorem vectorMatching?_wellFormed {s r : Text} {m : VectorMatching}
    (h : vectorMatching? s = some (m, r)) : m.WellFormed := by
  obtain ⟨⟨mode, s⟩, -, h⟩ := Option.bind_eq_some_iff.mp h
  obtain ⟨⟨labels, s⟩, hlabels, h⟩ := Option.bind_eq_some_iff.mp h
  dsimp only at h
  split at h
  · next g s hg =>
    cases h
    refine ⟨labelList?_forall hlabels, ?_⟩
    rintro _ ⟨⟩
    exact groupModifier?_forall hg
  · cases h
    exact ⟨labelList?_forall hlabels, fun _ hg => (by cases hg)⟩

theorem binaryModifier_wellFormed (s : Text) :
    ∀ m ∈ (binaryModifier s).1, m.WellFormed := by
  intro m hm
  unfold binaryModifier at hm
  dsimp only at hm
  split at hm
  · next matching rest hmatching =>
    cases hm
    refine ⟨?_, fun h => (by cases h)⟩
    rintro _ ⟨⟩
    exact vectorMatching?_wellFormed hmatching
  · split at hm
    · cases hm
      exact ⟨fun _ h => (by cases h), fun _ => rfl⟩
    · cases hm

/-! Operands -/

theorem subqueryRange_inRange {s r : Text} {range : Nat} {step : Option Nat}
    (h : subqueryRange s = .ok ((range, step), r)) :
    range ≤ maxInteger ∧ ∀ n ∈ step, n ≤ maxInteger := by
  obtain ⟨s, -, h⟩ := bind_eq_ok h
  obtain ⟨⟨range, s⟩, hrange, h⟩ := bind_eq_ok h
  obtain ⟨s, -, h⟩ := bind_eq_ok h
  dsimp only at h
  split at h
  · next step s hstep =>
    obtain ⟨s, -, heq⟩ := bind_eq_ok h
    cases heq
    refine ⟨duration_le hrange, ?_⟩
    rintro _ ⟨⟩
    exact duration_le hstep
  · obtain ⟨s, -, heq⟩ := bind_eq_ok h
    cases heq
    exact ⟨duration_le hrange, fun _ hn => (by cases hn)⟩

theorem subqueries_eq_ofWindows {fuel : Nat} {e d : Expr} {s r : Text}
    (h : subqueries fuel e s = .ok (d, r)) :
    ∃ windows, d = .ofWindows e windows ∧ ∀ w ∈ windows, w.InRange := by
  induction fuel generalizing e s with
  | zero =>
      cases h
      exact ⟨[], rfl, fun _ h => nomatch h⟩
  | succ fuel ih =>
      rw [subqueries] at h
      split at h
      · obtain ⟨⟨⟨range, step⟩, s⟩, hrange, h⟩ := bind_eq_ok h
        obtain ⟨⟨m, s⟩, hm, h⟩ := bind_eq_ok h
        obtain ⟨windows, rfl, hwindows⟩ := ih h
        obtain ⟨hrange, hstep⟩ := subqueryRange_inRange hrange
        exact ⟨⟨range, step, m⟩ :: windows, rfl,
          List.forall_mem_cons.mpr ⟨⟨hrange, hstep, modifiers_inRange hm⟩, hwindows⟩⟩
      · cases h
        exact ⟨[], rfl, fun _ h => nomatch h⟩

section

variable {operand : Reader Expr} (hoperand : ∀ s e r, operand s = .ok (e, r) → e.At .operand)
include hoperand

theorem chainLinks_at {fuel : Nat} {s r : Text} {links : List Link}
    (h : chainLinks operand fuel s = .ok (links, r)) :
    (∀ link ∈ links, ∀ m ∈ link.modifier, m.WellFormed) ∧
      ∀ link ∈ links, link.operand.At .operand := by
  induction fuel generalizing s links r with
  | zero =>
      cases h
      exact ⟨fun _ h => (nomatch h), fun _ h => (nomatch h)⟩
  | succ fuel ih =>
      rw [chainLinks] at h
      split at h
      · cases h
        exact ⟨fun _ h => (nomatch h), fun _ h => (nomatch h)⟩
      · next op rest _ =>
        have hmodifier := binaryModifier_wellFormed rest
        obtain ⟨⟨e, rest'⟩, he, h⟩ := bind_eq_ok h
        obtain ⟨⟨links, rest''⟩, hlinks, heq⟩ := bind_eq_ok h
        cases heq
        obtain ⟨hms, hes⟩ := ih hlinks
        exact ⟨List.forall_mem_cons.mpr ⟨hmodifier, hms⟩,
          List.forall_mem_cons.mpr ⟨hoperand _ _ _ he, hes⟩⟩

theorem chain_at {fuel : Nat} {s r : Text} {e : Expr} (h : chain fuel operand s = .ok (e, r)) :
    e.At .chain := by
  obtain ⟨⟨first, rest⟩, hfirst, h⟩ := bind_eq_ok h
  obtain ⟨⟨links, rest'⟩, hread, heq⟩ := bind_eq_ok h
  cases heq
  obtain ⟨hms, hes⟩ := chainLinks_at hoperand hread
  exact .chain (hoperand _ _ _ hfirst) hms hes

end

/-! Operands without a sign -/

/-- The grouping in front of the parentheses of an aggregation, and what stands behind it. -/
def groupingBefore (s : Text) : Option Grouping × Text :=
  match grouping? (skip s) with
  | some (g, r) => (some g, skip r)
  | none => (none, skip s)

/-- The grouping of an aggregation, which stands behind the parentheses if none stands before. -/
def groupingBehind (before : Option Grouping) (s : Text) : Option Grouping × Text :=
  match before, grouping? (skip s) with
  | some g, _ => (some g, s)
  | none, some (g, r) => (some g, r)
  | none, none => (none, skip s)

theorem aggregationTail_eq (expr : Reader Expr) (op : AggregateOp) (s : Text) :
    aggregationTail expr op s =
      expect '(' (groupingBefore s).2 >>= fun s₁ => aggregationParam expr op s₁ >>= fun param =>
        expr param.2 >>= fun body => expect ')' (skip body.2) >>= fun s₂ =>
          let grouping := groupingBehind (groupingBefore s).1 s₂
          .ok (.aggregation op grouping.1 param.1 body.1, grouping.2) := by
  rw [groupingBefore]
  cases hbefore : grouping? (skip s) with
  | some g =>
      simp only [aggregationTail, hbefore]
      rfl
  | none =>
      simp only [aggregationTail, hbefore]
      refine bind_congr fun s₁ => bind_congr fun param => bind_congr fun body => ?_
      refine bind_congr fun s₂ => ?_
      unfold groupingBehind
      cases grouping? (skip s₂) <;> rfl

/-- What an aggregation is read from behind its operator. -/
theorem aggregationTail_eq_ok {expr : Reader Expr} {op : AggregateOp} {s r : Text} {e : Expr}
    (h : aggregationTail expr op s = .ok (e, r)) :
    ∃ s₁ param s₂ body s₃ s₄, expect '(' (groupingBefore s).2 = .ok s₁ ∧
      aggregationParam expr op s₁ = .ok (param, s₂) ∧ expr s₂ = .ok (body, s₃) ∧
      expect ')' (skip s₃) = .ok s₄ ∧
      e = .aggregation op (groupingBehind (groupingBefore s).1 s₄).1 param body ∧
      r = (groupingBehind (groupingBefore s).1 s₄).2 := by
  rw [aggregationTail_eq] at h
  obtain ⟨s₁, hopen, h⟩ := bind_eq_ok h
  obtain ⟨⟨param, s₂⟩, hparam, h⟩ := bind_eq_ok h
  obtain ⟨⟨body, s₃⟩, hbody, h⟩ := bind_eq_ok h
  obtain ⟨s₄, hclose, heq⟩ := bind_eq_ok h
  cases heq
  exact ⟨s₁, param, s₂, body, s₃, s₄, hopen, hparam, hbody, hclose, rfl, rfl⟩

theorem groupingBefore_wellFormed (s : Text) : ∀ g ∈ (groupingBefore s).1, g.WellFormed := by
  rw [groupingBefore]
  split
  · next hgrouping =>
    rintro _ ⟨⟩
    exact grouping?_wellFormed hgrouping
  · exact fun _ hg => nomatch hg

theorem groupingBehind_wellFormed {before : Option Grouping}
    (hbefore : ∀ g ∈ before, g.WellFormed) (s : Text) :
    ∀ g ∈ (groupingBehind before s).1, g.WellFormed := by
  unfold groupingBehind
  split
  · exact hbefore
  · next hgrouping =>
    rintro _ ⟨⟩
    exact grouping?_wellFormed hgrouping
  · exact fun _ hg => nomatch hg

section

variable {expr : Reader Expr} (hexpr : ∀ s e r, expr s = .ok (e, r) → e.At .chain)
include hexpr

theorem callTail_at {fuel : Nat} {function s r : Text} {e : Expr}
    (hfunction : isBareName function = true) (h : callTail fuel expr function s = .ok (e, r)) :
    e.At .primary := by
  obtain ⟨s, -, h⟩ := bind_eq_ok h
  have hitem : ∀ s e r, (expr s).toOption = some (e, r) → e.At .chain := by
    intro s e r h
    cases hread : expr s with
    | error f => rw [hread] at h; cases h
    | ok p =>
        rw [hread] at h
        cases h
        exact hexpr _ _ _ hread
  have hargs : ∀ a ∈ (sepList skipComma? (fun s => (expr s).toOption) fuel (skip s)).1,
      a.At .chain := sepList_forall hitem fuel (skip s)
  dsimp only at h
  obtain ⟨s, -, heq⟩ := bind_eq_ok h
  cases heq
  exact .call hfunction hargs

theorem aggregationParam_at {op : AggregateOp} {s r : Text} {param : Option Expr}
    (h : aggregationParam expr op s = .ok (param, r)) :
    param.isSome = op.hasParam ∧ ∀ p ∈ param, p.At .chain := by
  unfold aggregationParam at h
  split at h
  · next hop =>
    obtain ⟨⟨p, s⟩, hp, h⟩ := bind_eq_ok h
    obtain ⟨s, -, heq⟩ := bind_eq_ok h
    cases heq
    refine ⟨hop.symm, ?_⟩
    rintro _ ⟨⟩
    exact hexpr _ _ _ hp
  · next hop =>
    cases h
    exact ⟨(Bool.not_eq_true _ ▸ hop).symm, fun _ hp => nomatch hp⟩

theorem aggregationTail_at {op : AggregateOp} {s r : Text} {e : Expr}
    (h : aggregationTail expr op s = .ok (e, r)) : e.At .primary := by
  obtain ⟨s₁, param, s₂, body, s₃, s₄, -, hparam, hbody, -, rfl, -⟩ := aggregationTail_eq_ok h
  obtain ⟨hsome, hp⟩ := aggregationParam_at hexpr hparam
  exact .aggregation (groupingBehind_wellFormed (groupingBefore_wellFormed s) s₄) hsome hp
    (hexpr _ _ _ hbody)

theorem namedOperand_at {fuel : Nat} {s r : Text} {e : Expr} (hnumber : number? s = none)
    (h : namedOperand fuel expr s = .ok (e, r)) : e.At .primary := by
  by_cases hop : aggregate? s = none
  · cases hname : metricName? s with
    | none =>
        rw [namedOperand_of_noName hop hname] at h
        cases h
    | some p =>
        obtain ⟨name, rest⟩ := p
        rw [namedOperand_of_name hop hname] at h
        split at h
        · next hparen =>
          refine callTail_at hexpr ?_ h
          obtain ⟨c, t, rfl, hc⟩ := exists_nameEnds_of_head?_skip hparen
          obtain ⟨rfl, hself, -⟩ := word?_eq_some hname
          have hne : name ≠ [] := by rintro rfl; cases hself
          rw [aggregate?_append hne hc] at hop
          refine isBareName_iff.mpr ⟨hself, ?_, hop⟩
          have hspecial : special? (name ++ c :: t) = none := (Option.or_eq_none_iff.mp hnumber).1
          rw [special?_append hc, Option.map_eq_none_iff] at hspecial
          exact hspecial
        · exact namedSelector_at h
  · obtain ⟨op, hop⟩ := Option.ne_none_iff_exists'.mp hop
    obtain ⟨⟨word, rest⟩, hword, hop⟩ := Option.bind_eq_some_iff.mp hop
    rw [namedOperand_of_aggregate hword hop] at h
    exact aggregationTail_at hexpr h

theorem primary_at {fuel : Nat} {s r : Text} {e : Expr} (h : primary fuel expr s = .ok (e, r)) :
    e.At .primary := by
  unfold primary at h
  split at h
  · obtain ⟨s, -, h⟩ := bind_eq_ok (mapError_eq_ok h)
    obtain ⟨⟨inner, s⟩, hinner, h⟩ := bind_eq_ok h
    obtain ⟨s, -, heq⟩ := bind_eq_ok h
    cases heq
    exact .paren (hexpr _ _ _ hinner)
  · exact matcherSelector_at (mapError_eq_ok h)
  · split at h
    · next x rest hnumber =>
      cases h
      exact .number (isNegative_of_number? hnumber)
    · cases h
      exact .string _
    · next hnumber _ => exact namedOperand_at hexpr hnumber h

end

theorem operandStep_at {fuel : Nat} {operand : Reader Expr}
    (hoperand : ∀ s e r, operand s = .ok (e, r) → e.At .operand) {s r : Text} {e : Expr}
    (h : operandStep fuel operand s = .ok (e, r)) : e.At .operand := by
  have hsigned : ∀ sign s rest, signed operand sign s rest = .ok (e, r) → e.At .operand := by
    intro sign s rest h
    unfold signed at h
    split at h
    · next hread =>
      cases h
      exact .unary sign (hoperand _ _ _ hread)
    · cases h
  unfold operandStep at h
  split at h
  · exact hsigned _ _ _ h
  · exact hsigned _ _ _ h
  · obtain ⟨⟨base, s⟩, hbase, h⟩ := bind_eq_ok h
    obtain ⟨windows, rfl, hwindows⟩ := subqueries_eq_ofWindows h
    exact .windows (primary_at (fun _ _ _ h => chain_at hoperand h) hbase) hwindows

theorem operand_at (fuel : Nat) (s : Text) (e : Expr) (r : Text)
    (h : operand fuel s = .ok (e, r)) : e.At .operand := by
  induction fuel generalizing s e r with
  | zero => cases h
  | succ fuel ih => exact operandStep_at ih h

theorem Expr.At.of_primary {e : Expr} (h : e.At .primary) : e.At .operand :=
  have hwindows : ∀ w ∈ ([] : List Window), w.InRange := fun _ hw => nomatch hw
  .windows h hwindows

theorem Expr.At.of_operand {e : Expr} (h : e.At .operand) : e.At .chain :=
  have hlinks : ∀ link ∈ ([] : List Link), link.operand.At .operand := fun _ hl => nomatch hl
  .chain h (fun _ hl _ => absurd hl List.not_mem_nil) hlinks

/-- Whatever the reader accepts is a tree of the grammar. -/
theorem read_at {s : Text} {e : Expr} (h : read s = .ok e) : e.At .chain := by
  unfold read at h
  split at h
  · cases h
    have hwell : Selector.everything.WellFormed :=
      ⟨fun _ h => (nomatch h), fun _ _ h => (nomatch h), Modifiers.inRange_empty⟩
    exact Expr.At.of_operand (.of_primary (.vector hwell))
  · obtain ⟨⟨e, rest⟩, hread, h⟩ := bind_eq_ok h
    dsimp only at h
    split at h
    · cases h
      exact chain_at (operand_at _) hread
    · cases h

end TenantScope.Query
