/- Blanks and comments around a query do not matter. -/
import TenantScope.Proofs.Query.Prolonging
import TenantScope.Proofs.Query.RoundTrip

namespace TenantScope.Query

/-! Operators and their modifiers -/

theorem dropWord?_length {w s r : Text} (h : Text.dropWord? w s = some r) :
    s.length = w.length + r.length := by
  induction w generalizing s with
  | nil =>
      cases h
      exact (Nat.zero_add _).symm
  | cons d w ih =>
      cases s with
      | nil => cases h
      | cons c s =>
          rw [Text.dropWord?] at h
          split at h
          · rw [List.length_cons, List.length_cons, ih h]
            omega
          · cases h

/-- An operator has at least one character. -/
theorem binaryOp?_length_lt {s r : Text} {op : BinaryOp} (h : binaryOp? s = some (op, r)) :
    r.length < s.length := by
  have hword (op : BinaryOp) : 0 < op.text.length := by cases op <;> decide
  rcases Option.or_eq_some_iff.mp h with h | ⟨-, h⟩
  · obtain ⟨d, hd, h⟩ := List.exists_of_findSome?_eq_some h
    obtain ⟨t, ht, heq⟩ := Option.map_eq_some_iff.mp h
    cases heq
    rw [Text.dropLead?_eq_some ht, List.length_append]
    exact Nat.lt_add_of_pos_left (hword _)
  · obtain ⟨d, hd, h⟩ := List.exists_of_findSome?_eq_some h
    obtain ⟨t, ht, heq⟩ := Option.map_eq_some_iff.mp h
    cases heq
    rw [dropWord?_length (Option.filter_eq_some_iff.mp ht).1]
    exact Nat.lt_add_of_pos_left (hword _)

section

variable {v s t : Text} {n : Nat} (h : Prolongs v n s t)
include h

theorem binaryOp?_prolonged :
    binaryOp? s = none ∧ binaryOp? t = none ∨
      ∃ op r r' m, m < n ∧ binaryOp? s = some (op, r) ∧ binaryOp? t = some (op, r') ∧
        Prolongs v m r r' := by
  rcases SameLexeme.of_before h (binaryOp?_before h.stopsAt s) (fun _ _ => binaryOp?_remainder)
    with hnone | ⟨op, r, r', hs, ht, hr⟩
  · exact .inl hnone
  · refine .inr ⟨op, r, r', r.length + 1, ?_, hs, ht, hr.mono (Nat.lt_succ_self _)⟩
    exact Nat.lt_of_le_of_lt (binaryOp?_length_lt hs) h.length_lt

theorem grouping?_prolonged : SameLexeme v n (grouping? s) (grouping? t) := by
  rw [grouping?_eq, grouping?_eq]
  refine .bind (m := n) (.of_before h (groupingMode?_before h.stopsAt s)
    fun _ _ => groupingMode?_remainder) fun mode r t hr => ?_
  exact .bind (labelList?_prolonged hr.skip) fun ls r t hr => .some hr _

theorem groupingBefore_prolonged : Alike v n (groupingBefore s) (groupingBefore t) := by
  rw [groupingBefore, groupingBefore]
  rcases grouping?_prolonged h.skip with ⟨hs, ht⟩ | ⟨g, r, r', hs, ht, hr⟩
  · rw [hs, ht]
    exact ⟨none, _, _, rfl, rfl, h.skip⟩
  · rw [hs, ht]
    exact ⟨some g, _, _, rfl, rfl, hr.skip⟩

theorem groupingBehind_prolonged (before : Option Grouping) :
    Alike v n (groupingBehind before s) (groupingBehind before t) := by
  cases before with
  | some g => exact ⟨some g, s, t, rfl, rfl, h⟩
  | none =>
      unfold groupingBehind
      rcases grouping?_prolonged h.skip with ⟨hs, ht⟩ | ⟨g, r, r', hs, ht, hr⟩
      · rw [hs, ht]
        exact ⟨none, _, _, rfl, rfl, h.skip⟩
      · rw [hs, ht]
        exact ⟨some g, _, _, rfl, rfl, hr⟩

theorem groupModifier?_prolonged : SameLexeme v n (groupModifier? s) (groupModifier? t) := by
  rw [groupModifier?, groupModifier?]
  refine .bind (m := n) (.of_before h (keywordOf?_before h.stopsAt (by decide) s)
    fun _ _ => keywordOf?_remainder (by decide)) fun side r t hr => ?_
  dsimp only
  rcases labelList?_prolonged hr.skip with ⟨hs, ht⟩ | ⟨ls, q, q', hs, ht, hq⟩
  · rw [hs, ht]
    exact .some hr.skip _
  · rw [hs, ht]
    exact .some hq _

theorem vectorMatching?_prolonged : SameLexeme v n (vectorMatching? s) (vectorMatching? t) := by
  rw [vectorMatching?, vectorMatching?]
  refine .bind (m := n) (.of_before h (keywordOf?_before h.stopsAt (by decide) s)
    fun _ _ => keywordOf?_remainder (by decide)) fun mode r t hr => ?_
  refine .bind (labelList?_prolonged hr.skip) fun ls r t hr => ?_
  dsimp only
  rcases groupModifier?_prolonged hr.skip with ⟨hs, ht⟩ | ⟨group, q, q', hs, ht, hq⟩
  · rw [hs, ht]
    exact .some hr.skip _
  · rw [hs, ht]
    exact .some hq _

theorem binaryModifier_prolonged : Alike v n (binaryModifier s) (binaryModifier t) := by
  rw [binaryModifier, binaryModifier]
  have hbool := h.skip.drop_cases (dropKeyword?_before h.stopsAt (w := "bool".toList) (by decide) _)
    fun _ => dropKeyword?_remainder (by decide)
  rcases hbool with ⟨hs, ht⟩ | ⟨r, r', hs, ht, hr⟩
  · rw [hs, ht]
    dsimp only
    rcases vectorMatching?_prolonged h.skip with ⟨hs, ht⟩ | ⟨m, q, q', hs, ht, hq⟩
    · rw [hs, ht]
      exact ⟨_, _, _, rfl, rfl, h.skip⟩
    · rw [hs, ht]
      exact ⟨_, _, _, rfl, rfl, hq⟩
  · rw [hs, ht]
    dsimp only
    rcases vectorMatching?_prolonged hr.skip with ⟨hs, ht⟩ | ⟨m, q, q', hs, ht, hq⟩
    · rw [hs, ht]
      exact ⟨_, _, _, rfl, rfl, hr.skip⟩
    · rw [hs, ht]
      exact ⟨_, _, _, rfl, rfl, hq⟩

end

/-! Operands -/

section

variable {v : Text} {k : Nat} {operand operand' : Reader Expr}
  (hoperand : ∀ {n s t}, n ≤ k → Prolongs v n s t → SameReading v n (operand s) (operand' t))
include hoperand

theorem chainLinks_prolonged {fuel fuel' n : Nat} {s t : Text} (h : Prolongs v n s t) (hn : n ≤ k)
    (hnf : n ≤ fuel + 1) (hfuel : fuel ≤ fuel') :
    SameReading v n (chainLinks operand fuel s) (chainLinks operand' fuel' t) := by
  have hends {operand : Reader Expr} {fuel : Nat} {s : Text} (hs : binaryOp? (skip s) = none) :
      chainLinks operand fuel s = .ok ([], s) := by
    cases fuel with
    | zero => rfl
    | succ fuel => rw [chainLinks, hs]
  induction fuel generalizing fuel' n s t with
  | zero =>
      rcases binaryOp?_prolonged h.skip with ⟨hs, ht⟩ | ⟨op, r, r', m, hm, -, -, hr⟩
      · rw [hends hs, hends ht]
        exact .ok h []
      · have hlength := hr.length_lt
        omega
  | succ fuel ih =>
      rcases binaryOp?_prolonged h.skip with ⟨hs, ht⟩ | ⟨op, r, r', m, hm, hs, ht, hr⟩
      · rw [hends hs, hends ht]
        exact .ok h []
      obtain ⟨fuel', rfl⟩ := Nat.exists_eq_add_one_of_ne_zero (Nat.ne_zero_of_lt hfuel)
      obtain ⟨modifier, q, q', heq, heq', hq⟩ := binaryModifier_prolonged hr
      rw [chainLinks, chainLinks, hs, ht]
      simp only [heq, heq']
      refine SameReading.le (m := m) ?_ (Nat.le_of_lt hm)
      refine .bind (hoperand (by omega) hq.skip) fun e r t hr => ?_
      have hrest := ih hr (by omega) (by omega) (Nat.le_of_succ_le_succ hfuel)
      exact .bind hrest fun links r t hr => .ok hr _

theorem chain_prolonged {fuel fuel' n : Nat} {s t : Text} (h : Prolongs v n s t) (hn : n ≤ k)
    (hnf : n ≤ fuel + 1) (hfuel : fuel ≤ fuel') :
    SameReading v n (chain fuel operand s) (chain fuel' operand' t) := by
  rw [chain, chain]
  refine .bind (hoperand hn h.skip) fun first r t hr => ?_
  exact .bind (chainLinks_prolonged hoperand hr hn hnf hfuel) fun links r t hr => .ok hr _

end

section

variable {v : Text} {k : Nat} {expr expr' : Reader Expr}
  (hexpr : ∀ {n s t}, n ≤ k → Prolongs v n s t → SameReading v n (expr s) (expr' t))
include hexpr

theorem parenthesized_prolonged {n : Nat} {s t : Text} (h : Prolongs v n s t) (hn : n ≤ k + 1) :
    SameReading v n (parenthesized expr s) (parenthesized expr' t) := by
  rw [parenthesized, parenthesized]
  refine .expect_bind_lt (by decide) h fun m hm r hr => ?_
  refine SameReading.le (m := m) ?_ (Nat.le_of_lt hm)
  refine .bind (hexpr (by omega) hr) fun e q q' hq => ?_
  exact .expect_bind (by decide) hq.skip fun q hq => .ok hq _

theorem callTail_prolonged {fuel fuel' n : Nat} {s t : Text} (h : Prolongs v n s t)
    (hn : n ≤ k + 1) (hnf : n ≤ fuel + 1) (hfuel : fuel ≤ fuel') (function : Text) :
    SameReading v n (callTail fuel expr function s) (callTail fuel' expr' function t) := by
  rw [callTail, callTail]
  refine .expect_bind_lt (by decide) h fun m hm r hr => ?_
  refine SameReading.le (m := m) ?_ (Nat.le_of_lt hm)
  have hargument {n : Nat} {s t : Text} (hn : n ≤ k) (h : Prolongs v n s t) :
      SameLexeme v n (expr s).toOption (expr' t).toOption := sameReading_iff.mp (hexpr hn h)
  obtain ⟨args, q, q', heq, heq', hq⟩ :=
    sepList_prolonged hargument hr.skip (by omega) (by omega) hfuel
  simp only [heq, heq']
  exact .expect_bind (by decide) (dropComma_prolonged hq).skip fun q hq => .ok hq _

theorem aggregationParam_prolonged {n : Nat} {s t : Text} (h : Prolongs v n s t) (hn : n ≤ k)
    (op : AggregateOp) :
    SameReading v n (aggregationParam expr op s) (aggregationParam expr' op t) := by
  rw [aggregationParam, aggregationParam]
  split
  · refine .bind (hexpr hn h) fun param r t hr => ?_
    exact .expect_bind (by decide) hr.skip fun q hq => .ok hq _
  · exact .ok h none

theorem aggregationTail_prolonged {n : Nat} {s t : Text} (h : Prolongs v n s t) (hn : n ≤ k + 1)
    (op : AggregateOp) :
    SameReading v n (aggregationTail expr op s) (aggregationTail expr' op t) := by
  obtain ⟨before, r, r', heq, heq', hr⟩ := groupingBefore_prolonged h
  rw [aggregationTail_eq, aggregationTail_eq, heq, heq']
  refine .expect_bind_lt (by decide) hr fun m hm q hq => ?_
  refine SameReading.le (m := m) ?_ (Nat.le_of_lt hm)
  refine .bind (aggregationParam_prolonged hexpr hq (by omega) op) fun param r t hr => ?_
  refine .bind (hexpr (by omega) hr) fun body r t hr => ?_
  refine .expect_bind (by decide) hr.skip fun q hq => ?_
  obtain ⟨grouping, p, p', heq, heq', hp⟩ := groupingBehind_prolonged hq before
  rw [heq, heq']
  exact .ok hp _

theorem namedOperand_prolonged {fuel fuel' n : Nat} {s t : Text} (h : Prolongs v n s t)
    (hn : n ≤ k + 1) (hnf : n ≤ fuel + 1) (hfuel : fuel ≤ fuel') :
    SameReading v n (namedOperand fuel expr s) (namedOperand fuel' expr' t) := by
  have hname : SameLexeme v n (metricName? s) (metricName? t) :=
    .of_before h (metricName?_before h.stopsAt s) fun _ _ => metricName?_remainder
  have hplain (hs : aggregate? s = none) (ht : aggregate? t = none) :
      SameReading v n (namedOperand fuel expr s) (namedOperand fuel' expr' t) := by
    rcases hname with ⟨hs', ht'⟩ | ⟨name, r, r', hs', ht', hr⟩
    · rw [namedOperand_of_noName hs hs', namedOperand_of_noName ht ht']
      exact .inl ⟨_, _, rfl, rfl⟩
    rw [namedOperand_of_name hs hs', namedOperand_of_name ht ht']
    rcases hr.skip.head_cases (c := '(') (by decide) (by decide) with
      ⟨q, m, hm, hs, ht, hq⟩ | ⟨hs, ht⟩
    · rw [if_pos (by rw [hs]; rfl), if_pos (by rw [ht]; rfl)]
      exact callTail_prolonged hexpr hr.skip hn hnf hfuel name
    · rw [if_neg hs, if_neg ht]
      exact namedSelector_prolonged hr.skip name
  rcases labelName?_prolonged h with ⟨hs, ht⟩ | ⟨word, r, r', hs, ht, hr⟩
  · exact hplain (by rw [aggregate?, hs]; rfl) (by rw [aggregate?, ht]; rfl)
  cases hop : AggregateOp.ofText? word with
  | none => exact hplain (by rw [aggregate?, hs]; exact hop) (by rw [aggregate?, ht]; exact hop)
  | some op =>
      rw [namedOperand_of_aggregate hs hop, namedOperand_of_aggregate ht hop]
      exact aggregationTail_prolonged hexpr hr hn op

theorem primary_prolonged {fuel fuel' n : Nat} {s t : Text} (h : Prolongs v n s t)
    (hn : n ≤ k + 1) (hnf : n ≤ fuel + 1) (hfuel : fuel ≤ fuel') :
    SameReading v n (primary fuel expr s) (primary fuel' expr' t) := by
  have hplain {fuel : Nat} {expr : Reader Expr} {s : Text} (hparen : s.head? ≠ some '(')
      (hbrace : s.head? ≠ some '{') : primary fuel expr s =
        (number? s).elim ((stringLiteral? s).elim (namedOperand fuel expr s)
          fun r => .ok (.string r.1, r.2)) fun r => .ok (.number r.1, r.2) := by
    unfold primary
    split
    · exact absurd rfl hparen
    · exact absurd rfl hbrace
    · cases number? s with
      | some r => rfl
      | none => cases stringLiteral? s <;> rfl
  rcases h.head_cases (c := '(') (by decide) (by decide) with
    ⟨r, m, hm, rfl, rfl, hr⟩ | ⟨hs, ht⟩
  · exact (parenthesized_prolonged hexpr h hn).mapError _ _
  rcases h.head_cases (c := '{') (by decide) (by decide) with
    ⟨r, m, hm, rfl, rfl, hr⟩ | ⟨hs', ht'⟩
  · exact (matcherSelector_prolonged h).mapError _ _
  rw [hplain hs hs', hplain ht ht']
  rcases number?_prolonged h with ⟨hs, ht⟩ | ⟨x, r, r', hs, ht, hr⟩
  · rcases stringLiteral?_prolonged h with ⟨hs', ht'⟩ | ⟨text, r, r', hs', ht', hr⟩
    · rw [hs, ht, hs', ht']
      exact namedOperand_prolonged hexpr h hn hnf hfuel
    · rw [hs, ht, hs', ht']
      exact .ok hr _
  · rw [hs, ht]
    exact .ok hr _

end

section

variable {v : Text}

/-- What is left of both texts is shorter, for its bracket. -/
theorem subqueryRange_prolonged {n : Nat} {s t : Text} (h : Prolongs v n s t) :
    SameReading v (n - 1) (subqueryRange s) (subqueryRange t) := by
  rw [subqueryRange, subqueryRange]
  refine .expect_bind_lt (by decide) h fun m hm r hr => ?_
  refine .bind (duration_prolonged (hr.le (Nat.le_pred_of_lt hm))) fun range q q' hq => ?_
  refine .expect_bind (by decide) hq fun q hq => ?_
  rcases duration_prolonged hq with ⟨f, g, hs, ht⟩ | ⟨step, p, p', hs, ht, hp⟩
  · rw [hs, ht]
    exact .expect_bind (by decide) hq fun q hq => .ok hq _
  · rw [hs, ht]
    exact .expect_bind (by decide) hp fun q hq => .ok hq _

theorem subqueries_prolonged {fuel fuel' n : Nat} {s t : Text} (h : Prolongs v n s t)
    (hnf : n ≤ fuel + 1) (hfuel : fuel ≤ fuel') (e : Expr) :
    SameReading v n (subqueries fuel e s) (subqueries fuel' e t) := by
  have hends {fuel : Nat} {e : Expr} {s : Text} (hs : atSubquery (skip s) = false) :
      subqueries fuel e s = .ok (e, s) := by
    cases fuel with
    | zero => rfl
    | succ fuel => rw [subqueries, hs]; rfl
  induction fuel generalizing fuel' n s t e with
  | zero =>
      have hlength := h.skip.length_lt
      have hempty : skip s = [] := List.eq_nil_of_length_eq_zero (by omega)
      have hat : atSubquery (skip s) = false := by rw [hempty]; rfl
      rw [hends hat, hends ((atSubquery_prolonged h.skip).symm.trans hat)]
      exact .ok h e
  | succ fuel ih =>
      obtain ⟨fuel', rfl⟩ := Nat.exists_eq_add_one_of_ne_zero (Nat.ne_zero_of_lt hfuel)
      rw [subqueries, subqueries, ← atSubquery_prolonged h.skip]
      split
      · refine SameReading.le (m := n - 1) ?_ (Nat.sub_le n 1)
        refine .bind (subqueryRange_prolonged h.skip) fun window r t hr => ?_
        refine .bind (modifiers_prolonged hr) fun m r t hr => ?_
        exact ih hr (by omega) (Nat.le_of_succ_le_succ hfuel) _
      · exact .ok h e

theorem operandStep_prolonged {fuel fuel' n : Nat} {operand operand' : Reader Expr}
    (hoperand : ∀ {n s t}, n ≤ fuel → Prolongs v n s t → SameReading v n (operand s) (operand' t))
    (hfuel : fuel ≤ fuel') {s t : Text} (h : Prolongs v n s t) (hn : n ≤ fuel + 1) :
    SameReading v n (operandStep fuel operand s) (operandStep fuel' operand' t) := by
  have hsigned {m : Nat} {r : Text} (hm : m < n) (hr : Prolongs v m r (r ++ v)) (sign : Sign)
      (s t : Text) :
      SameReading v n (signed operand sign s r) (signed operand' sign t (r ++ v)) := by
    rw [signed, signed]
    rcases hoperand (by omega) hr.skip with ⟨f, g, hs, ht⟩ | ⟨e, q, q', hs, ht, hq⟩
    · rw [hs, ht]
      exact .inl ⟨_, _, rfl, rfl⟩
    · rw [hs, ht]
      exact .ok (hq.le (Nat.le_of_lt hm)) _
  have hplain {fuel : Nat} {operand : Reader Expr} {s : Text} (hminus : s.head? ≠ some '-')
      (hplus : s.head? ≠ some '+') : operandStep fuel operand s =
        primary fuel (chain fuel operand) s >>= fun r => subqueries fuel r.1 r.2 := by
    unfold operandStep
    split
    · exact absurd rfl hminus
    · exact absurd rfl hplus
    · rfl
  rcases h.head_cases (c := '-') (by decide) (by decide) with
    ⟨r, m, hm, rfl, rfl, hr⟩ | ⟨hs, ht⟩
  · exact hsigned hm hr .minus _ _
  rcases h.head_cases (c := '+') (by decide) (by decide) with
    ⟨r, m, hm, rfl, rfl, hr⟩ | ⟨hs', ht'⟩
  · exact hsigned hm hr .plus _ _
  rw [hplain hs hs', hplain ht ht']
  have hchain {n : Nat} {s t : Text} (hn : n ≤ fuel) (h : Prolongs v n s t) :
      SameReading v n (chain fuel operand s) (chain fuel' operand' t) :=
    chain_prolonged hoperand h hn (Nat.le_succ_of_le hn) hfuel
  refine .bind (primary_prolonged hchain h hn hn hfuel) fun e r t hr => ?_
  exact subqueries_prolonged hr hn hfuel e

/-- Two readers of operands read alike where the fuel of the first exceeds the length of its text
and that of the second is no less. -/
theorem operand_prolonged {fuel fuel' n : Nat} {s t : Text} (hfuel : fuel ≤ fuel') (hn : n ≤ fuel)
    (h : Prolongs v n s t) : SameReading v n (operand fuel s) (operand fuel' t) := by
  -- every operand inside stands behind a character, so its bound drops with the fuel
  induction fuel generalizing fuel' n s t with
  | zero =>
      have hlength := h.length_lt
      omega
  | succ fuel ih =>
      obtain ⟨fuel', rfl⟩ := Nat.exists_eq_add_one_of_ne_zero (Nat.ne_zero_of_lt hfuel)
      have hle := Nat.le_of_succ_le_succ hfuel
      exact operandStep_prolonged (fun hn h => ih hle hn h) hle h hn

end

/-! Whole queries -/

theorem skip_skipBlanks (s : Text) : skip (skipBlanks s) = skip s := by
  induction s with
  | nil => rfl
  | cons c s ih =>
      by_cases hc : isBlank c = true
      · have hskip : skip (c :: s) = skip s := if_pos hc
        have hblanks : skipBlanks (c :: s) = skipBlanks s := List.dropWhile_cons_of_pos hc
        rw [hskip, hblanks, ih]
      · have hblanks : skipBlanks (c :: s) = c :: s := List.dropWhile_cons_of_neg hc
        rw [hblanks]

/-- Braces with blanks and comments between them and behind them select everything. -/
theorem matcherSelector_of_braces {s r : Text} (hs : skip s = '}' :: r) (hr : skip r = []) :
    matcherSelector ('{' :: s) = .ok (.vector .everything, []) := by
  have hlist : matcherList ('{' :: s) = .ok ([], r) := by
    have hopen : expect '{' ('{' :: s) = .ok s := rfl
    have hinside : matchersInside ('}' :: r) = ([], '}' :: r) := rfl
    rw [matcherList, hopen]
    change (expect '}' (skip (matchersInside (skip s)).2) >>= fun rest =>
      .ok ((matchersInside (skip s)).1, rest)) = Except.ok ([], r)
    rw [hs, hinside]
    rfl
  rw [matcherSelector, hlist]
  change selectorTail none [] r = _
  simp only [selectorTail, hr]
  rfl

/-- A pair of empty braces is read the same way as all other selectors. -/
theorem expr_of_isEmptyBraces {s : Text} (h : isEmptyBraces s = true) :
    expr s = .ok (.vector .everything, []) := by
  unfold isEmptyBraces at h
  split at h
  swap
  · cases h
  next s₁ hopen =>
  split at h
  swap
  · cases h
  next s₂ hclose =>
  have hopen' : skip s = '{' :: s₁ := by rw [← skip_skipBlanks, hopen]; rfl
  have hclose' : skip s₁ = '}' :: s₂ := by rw [← skip_skipBlanks, hclose]; rfl
  have hend : skip s₂ = [] := by rw [← skip_skipBlanks, List.isEmpty_iff.mp h]; rfl
  have hprimary (fuel : Nat) (expr : Reader Expr) :
      primary fuel expr ('{' :: s₁) = .ok (.vector .everything, []) := by
    rw [primary, matcherSelector_of_braces hclose' hend]
    rfl
  have hoperand (fuel : Nat) :
      operand (fuel + 1) ('{' :: s₁) = .ok (.vector .everything, []) := by
    change (primary fuel _ ('{' :: s₁) >>= fun r => subqueries fuel r.1 r.2) = _
    rw [hprimary]
    cases fuel <;> rfl
  rw [expr, chain, hopen', hoperand]
  rfl

/-- A text is a query if an expression stands in front of blanks and comments. -/
theorem read_eq_ok_iff {s : Text} {e : Expr} :
    read s = .ok e ↔ ∃ r, expr s = .ok (e, r) ∧ skip r = [] := by
  cases hbraces : isEmptyBraces s with
  | true =>
      have hread : read s = .ok (.vector .everything) := if_pos hbraces
      rw [hread, expr_of_isEmptyBraces hbraces]
      constructor
      · rintro ⟨⟩
        exact ⟨[], rfl, rfl⟩
      · rintro ⟨r, ⟨⟩, -⟩
        rfl
  | false =>
      rw [read_of_not_isEmptyBraces hbraces]
      cases expr s with
      | error f =>
          refine iff_of_false (fun h => by cases h) ?_
          rintro ⟨r, h, -⟩
          cases h
      | ok p =>
          obtain ⟨d, r⟩ := p
          simp only [Except.bind]
          constructor
          · intro h
            split at h
            · next hend =>
              cases h
              exact ⟨r, rfl, hend⟩
            · cases h
          · rintro ⟨r, ⟨⟩, hend⟩
            rw [if_pos hend]

/-- A query leaves no literal open, nor a comment broken. -/
theorem isFinal_of_read {s : Text} {e : Expr} (h : read s = .ok e) :
    (Mode.outside.after s).isFinal = true := by
  obtain ⟨r, hexpr, hskip⟩ := read_eq_ok_iff.mp h
  have hr := (expr_remainder hexpr).trans (skip_remainder r)
  rw [hskip] at hr
  rcases hr.mode with hm | ⟨-, hm⟩ <;> rw [hm] <;> rfl

/-- An expression is read alike with blanks and comments in front of it and behind it. -/
theorem expr_surrounded {u v s t : Text} (hu : Spacing u) (h : Prolongs v (s.length + 1) s t) :
    SameReading v (s.length + 1) (expr s) (expr (u ++ t)) := by
  have hlength : s.length + 1 ≤ (u ++ t).length + 1 := by
    have hle := h.length_le
    rw [List.length_append]
    omega
  have hfront : expr (u ++ t) = chain ((u ++ t).length + 1) (operand ((u ++ t).length + 1)) t := by
    rw [expr, chain, hu.skip_append, chain]
  rw [hfront]
  exact chain_prolonged (fun hn h => operand_prolonged hlength hn h) h (Nat.le_refl _)
    (Nat.le_succ _) hlength

/-- A query stays what it is with blanks and comments around it; only a comment at its end that
meets a bare carriage return makes it no query. -/
theorem read_surrounded {u q v : Text} {e : Expr} (hu : Spacing u) (hv : Trailing v)
    (hq : read q = .ok e) :
    (read (u ++ q ++ v)).toOption =
      if endsInComment q && breaksBare v then none else some e := by
  cases hbroken : endsInComment q && breaksBare v with
  | true =>
      -- the comment is broken from the carriage return on, which no query survives
      obtain ⟨hcomment, hbare⟩ := (Bool.and_eq_true _ _).mp hbroken
      cases hread : read (u ++ q ++ v) with
      | error f => rfl
      | ok d =>
          have hfinal := isFinal_of_read hread
          rw [Mode.after_append, Mode.after_append, hu.after_outside, of_decide_eq_true hcomment,
            Mode.after_of_breaksBare hbare] at hfinal
          cases hfinal
  | false =>
      have hwhole : Mode.outside.after q = .comment → breaksBare v = false := by
        intro hcomment
        rwa [endsInComment, decide_eq_true hcomment, Bool.true_and] at hbroken
      obtain ⟨r, hexpr, hend⟩ := read_eq_ok_iff.mp hq
      have hprolongs : Prolongs v (q.length + 1) q (q ++ v) :=
        ⟨hv, Nat.lt_succ_self _, isFinal_of_read hq, hwhole, .inl rfl⟩
      rcases expr_surrounded hu hprolongs with ⟨f, g, herror, -⟩ | ⟨d, r₁, r', hread, hread', hr⟩
      · cases hexpr.symm.trans herror
      · cases hexpr.symm.trans hread
        have hrest := hr.skip
        rw [hend] at hrest
        -- what is left is nothing, or the blanks and comments behind the query
        have hend' : skip r' = [] := by
          rcases hrest.eq with hv' | ⟨-, hnil⟩
          · rw [← skip_skip, hv']
            exact hv.skip_eq_nil
          · exact hnil
        have hok := read_eq_ok_iff.mpr ⟨r', hread', hend'⟩
        rw [List.append_assoc, hok]
        rfl

theorem read_surrounded_braces :
    Spacing "# all\n".toList ∧ Trailing " # end".toList ∧
      read ['{', '}'] = .ok (.vector .everything) ∧
      (read ("# all\n".toList ++ ['{', '}'] ++ " # end".toList)).toOption =
        some (.vector .everything) := by
  have hu : Spacing "# all\n".toList :=
    @Spacing.comment " all".toList ['\n'] [] (by decide) (by decide) .nil
  have hv : Trailing " # end".toList :=
    .unended (v := [' ']) (w := " end".toList) (.blank rfl .nil) (by decide)
  exact ⟨hu, hv, rfl, read_surrounded hu hv rfl⟩

/-- A comment runs to the end of its line, and a carriage return alone ends none. -/
theorem not_read_surrounded_return :
    ¬∀ {u q v : Text} {e : Expr}, Spacing u → Trailing v → read q = .ok e →
      read (u ++ q ++ v) = .ok e := by
  intro h
  have hread : read "up # c".toList = .ok (.vector ⟨some "up".toList, [], .empty⟩) := rfl
  have hreturn : read "up # c\r".toList = .error ⟨"# c\r".toList, .ending⟩ := rfl
  have hclaim := h .nil (.ended (.blank (c := '\r') rfl .nil)) hread
  cases hreturn.symm.trans hclaim

end TenantScope.Query
