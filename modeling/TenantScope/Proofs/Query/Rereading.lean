/- Node by node, the reader takes printed parts for what they are. -/
import TenantScope.Proofs.Query.Modifiers

namespace TenantScope.Query

/-- The leaves as they are read from their texts. -/
def rereading : Leaves := ⟨Binary64.reread, Selector.reread, Modifiers.reread⟩

/-- A reader that reads a printed tree at a place, and nothing of what follows it but blanks. -/
def ReadsBack (reader : Reader Expr) (p : Place) (e : Expr) : Prop :=
  ∀ s, Follows p s →
    ∃ r, reader (e.print ++ s) = .ok (e.replace rereading, r) ∧ skip r = skip s

/-! Chains -/

theorem Link.text_append (link : Link) (s : Text) :
    link.text ++ s =
      ' ' :: (link.op.text ++
        (modifierText link.modifier ++ ' ' :: (link.operand.print ++ s))) := by
  simp only [Link.text, List.append_assoc, List.cons_append]

theorem follows_links {s : Text} (hs : Follows .chain s) (links : List Link) :
    Follows .operand (links.flatMap Link.text ++ s) := by
  cases links with
  | nil => exact hs.operand
  | cons link links =>
      obtain ⟨u, hu⟩ := modifierText_append_cons link.modifier
        (link.operand.print ++ (links.flatMap Link.text ++ s))
      rw [List.flatMap_cons, List.append_assoc, Link.text_append, hu]
      exact .operator (by decide) link.op u

theorem binaryOp?_append (op : BinaryOp) (s : Text) :
    skip (' ' :: (op.text ++ ' ' :: s)) = op.text ++ ' ' :: s ∧
      binaryOp? (op.text ++ ' ' :: s) = some (op, ' ' :: s) := by
  cases op <;> exact ⟨rfl, rfl⟩

section

variable {operand : Reader Expr} {links : List Link}
  (hlinks : ∀ link ∈ links, ReadsBack operand .operand link.operand)
  (hat : ∀ link ∈ links, link.operand.At .operand)
  (hworded : ∀ link ∈ links, link.operand.Everywhere Expr.Worded)
  (hmodifiers : ∀ link ∈ links, ∀ m ∈ link.modifier, m.WellFormed)
  (hclash : ∀ link ∈ links, clashes link.modifier link.operand.leading = false)
include hlinks hat hworded hmodifiers hclash

/-- The links of a printed chain are read one by one, each behind the rest of what came before. -/
theorem chainLinks_print {fuel : Nat} (hfuel : links.length ≤ fuel) {s t : Text}
    (hs : Follows .chain s) (ht : skip t = skip (links.flatMap Link.text ++ s)) :
    ∃ r, chainLinks operand fuel t = .ok (links.map (Link.replace rereading), r) ∧
      skip r = skip s := by
  induction links generalizing fuel t with
  | nil =>
      refine ⟨t, ?_, ht⟩
      have hend : binaryOp? (skip t) = none := by
        rw [ht]
        exact hs.binaryOp?_skip
      cases fuel with
      | zero => rfl
      | succ fuel => rw [chainLinks, hend]; rfl
  | cons link links ih =>
      cases fuel with
      | zero => exact absurd hfuel (by simp)
      | succ fuel =>
          obtain ⟨u, hu⟩ := modifierText_append_cons link.modifier
            (link.operand.print ++ (links.flatMap Link.text ++ s))
          obtain ⟨hskip, hop⟩ := binaryOp?_append link.op u
          rw [List.flatMap_cons, List.append_assoc, Link.text_append, hu, hskip] at ht
          obtain ⟨r, hr, hr'⟩ := binaryModifier_print (hat link List.mem_cons_self)
            (hworded link List.mem_cons_self) (hmodifiers link List.mem_cons_self)
            (hclash link List.mem_cons_self) (links.flatMap Link.text ++ s)
          rw [hu] at hr
          obtain ⟨r', hread, hr''⟩ := hlinks link List.mem_cons_self
            (links.flatMap Link.text ++ s) (follows_links hs links)
          obtain ⟨r'', hrest, hend⟩ := ih (fun l hl => hlinks l (List.mem_cons_of_mem link hl))
            (fun l hl => hat l (List.mem_cons_of_mem link hl))
            (fun l hl => hworded l (List.mem_cons_of_mem link hl))
            (fun l hl => hmodifiers l (List.mem_cons_of_mem link hl))
            (fun l hl => hclash l (List.mem_cons_of_mem link hl))
            (Nat.le_of_succ_le_succ hfuel) hr''
          refine ⟨r'', ?_, hend⟩
          rw [chainLinks, ht, hop]
          simp only [hr, hr', hread, hrest, bind, Except.bind, pure, Except.pure]
          rfl

theorem readsBack_chain {first : Expr} (hfirst : ReadsBack operand .operand first)
    (hfirstAt : first.At .operand) (hfirstWorded : first.Everywhere Expr.Worded) {fuel : Nat}
    (hfuel : links.length ≤ fuel) :
    ReadsBack (chain fuel operand) .chain (.ofChain first links) := by
  intro s hs
  obtain ⟨r, hr, hskip⟩ := hfirst (links.flatMap Link.text ++ s) (follows_links hs links)
  obtain ⟨r', hr', hend⟩ := chainLinks_print hlinks hat hworded hmodifiers hclash hfuel hs hskip
  refine ⟨r', ?_, hend⟩
  rw [Expr.print_ofChain, Expr.replace_ofChain, List.append_assoc, chain,
    skip_print hfirstAt hfirstWorded]
  simp only [hr, hr', bind, Except.bind, pure, Except.pure]

end

/-! Signs and subquery ranges -/

theorem readsBack_unary {operand : Reader Expr} {e : Expr} (he : ReadsBack operand .operand e)
    (hat : e.At .operand) (hworded : e.Everywhere Expr.Worded) (sign : Sign) (fuel : Nat) :
    ReadsBack (operandStep fuel operand) .operand (.unary sign e) := by
  intro s hs
  obtain ⟨r, hr, hskip⟩ := he s hs
  refine ⟨r, ?_, hskip⟩
  have hsigned : signed operand sign (sign.char :: (e.print ++ s)) (e.print ++ s) =
      .ok (.unary sign (e.replace rereading), r) := by
    rw [signed, skip_print hat hworded, hr]
  cases sign <;> exact hsigned

theorem Window.text_append (w : Window) (s : Text) :
    w.text ++ s = '[' :: (durationText w.range ++ ':' :: ((w.step.map durationText).getD [] ++
      ']' :: (w.modifiers.print ++ s))) := by
  simp only [Window.text, List.append_assoc, List.cons_append]

theorem follows_windows {windows : List Window} (hwindows : ∀ w ∈ windows, w.InRange) {s : Text}
    (hs : Follows .operand s) : Follows .primary (windows.flatMap Window.text ++ s) := by
  cases windows with
  | nil => exact hs.primary
  | cons w windows =>
      rw [List.flatMap_cons, List.append_assoc, Window.text_append]
      exact .range (hwindows w List.mem_cons_self).range _

theorem subqueryRange_append {w : Window} (hw : w.InRange) (s : Text) :
    subqueryRange (w.text ++ s) = .ok ((w.range, w.step), w.modifiers.print ++ s) := by
  have hrange := duration_durationText_append hw.range
    (s := ':' :: ((w.step.map durationText).getD [] ++ ']' :: (w.modifiers.print ++ s)))
    (.cons (by decide))
  rw [Window.text_append]
  cases hstep : w.step with
  | none =>
      have hnone : duration (']' :: (w.modifiers.print ++ s)) =
          .error ⟨']' :: (w.modifiers.print ++ s), .digit⟩ := rfl
      rw [hstep] at hrange
      simp only [Option.map_none, Option.getD_none, List.nil_append] at hrange ⊢
      simp only [subqueryRange, expect, if_true, hrange, hnone, bind, Except.bind, pure,
        Except.pure]
  | some step =>
      have hread := duration_durationText_append (hw.step step hstep)
        (s := ']' :: (w.modifiers.print ++ s)) (.cons (by decide))
      rw [hstep] at hrange
      simp only [Option.map_some, Option.getD_some] at hrange ⊢
      simp only [subqueryRange, expect, if_true, hrange, hread, bind, Except.bind, pure,
        Except.pure]

/-- The subquery ranges of a printed operand are read one by one. -/
theorem subqueries_print {windows : List Window} (hwindows : ∀ w ∈ windows, w.InRange)
    {fuel : Nat} (hfuel : windows.length ≤ fuel) {s t : Text} (hs : Follows .operand s)
    (ht : skip t = skip (windows.flatMap Window.text ++ s)) (e : Expr) :
    ∃ r, subqueries fuel e t = .ok (.ofWindows e (windows.map (Window.replace rereading)), r) ∧
      skip r = skip s := by
  induction windows generalizing fuel t e with
  | nil =>
      refine ⟨t, ?_, ht⟩
      have hend : atSubquery (skip t) = false := by
        rw [ht]
        exact hs.atSubquery_skip
      cases fuel with
      | zero => rfl
      | succ fuel => rw [subqueries, hend]; rfl
  | cons w windows ih =>
      cases fuel with
      | zero => exact absurd hfuel (by simp)
      | succ fuel =>
          have hw := hwindows w List.mem_cons_self
          have hrest := fun v hv => hwindows v (List.mem_cons_of_mem w hv)
          rw [List.flatMap_cons, List.append_assoc] at ht
          have hfront : skip t = w.text ++ (windows.flatMap Window.text ++ s) := by
            rw [ht]
            exact skip_of_isInk (by decide) _
          have hsub : atSubquery (skip t) = true := by
            rw [hfront, Window.text_append]
            exact atSubquery_append hw.range _
          have hm := modifiers_print_append hw.modifiers (follows_windows hrest hs)
          obtain ⟨r, hr, hend⟩ := ih hrest (Nat.le_of_succ_le_succ hfuel) rfl
            (e.over (w.replace rereading))
          refine ⟨r, ?_, hend⟩
          rw [subqueries, if_pos hsub, hfront, subqueryRange_append hw]
          simp only [bind, Except.bind, hm]
          exact hr

theorem operandStep_of_ne {fuel : Nat} {operand : Reader Expr} {c : Char} (hminus : c ≠ '-')
    (hplus : c ≠ '+') (s : Text) :
    operandStep fuel operand (c :: s) =
      primary fuel (chain fuel operand) (c :: s) >>= fun p => subqueries fuel p.1 p.2 := by
  rw [operandStep]
  · exact fun t h => hminus (List.cons.inj h).1
  · exact fun t h => hplus (List.cons.inj h).1

theorem readsBack_windows {fuel : Nat} {operand : Reader Expr} {base : Expr}
    {windows : List Window}
    (hbase : ReadsBack (primary fuel (chain fuel operand)) .primary base) (hat : base.At .primary)
    (hworded : base.Worded) (hwindows : ∀ w ∈ windows, w.InRange) (hfuel : windows.length ≤ fuel) :
    ReadsBack (operandStep fuel operand) .operand (.ofWindows base windows) := by
  intro s hs
  obtain ⟨r, hr, hskip⟩ := hbase (windows.flatMap Window.text ++ s) (follows_windows hwindows hs)
  obtain ⟨r', hr', hend⟩ := subqueries_print hwindows hfuel hs hskip (base.replace rereading)
  obtain ⟨c, u, hu, hc⟩ := primary_print_cons hat hworded
  refine ⟨r', ?_, hend⟩
  rw [Expr.print_ofWindows, Expr.replace_ofWindows, List.append_assoc]
  rw [hu, List.cons_append] at hr ⊢
  rw [operandStep_of_ne (by rintro rfl; cases hc.start) (by rintro rfl; cases hc.start)]
  simp only [hr, hr', bind, Except.bind]

/-! Operands without a sign -/

theorem primary_number {fuel : Nat} {expr : Reader Expr} {s r : Text} {x : Binary64}
    (h : number? s = some (x, r)) : primary fuel expr s = .ok (.number x, r) := by
  unfold primary
  split
  · cases h
  · cases h
  · rw [h]

theorem primary_string {fuel : Nat} {expr : Reader Expr} (text s : Text) :
    primary fuel expr (quote text ++ s) = .ok (.string text, s) := by
  have hnumber : number? (quote text ++ s) = none := rfl
  have hstring := stringLiteral?_quote_append text s
  rw [primary, hnumber, hstring]
  · exact fun t h => (by cases h)
  · exact fun t h => (by cases h)

/-- No operand begins with the end of a list. -/
theorem chain_close (fuel : Nat) (depth : Nat) (s : Text) :
    (chain fuel (operand depth) (')' :: s)).toOption = none := by
  cases depth <;> rfl

section

variable {fuel : Nat} {expr : Reader Expr}

theorem readsBack_paren {e : Expr} (he : ReadsBack expr .chain e) :
    ReadsBack (primary fuel expr) .primary (.paren e) := by
  intro s _
  obtain ⟨r, hr, hskip⟩ := he (')' :: s) (.close s)
  have hclose : skip r = ')' :: s := hskip
  refine ⟨s, ?_, rfl⟩
  have htext : (Expr.paren e).print ++ s = '(' :: (e.print ++ ')' :: s) := by
    simp only [Expr.print, List.cons_append, List.append_assoc, List.nil_append]
  have hread : parenthesized expr ('(' :: (e.print ++ ')' :: s)) =
      .ok (.paren (e.replace rereading), s) := by
    simp only [parenthesized, expect, if_true, hr, hclose, bind, Except.bind, pure, Except.pure]
  rw [htext, primary, hread]
  rfl

theorem readsBack_call {function : Text} {args : List Expr} (hfunction : isBareName function = true)
    (hargs : ∀ a ∈ args, ReadsBack expr .chain a) (hat : ∀ a ∈ args, a.At .chain)
    (hworded : ∀ a ∈ args, a.Everywhere Expr.Worded) (hfuel : args.length ≤ fuel + 1)
    (hclose : ∀ s, (expr (')' :: s)).toOption = none) :
    ReadsBack (primary fuel expr) .primary (.call function args) := by
  intro s _
  refine ⟨s, ?_, rfl⟩
  have hskip : skip ('(' :: (commaList (args.map Expr.print) ++ ')' :: s)) =
      '(' :: (commaList (args.map Expr.print) ++ ')' :: s) := skip_of_isInk (by decide) _
  have hread : ∃ r, sepList skipComma? (fun s => (expr s).toOption) fuel
      (commaList (args.map Expr.print) ++ ')' :: s) =
        (args.map (Expr.replace rereading), r) ∧ skip r = ')' :: s := by
    cases args with
    | nil =>
        refine ⟨')' :: s, ?_, rfl⟩
        have hnil : commaList (([] : List Expr).map Expr.print) ++ ')' :: s = ')' :: s := rfl
        rw [hnil, sepList, hclose]
        rfl
    | cons a args =>
        have hitems : ∀ b ∈ a :: args, ∀ t, FollowsItem (')' :: s) t →
            ∃ r, (expr (b.print ++ t)).toOption = some (b.replace rereading, r) ∧
              skip r = skip t := by
          intro b hb t ht
          have hfollows : Follows .chain t := by
            rcases ht with rfl | ⟨u, rfl⟩
            · exact .close s
            · exact .comma u
          obtain ⟨r, hr, hend⟩ := hargs b hb t hfollows
          exact ⟨r, by rw [hr]; rfl, hend⟩
        have hink : ∀ b ∈ a :: args, ∃ c w, b.print = c :: w ∧ isInk c = true := by
          intro b hb
          obtain ⟨c, w, hw, hc⟩ := print_cons (hat b hb) (hworded b hb)
          exact ⟨c, w, hw, isInk_of_isOperandStart hc⟩
        exact sepList_commaList (a :: args) hitems hink rfl (List.cons_ne_nil a args) hfuel
  obtain ⟨r, hr, hend⟩ := hread
  have hcomma : dropComma r = r := by
    rw [dropComma, hend]
    rfl
  rw [call_print_append, primary_of_isBareName hfunction (by decide), hskip,
    List.head?_cons, if_pos rfl, Expr.replace_call]
  simp only [callTail, expect, if_true, skip_arguments hat hworded, hr, hcomma, hend, bind,
    Except.bind, pure, Except.pure]

theorem primary_aggregation (op : AggregateOp) {c : Char} (hc : c ∈ [' ', '(']) (s : Text) :
    primary fuel expr (op.text ++ c :: s) = aggregationTail expr op (c :: s) := by
  have hends : ∀ d ∈ [' ', '('], d ∈ nameEnds := by decide
  have hstop : ∀ d ∈ [' ', '('], isLabelChar d = false := by decide
  have hself : labelName? op.text = some (op.text, []) := by cases op <;> decide
  have hspecial : special? op.text = none := by cases op <;> decide
  have hop : AggregateOp.ofText? op.text = some op := by cases op <;> decide
  have hword : labelName? (op.text ++ c :: s) = some (op.text, c :: s) :=
    word?_append hself (.cons (hstop c hc))
  have hnone : special? (op.text ++ c :: s) = none := by
    rw [special?_append (hends c hc), hspecial]
    rfl
  obtain ⟨d, w, hw, hd, -⟩ := word?_cons hself
  rw [← namedOperand_of_aggregate hword hop]
  rw [hw] at hnone ⊢
  rw [List.cons_append] at hnone ⊢
  rw [primary_of_isMetricStart (isMetricStart_of_isLabelStart hd), hnone]

/-- A grouping in front of the parentheses is read. -/
theorem grouping?_groupingText {g : Grouping} (hg : g.WellFormed) (s : Text) :
    grouping? (skip (groupingText (some g) ++ '(' :: s)) = some (g, ' ' :: '(' :: s) := by
  have htext : groupingText (some g) ++ '(' :: s = ' ' :: (g.print ++ ' ' :: '(' :: s) := by
    simp only [groupingText, List.cons_append, List.append_assoc, List.nil_append]
  have hskip : skip (g.print ++ ' ' :: '(' :: s) = g.print ++ ' ' :: '(' :: s := by
    obtain ⟨mode, labels⟩ := g
    cases mode <;> rfl
  rw [htext, skip_space, hskip, grouping?_append hg]

theorem groupingBefore_groupingText {grouping : Option Grouping}
    (hg : ∀ g ∈ grouping, g.WellFormed) (s : Text) :
    groupingBefore (groupingText grouping ++ '(' :: s) = (grouping, '(' :: s) := by
  cases grouping with
  | none => rfl
  | some g =>
      rw [groupingBefore, grouping?_groupingText (hg g rfl)]
      rfl

/-- No grouping is taken from what follows an aggregation. -/
theorem groupingBehind_of_follows (grouping : Option Grouping) {s : Text}
    (hs : Follows .primary s) :
    ∃ r, groupingBehind grouping s = (grouping, r) ∧ skip r = skip s := by
  cases grouping with
  | none =>
      refine ⟨skip s, ?_, skip_skip s⟩
      unfold groupingBehind
      rw [hs.grouping?_skip]
  | some g => exact ⟨s, rfl, rfl⟩

/-- A parameter is read up to the comma behind it where the operator has one. -/
theorem aggregationParam_print {op : AggregateOp} {param : Option Expr}
    (hparam : ∀ p ∈ param, ReadsBack expr .chain p) (hop : param.isSome = op.hasParam)
    (s : Text) :
    ∃ r, aggregationParam expr op (paramText param ++ s) =
      .ok (param.map (Expr.replace rereading), r) ∧ (r = s ∨ r = ' ' :: s) := by
  cases param with
  | none =>
      refine ⟨s, ?_, .inl rfl⟩
      have hno : op.hasParam = false := hop.symm
      simp only [aggregationParam, hno, Bool.false_eq_true, if_false, paramText, List.nil_append]
      rfl
  | some p =>
      have hyes : op.hasParam = true := hop.symm
      obtain ⟨r, hr, hskip⟩ := hparam p rfl (',' :: ' ' :: s) (.comma _)
      have hcomma : skip r = ',' :: ' ' :: s := hskip
      have htext : paramText (some p) ++ s = p.print ++ ',' :: ' ' :: s := by
        simp only [paramText, List.append_assoc]
        rfl
      refine ⟨' ' :: s, ?_, .inr rfl⟩
      rw [htext]
      simp only [aggregationParam, hyes, if_true, hr, hcomma, expect, bind, Except.bind, pure,
        Except.pure, Option.map_some]

theorem readsBack_aggregation {op : AggregateOp} {grouping : Option Grouping}
    {param : Option Expr} {body : Expr} (hg : ∀ g ∈ grouping, g.WellFormed)
    (hop : param.isSome = op.hasParam) (hparam : ∀ p ∈ param, ReadsBack expr .chain p)
    (hbody : ReadsBack expr .chain body) (hblank : ∀ s, expr (' ' :: s) = expr s) :
    ReadsBack (primary fuel expr) .primary (.aggregation op grouping param body) := by
  intro s hs
  obtain ⟨c, u, hu, hc⟩ := groupingText_append_cons grouping
    (paramText param ++ (body.print ++ ')' :: s))
  obtain ⟨r, hr, hblanks⟩ := aggregationParam_print hparam hop (body.print ++ ')' :: s)
  obtain ⟨r', hr', hskip⟩ := hbody (')' :: s) (.close s)
  have hclose : skip r' = ')' :: s := hskip
  have hexpr : expr r = .ok (body.replace rereading, r') := by
    rcases hblanks with rfl | rfl
    · exact hr'
    · rw [hblank, hr']
  obtain ⟨r'', hbehind, hrest⟩ := groupingBehind_of_follows grouping hs
  refine ⟨r'', ?_, hrest⟩
  rw [aggregation_print_append, hu, primary_aggregation op hc, ← hu, Expr.replace_aggregation,
    aggregationTail_eq, groupingBefore_groupingText hg]
  simp only [expect, if_true, hr, hexpr, hclose, hbehind, bind, Except.bind]

end

end TenantScope.Query
