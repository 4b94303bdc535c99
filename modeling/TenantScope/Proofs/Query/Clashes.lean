/- The reader of a modifier runs on into the operand behind it exactly when the two clash. -/
import TenantScope.Proofs.Query.Fronts

namespace TenantScope.Query

/-! First characters -/

/-- The characters with which an operand without a sign begins. -/
def isPrimaryStart (c : Char) : Bool :=
  c.isDigit || isTameStart c || ['"', '{', '('].contains c

/-- The characters with which an operand begins. -/
def isOperandStart (c : Char) : Bool := isPrimaryStart c || ['-', '+'].contains c

theorem isOperandStart_cases {c : Char} (h : isOperandStart c = true) :
    c.isDigit = true ∨ isTameStart c = true ∨ c ∈ ['"', '{', '(', '-', '+'] := by
  simp only [isOperandStart, isPrimaryStart, Bool.or_eq_true, List.contains_iff_mem] at h
  rcases h with ((h | h) | h) | h
  · exact .inl h
  · exact .inr (.inl h)
  · exact .inr (.inr (List.mem_append_left ['-', '+'] h))
  · exact .inr (.inr (List.mem_append_right ['"', '{', '('] h))

theorem isInk_of_isOperandStart {c : Char} (h : isOperandStart c = true) : isInk c = true := by
  have hall : ∀ d ∈ ['"', '{', '(', '-', '+'], isInk d = true := by decide
  rcases isOperandStart_cases h with h | h | h
  · exact isInk_of_isDigit h
  · exact isInk_of_isTameStart h
  · exact hall c h

/-- An operand begins with no sign of a list. -/
theorem ne_of_isOperandStart {c : Char} (h : isOperandStart c = true) : c ≠ ')' ∧ c ≠ ',' :=
  ⟨by rintro rfl; revert h; decide, by rintro rfl; revert h; decide⟩

/-- What the first character of a text says about an operand without a sign: only parentheses begin
with a parenthesis, and behind a brace stands a label. -/
structure Fronted (d : Expr) (c : Char) (w : Text) : Prop where
  start : isPrimaryStart c = true
  paren : c = '(' → ∃ e, d = .paren e
  brace : c = '{' → ∃ b v, w = b :: v ∧ isLabelStart b = true

theorem Fronted.of_ne {d : Expr} {c : Char} {w : Text} (start : isPrimaryStart c = true)
    (paren : c ≠ '(') (brace : c ≠ '{') : Fronted d c w :=
  ⟨start, fun h => absurd h paren, fun h => absurd h brace⟩

theorem Fronted.of_isTameStart {d : Expr} {c : Char} {w : Text} (hc : isTameStart c = true) :
    Fronted d c w :=
  .of_ne (by rw [isPrimaryStart, hc, Bool.or_true, Bool.true_or])
    (ne_of_isTameStart hc (by decide)) (ne_of_isTameStart hc (by decide))

theorem Fronted.of_isMetricStart {d : Expr} {c : Char} {w : Text} (hc : isMetricStart c = true) :
    Fronted d c w := .of_isTameStart (by rw [isTameStart, hc, Bool.true_or])

theorem nameAndMatchers_cons {d : Expr} {s : Selector} (hs : s.WellFormed) (hms : s.matchers ≠ [])
    (hname : ∀ n ∈ s.name, isTame n = true) (t : Text) :
    ∃ c w, s.nameAndMatchers ++ t = c :: w ∧ Fronted d c w := by
  rw [Selector.nameAndMatchers]
  cases hn : s.name with
  | none =>
      obtain ⟨m, ms, hlist⟩ := List.exists_cons_of_ne_nil hms
      obtain ⟨b, v, hb, hstart⟩ := m.print_cons (hs.labelled m (hlist ▸ List.mem_cons_self))
      obtain ⟨u, hu⟩ := commaList_cons m.print (ms.map Matcher.print)
      have hfront : matchersText s.matchers ++ t = '{' :: (b :: (v ++ u ++ ['}'] ++ t)) := by
        rw [hlist, matchersText, List.map_cons, hu, hb]
        simp only [List.cons_append, List.append_assoc, List.nil_append]
        exact fun h => (by cases h)
      exact ⟨'{', _, hfront, by decide, fun h => (by cases h), fun _ => ⟨b, _, rfl, hstart⟩⟩
  | some n =>
      obtain ⟨c, w, hw, hc⟩ := isTame_cons (hname n hn)
      exact ⟨c, w ++ (matchersText s.matchers ++ t), by rw [Option.getD_some, hw]; simp,
        .of_isTameStart hc⟩

theorem primary_print_cons {d : Expr} (hd : d.At .primary) (hworded : d.Worded) :
    ∃ c w, d.print = c :: w ∧ Fronted d c w := by
  cases hd with
  | @number x hx =>
      cases hfinite : x.isFinite with
      | true =>
          obtain ⟨c, w, hw, hc⟩ := text_of_isFinite hx hfinite
          refine ⟨c, w, hw, .of_ne ?_ ?_ ?_⟩
          · rw [isPrimaryStart, hc, Bool.true_or, Bool.true_or]
          · rintro rfl
            cases hc
          · rintro rfl
            cases hc
      | false =>
          have htext := text_of_not_isFinite hx hfinite
          simp only [List.mem_cons, List.not_mem_nil, or_false] at htext
          rcases htext with htext | htext
          · exact ⟨'N', _, htext, .of_isMetricStart (by decide)⟩
          · exact ⟨'I', _, htext, .of_isMetricStart (by decide)⟩
  | string s => exact ⟨'"', _, rfl, .of_ne (by decide) (by decide) (by decide)⟩
  | vector hs => exact nameAndMatchers_cons hs hworded.1 hworded.2 _
  | @matrix s range hs hrange =>
      rw [Expr.print, List.append_assoc]
      exact nameAndMatchers_cons hs hworded.1 hworded.2 _
  | @call function args hfunction hargs =>
      obtain ⟨c, w, hw, hc, -⟩ := word?_cons (isBareName_iff.mp hfunction).1
      rw [← List.append_nil (Expr.print _), call_print_append]
      exact ⟨c, _, by rw [hw]; rfl, .of_isMetricStart hc⟩
  | @aggregation op grouping param body hg hop hp hbody =>
      rw [← List.append_nil (Expr.print _), aggregation_print_append]
      cases op <;> exact ⟨_, _, rfl, .of_isMetricStart (by decide)⟩
  | @paren e he =>
      exact ⟨'(', _, rfl, by decide, fun _ => ⟨e, rfl⟩, fun h => (by cases h)⟩

/-- Every tree of the grammar begins with the first character of an operand. -/
theorem print_cons {p : Place} {e : Expr} (he : e.At p) (hworded : e.Everywhere Expr.Worded) :
    ∃ c w, e.print = c :: w ∧ isOperandStart c = true := by
  obtain ⟨t, ht, -⟩ := e.print_eq_leading
  rw [ht]
  rcases he.leading with ⟨sign, d, hd⟩ | hd
  · rw [hd]
    cases sign <;> exact ⟨_, _, rfl, by decide⟩
  · obtain ⟨c, w, hw, hc⟩ := primary_print_cons hd (hworded _ e.leading_occurs)
    exact ⟨c, w ++ t, by rw [hw]; rfl, by rw [isOperandStart, hc.start, Bool.true_or]⟩

theorem skip_print {p : Place} {e : Expr} (he : e.At p) (hworded : e.Everywhere Expr.Worded)
    (s : Text) : skip (e.print ++ s) = e.print ++ s := by
  obtain ⟨c, w, hw, hc⟩ := print_cons he hworded
  rw [hw, List.cons_append, skip_of_isInk (isInk_of_isOperandStart hc)]

/-! Label lists -/

/-- A text behind a label that goes on neither to the next label nor to the end of the list. -/
def LeavesList (s : Text) : Prop := (skip s).head? ≠ some ',' ∧ (skip s).head? ≠ some ')'

theorem LeavesList.cons {c : Char} {s : Text} (hc : isInk c = true) (hcomma : c ≠ ',')
    (hclose : c ≠ ')') : LeavesList (c :: s) := by
  rw [LeavesList, skip_of_isInk hc]
  exact ⟨fun h => hcomma (Option.some.inj h), fun h => hclose (Option.some.inj h)⟩

theorem leavesList_of_name {n l r u : Text} {c : Char} (hn : isTame n = true)
    (hc : c ∈ ['{', '(']) (h : labelName? (n ++ c :: u) = some (l, r)) : LeavesList r := by
  have hends : ∀ d ∈ ['{', '('], d ∈ nameEnds := by decide
  have hc' : LeavesList (c :: u) := by
    have hall : ∀ d ∈ ['{', '('], isInk d = true ∧ d ≠ ',' ∧ d ≠ ')' := by decide
    obtain ⟨hink, hcomma, hclose⟩ := hall c hc
    exact .cons hink hcomma hclose
  have hne : n ≠ [] := by rintro rfl; cases hn
  rw [labelName?_append hne (hends c hc)] at h
  obtain ⟨⟨l', r'⟩, hread, heq⟩ := Option.map_eq_some_iff.mp h
  cases heq
  cases r' with
  | nil => exact hc'
  | cons b r' =>
      -- the label breaks off inside the name
      have hb := isBreak_of_labelName? hn hread
      exact .cons (isInk_of_isBreak hb) (ne_of_isBreak hb (by decide))
        (ne_of_isBreak hb (by decide))

theorem clauseLabel?_of_not_isLabelStart {c : Char} (hc : isLabelStart c = false) (s : Text) :
    clauseLabel? (c :: s) = none := by
  have hnone : labelName? (c :: s) = none := by
    simp only [labelName?, word?, hc, Bool.false_eq_true, if_false]
  rw [clauseLabel?, hnone]
  rfl

theorem isLabelStart_eq_false_of_isDigit {c : Char} (h : c.isDigit = true) :
    isLabelStart c = false := by
  by_contra hc
  have hstart := isMetricStart_of_isLabelStart ((Bool.not_eq_false _).mp hc)
  rw [isDigit_eq_false_of_isMetricStart hstart] at h
  cases h

theorem isWord_iff {e : Expr} : e.isWord = true ↔ ∃ x, e = .number x ∧ x.isFinite = false := by
  constructor
  · intro h
    cases e with
    | number x => exact ⟨x, rfl, (Bool.not_eq_true' _).mp h⟩
    | _ => cases h
  · rintro ⟨x, rfl, hx⟩
    rw [Expr.isWord, hx]
    rfl

/-- The words are labels. -/
theorem clauseLabel?_word {d : Expr} (hd : d.At .primary) (hword : d.isWord = true) :
    clauseLabel? d.print = some (d.print, []) := by
  have hall : ∀ w ∈ ["NaN".toList, "Inf".toList], clauseLabel? w = some (w, []) := by decide
  obtain ⟨x, rfl, hfinite⟩ := isWord_iff.mp hword
  cases hd with
  | number hx => exact hall _ (text_of_not_isFinite hx hfinite)

theorem at_primary_of_isWord {p : Place} {e : Expr} (he : e.At p) (hword : e.isWord = true) :
    e.At .primary := by
  obtain ⟨x, rfl, -⟩ := isWord_iff.mp hword
  rcases he.leading with ⟨sign, d, hd⟩ | hd
  · cases hd
  · exact hd

theorem clauseLabel?_aggregate {op : AggregateOp} {c : Char} (hc : c ∈ [' ', '(']) (s : Text) :
    clauseLabel? (op.text ++ c :: s) = none := by
  have hstop : ∀ d ∈ [' ', '('], isLabelChar d = false := by decide
  have hself : labelName? op.text = some (op.text, []) := by cases op <;> decide
  have hword : labelName? (op.text ++ c :: s) = some (op.text, c :: s) :=
    word?_append hself (.cons (hstop c hc))
  have hreserved : Text.lower op.text ∈ reservedWords := by cases op <;> decide
  rw [clauseLabel?, hword]
  exact Option.filter_some_neg (by simp [hreserved])

theorem nameAndMatchers_of_name_eq_none {s : Selector} (hname : s.name = none)
    (hms : s.matchers ≠ []) : ∃ u, s.nameAndMatchers = '{' :: u := by
  obtain ⟨u, hu⟩ := matchersText_cons hms
  exact ⟨u, by rw [Selector.nameAndMatchers, hname, hu]; rfl⟩

/-- Without a name or a word in front, no label is read. -/
theorem clauseLabel?_print_eq_none {d : Expr} (hd : (∃ sign e, d = .unary sign e) ∨ d.At .primary)
    (hworded : d.Worded) (hname : d.frontName? = none) (hword : d.isWord = false) (s : Text) :
    clauseLabel? (d.print ++ s) = none := by
  have hother := fun c s hc => clauseLabel?_of_not_isLabelStart (c := c) hc s
  rcases hd with ⟨sign, e, rfl⟩ | hd
  · cases sign <;> exact hother _ _ (by decide)
  cases hd with
  | @number x hx =>
      have hfinite : x.isFinite = true := (Bool.not_eq_false' ..).mp hword
      obtain ⟨c, w, hw, hc⟩ := text_of_isFinite hx hfinite
      rw [Expr.print, hw]
      exact hother c _ (isLabelStart_eq_false_of_isDigit hc)
  | string text => exact hother _ _ (by decide)
  | @vector sel hs =>
      obtain ⟨u, hu⟩ := nameAndMatchers_of_name_eq_none hname hworded.1
      rw [Expr.print, Selector.print, hu]
      exact hother _ _ (by decide)
  | @matrix sel range hs hrange =>
      obtain ⟨u, hu⟩ := nameAndMatchers_of_name_eq_none hname hworded.1
      rw [Expr.print, hu]
      exact hother _ _ (by decide)
  | call hfunction hargs => cases hname
  | @aggregation op grouping param body hg hop hp hbody =>
      obtain ⟨c, u, hu, hc⟩ := groupingText_append_cons grouping
        (paramText param ++ (body.print ++ ')' :: s))
      rw [aggregation_print_append, hu]
      exact clauseLabel?_aggregate hc u
  | paren he => exact hother _ _ (by decide)

/-- Where a tree is no word, a label in front of it does not reach to the end of a list item. -/
theorem leavesList_print {p : Place} {e : Expr} (he : e.At p)
    (hworded : e.Everywhere Expr.Worded) (hword : e.isWord = false) (s : Text) {l r : Text}
    (h : clauseLabel? (e.print ++ s) = some (l, r)) : LeavesList r := by
  obtain ⟨t, ht, hcases⟩ := e.print_eq_leading
  have hdworded := hworded _ e.leading_occurs
  rw [ht, List.append_assoc] at h
  cases hname : e.leading.frontName? with
  | some n =>
      obtain ⟨hn, hfront⟩ := print_of_frontName?_eq_some he.leading hdworded hname (t ++ s)
      have hlabel := (Option.filter_eq_some_iff.mp h).1
      rcases hfront with ⟨u, hu, -⟩ | ⟨args, -, hu⟩
      · rw [hu] at hlabel
        exact leavesList_of_name hn (by decide) hlabel
      · rw [hu] at hlabel
        exact leavesList_of_name hn (by decide) hlabel
  | none =>
      cases hlead : e.leading.isWord with
      | false =>
          rw [clauseLabel?_print_eq_none he.leading hdworded hname hlead] at h
          cases h
      | true =>
          -- the word is not the whole tree, so an operator or a range follows it
          have hd : e.leading.At .primary := by
            refine he.leading_primary fun sign d heq => ?_
            rw [heq] at hlead
            cases hlead
          have hlabel := clauseLabel?_word hd hlead
          have hrest : Text.StopsAt isLabelChar (t ++ s) → r = t ++ s := by
            intro hstop
            rw [clauseLabel?_append hlabel hstop] at h
            exact (Prod.mk.inj (Option.some.inj h)).2.symm
          rcases hcases with ⟨-, heq⟩ | ⟨op, u, rfl⟩ | ⟨u, rfl⟩
          · rw [heq, hword] at hlead
            cases hlead
          · rw [hrest (.cons (by decide))]
            cases op <;> exact ⟨fun h => (by cases h), fun h => (by cases h)⟩
          · rw [hrest (.cons (by decide))]
            exact .cons (by decide) (by decide) (by decide)

/-- Behind a comma a list ends where the list of the remaining items ends, or at the comma. -/
theorem head?_sepItems {α : Type} {item : Lexer α} {s : Text} (hs : skip s = s)
    (h : ∀ fuel, (skip (sepList skipComma? item fuel s).2).head? ≠ some ')') (fuel : Nat) :
    (skip (sepItems skipComma? item fuel (',' :: ' ' :: s)).2).head? ≠ some ')' := by
  rcases sepItems_eq_sepList (skipComma?_separator rfl hs) fuel with heq | ⟨fuel', heq⟩
  · rw [heq]
    exact fun h => (by cases h)
  · rw [heq]
    exact h fuel'

/-- What stands behind an argument of a call: the arguments that follow it and the end of the
list. -/
def behindArgument (s : Text) : List Expr → Text
  | [] => ')' :: s
  | b :: args => ',' :: ' ' :: (commaList ((b :: args).map Expr.print) ++ ')' :: s)

theorem arguments_append (a : Expr) (args : List Expr) (s : Text) :
    commaList ((a :: args).map Expr.print) ++ ')' :: s = a.print ++ behindArgument s args := by
  cases args with
  | nil => rw [List.map_cons, List.map_nil, commaList_singleton, behindArgument]
  | cons b args =>
      simp only [behindArgument, List.map_cons, commaList_cons_cons, List.append_assoc,
        List.cons_append]

theorem skip_arguments {args : List Expr} (hargs : ∀ a ∈ args, a.At .chain)
    (hworded : ∀ a ∈ args, a.Everywhere Expr.Worded) (s : Text) :
    skip (commaList (args.map Expr.print) ++ ')' :: s) =
      commaList (args.map Expr.print) ++ ')' :: s := by
  cases args with
  | nil => rfl
  | cons a args =>
      rw [arguments_append, skip_print (hargs a List.mem_cons_self) (hworded a List.mem_cons_self)]

/-- The reader of a label list in front of a printed argument list stops before its end where an
argument is no word. -/
theorem sepList_clauseLabel? {args : List Expr} (hargs : ∀ a ∈ args, a.At .chain)
    (hworded : ∀ a ∈ args, a.Everywhere Expr.Worded) (hwords : args.all Expr.isWord = false)
    (s : Text) (fuel : Nat) :
    (skip (sepList skipComma? clauseLabel? fuel
      (commaList (args.map Expr.print) ++ ')' :: s)).2).head? ≠ some ')' := by
  induction args generalizing fuel with
  | nil => cases hwords
  | cons a args ih =>
      have ha := hargs a List.mem_cons_self
      have hwa := hworded a List.mem_cons_self
      rw [arguments_append]
      cases hread : clauseLabel? (a.print ++ behindArgument s args) with
      | none =>
          obtain ⟨c, w, hw, hc⟩ := print_cons ha hwa
          rw [sepList, hread, skip_print ha hwa, hw]
          exact fun h => (ne_of_isOperandStart hc).1 (Option.some.inj h)
      | some p =>
          obtain ⟨l, r⟩ := p
          rw [sepList, hread]
          cases hword : a.isWord with
          | false =>
              have hleaves := leavesList_print ha hwa hword _ hread
              simp only [sepItems_of_skipComma?_eq_none (skipComma?_eq_none hleaves.1)]
              exact hleaves.2
          | true =>
              cases args with
              | nil =>
                  rw [List.all_cons, hword] at hwords
                  cases hwords
              | cons b args =>
                  -- the word is read, and the list goes on with the other arguments
                  have hargs' := fun c hc => hargs c (List.mem_cons_of_mem a hc)
                  have hworded' := fun c hc => hworded c (List.mem_cons_of_mem a hc)
                  have hwords' : (b :: args).all Expr.isWord = false := by
                    simpa only [List.all_cons, hword, Bool.true_and] using hwords
                  have hself := clauseLabel?_word (at_primary_of_isWord ha hword) hword
                  rw [behindArgument, clauseLabel?_append hself (.cons (by decide))] at hread
                  cases hread
                  exact head?_sepItems (skip_arguments hargs' hworded' s)
                    (ih hargs' hworded' hwords') fuel

/-- A printed argument list reads like a label list when all arguments are words. -/
theorem labelList?_arguments {args : List Expr} (hargs : ∀ a ∈ args, a.At .chain)
    (hworded : ∀ a ∈ args, a.Everywhere Expr.Worded) (s : Text) :
    labelList? ('(' :: (commaList (args.map Expr.print) ++ ')' :: s)) =
      if args.all Expr.isWord then some (args.map Expr.print, s) else none := by
  cases hwords : args.all Expr.isWord with
  | true =>
      have hlabels : ∀ l ∈ args.map Expr.print, clauseLabel? l = some (l, []) := by
        intro l hl
        obtain ⟨a, ha, rfl⟩ := List.mem_map.mp hl
        have hword := List.all_eq_true.mp hwords a ha
        exact clauseLabel?_word (at_primary_of_isWord (hargs a ha) hword) hword
      have hread := labelList?_append hlabels s
      simp only [labelsText, List.cons_append, List.append_assoc, List.nil_append] at hread
      exact hread
  | false =>
      have hend := sepList_clauseLabel? hargs hworded hwords s
        (commaList (args.map Expr.print) ++ ')' :: s).length
      simp only [labelList?, skip_arguments hargs hworded, Bool.false_eq_true, if_false]
      split
      · next heq =>
        rw [heq] at hend
        exact absurd rfl hend
      · rfl

end TenantScope.Query
