/- How the text of an operand begins, and when it is taken for a part of the modifier before it. -/
import TenantScope.Proofs.Query.Operators

namespace TenantScope.Query

/-- A selector whose matchers are not absent and whose name, if any, is tame. -/
def Expr.Worded : Expr → Prop
  | .vector s | .matrix s _ => s.matchers ≠ [] ∧ ∀ n ∈ s.name, isTame n = true
  | _ => True

/-- A tree whose text is the word for infinity or for what is not a number. -/
def Expr.isWord : Expr → Bool
  | .number x => !x.isFinite
  | _ => false

/-- The name with which the text of an operand begins. -/
def Expr.frontName? : Expr → Option Text
  | .vector s | .matrix s _ => s.name
  | .call function _ => some function
  | _ => none

/-- A call that reads like a vector matching: of a function named like a matching mode, with
nothing but words for arguments. -/
def Expr.isMatchingCall : Expr → Bool
  | .call function args =>
    ((keywordOf? MatchingMode.text [.on, .ignoring] function).any fun r => r.2.isEmpty) &&
      args.all Expr.isWord
  | _ => false

/-- A word in parentheses, which reads like a label list. -/
def Expr.isWordInParens : Expr → Bool
  | .paren e => e.isWord
  | _ => false

/-- Whether the front of an operand is taken for a part of the modifier before it: `bool` and a
matching where none stands, a group modifier where a matching has none, and a label list where a
group modifier has none. -/
def clashes (m : Option BinaryModifier) (front : Expr) : Bool :=
  match m with
  | none =>
    (front.frontName?.any fun n => (Text.dropKeyword? "bool".toList n).isSome) ||
      front.isMatchingCall
  | some ⟨_, none⟩ => front.isMatchingCall
  | some ⟨_, some ⟨_, _, none⟩⟩ =>
    front.frontName?.any fun n => (keywordOf? GroupSide.text [.left, .right] n).isSome
  | some ⟨_, some ⟨_, _, some ⟨_, []⟩⟩⟩ => front.isWordInParens
  | some ⟨_, some ⟨_, _, some ⟨_, _ :: _⟩⟩⟩ => false

/-! The leading operand -/

theorem Expr.At.leading {p : Place} {e : Expr} (h : e.At p) :
    (∃ sign d, e.leading = .unary sign d) ∨ e.leading.At .primary := by
  induction h with
  | chain _ _ _ ih _ =>
      rw [Expr.leading_ofChain]
      exact ih
  | unary sign _ _ => exact .inl ⟨sign, _, rfl⟩
  | windows _ _ ih =>
      rw [Expr.leading_ofWindows]
      exact ih
  | number hx => exact .inr (.number hx)
  | string s => exact .inr (.string s)
  | vector hs => exact .inr (.vector hs)
  | matrix hs hrange => exact .inr (.matrix hs hrange)
  | call hname hargs _ => exact .inr (.call hname hargs)
  | aggregation hg hop hp hbody _ _ => exact .inr (.aggregation hg hop hp hbody)
  | paren he _ => exact .inr (.paren he)

theorem Expr.At.leading_primary {p : Place} {e : Expr} (h : e.At p)
    (hsign : ∀ sign d, e.leading ≠ .unary sign d) : e.leading.At .primary :=
  h.leading.resolve_left fun ⟨sign, d, heq⟩ => hsign sign d heq

/-- What follows the leading operand: nothing, an operator, or a subquery range. -/
theorem Expr.print_eq_leading (e : Expr) :
    ∃ t, e.print = e.leading.print ++ t ∧
      ((t = [] ∧ e.leading = e) ∨ (∃ op u, t = ' ' :: BinaryOp.text op ++ ' ' :: u) ∨
        ∃ u, t = '[' :: u) := by
  induction e using Expr.induction_on_children with
  | node e ih =>
    cases e with
    | binary op m left right =>
        obtain ⟨t, ht, hcases⟩ := ih left List.mem_cons_self
        obtain ⟨u, hu⟩ := modifierText_append_cons m right.print
        refine ⟨t ++ ' ' :: op.text ++ ' ' :: u, ?_, ?_⟩
        · rw [Expr.print, ht, ← modifierText, List.append_assoc, List.append_assoc,
            List.cons_append, List.append_assoc, hu, Expr.leading]
          simp only [List.append_assoc, List.cons_append]
        · rcases hcases with ⟨rfl, -⟩ | ⟨op', v, rfl⟩ | ⟨v, rfl⟩
          · exact .inr (.inl ⟨op, u, rfl⟩)
          · refine .inr (.inl ⟨op', v ++ ' ' :: op.text ++ ' ' :: u, ?_⟩)
            simp only [List.append_assoc, List.cons_append]
          · exact .inr (.inr ⟨_, rfl⟩)
    | subquery body range step m =>
        obtain ⟨t, ht, hcases⟩ := ih body List.mem_cons_self
        refine ⟨t ++ (⟨range, step, m⟩ : Window).text, ?_, ?_⟩
        · rw [← List.append_assoc, Expr.leading, ← ht]
          exact Expr.print_ofWindows body [⟨range, step, m⟩] ▸ by
            simp only [List.flatMap_cons, List.flatMap_nil, List.append_nil]
        · rcases hcases with ⟨rfl, -⟩ | ⟨op', v, rfl⟩ | ⟨v, rfl⟩
          · exact .inr (.inr ⟨_, rfl⟩)
          · refine .inr (.inl ⟨op', v ++ (⟨range, step, m⟩ : Window).text, ?_⟩)
            simp only [List.append_assoc, List.cons_append]
          · exact .inr (.inr ⟨_, rfl⟩)
    | _ => exact ⟨[], (List.append_nil _).symm, .inl ⟨rfl, rfl⟩⟩

/-! Fronts without a name -/

/-- The first letters of the words of modifiers. -/
def modifierLetters : Text := ['b', 'o', 'i', 'g']

/-- The words with which a modifier or a part of it begins. -/
def modifierWords : List Text :=
  "bool".toList :: [MatchingMode.on, .ignoring].map MatchingMode.text ++
    [GroupSide.left, .right].map GroupSide.text

theorem dropKeyword?_of_modifierLetters {c : Char} (hc : c.toLower ∉ modifierLetters) {w : Text}
    (hw : w ∈ modifierWords) (s : Text) : Text.dropKeyword? w (c :: s) = none := by
  have hall : ∀ w ∈ modifierWords, ∃ d v, w = d :: v ∧ d ∈ modifierLetters := by
    intro w hw
    simp only [modifierWords, List.map_cons, List.map_nil, List.cons_append, List.nil_append,
      List.mem_cons, List.not_mem_nil, or_false] at hw
    rcases hw with rfl | rfl | rfl | rfl | rfl <;> exact ⟨_, _, rfl, by decide⟩
  obtain ⟨d, v, rfl, hd⟩ := hall w hw
  exact dropKeyword?_eq_none fun h => hc (h ▸ hd)

theorem text_of_isFinite {x : Binary64} (hx : x.isNegative = false) (hfinite : x.isFinite = true) :
    ∃ c w, x.text = c :: w ∧ c.isDigit = true := by
  have hnan : x.isNaN = false := by
    simp only [Binary64.isFinite, decide_eq_true_eq] at hfinite
    rw [Binary64.isNaN, decide_eq_false_iff_not]
    omega
  simp only [Binary64.text, hnan, Bool.false_eq_true, if_false, hx, hfinite, Bool.not_true,
    List.nil_append]
  split
  · exact ⟨'0', [], rfl, rfl⟩
  · rw [Binary64.plain]
    split
    · exact pointed_cons _ _
    · obtain ⟨c, w, hw, hc, -⟩ := Text.ofNat_cons (x.shortest.1 * 10 ^ x.shortest.2.natAbs)
      exact ⟨c, w, hw, hc⟩

theorem text_of_not_isFinite {x : Binary64} (hx : x.isNegative = false)
    (hfinite : x.isFinite = false) : x.text ∈ ["NaN".toList, "Inf".toList] := by
  simp only [Binary64.text, hx, Bool.false_eq_true, if_false, hfinite, Bool.not_false, if_true,
    List.nil_append]
  split
  · exact List.mem_cons_self
  · exact List.mem_cons_of_mem _ List.mem_cons_self

theorem matchersText_cons {ms : List Matcher} (hms : ms ≠ []) :
    ∃ w, matchersText ms = '{' :: w := by
  obtain ⟨m, ms, rfl⟩ := List.exists_cons_of_ne_nil hms
  exact ⟨_, rfl⟩

theorem Expr.printAll_eq (es : List Expr) : Expr.print.printAll es = es.map Expr.print := by
  induction es with
  | nil => rfl
  | cons e es ih => rw [Expr.print.printAll, ih, List.map_cons]

theorem call_print_append (function : Text) (args : List Expr) (t : Text) :
    (Expr.call function args).print ++ t =
      function ++ '(' :: (commaList (args.map Expr.print) ++ ')' :: t) := by
  simp only [Expr.print, Expr.printAll_eq, List.append_assoc, List.cons_append, List.nil_append]

/-- The text of a grouping in front of the parentheses of an aggregation. -/
def groupingText : Option Grouping → Text
  | some g => ' ' :: g.print ++ [' ']
  | none => []

/-- The text of a parameter with the comma behind it. -/
def paramText : Option Expr → Text
  | some p => p.print ++ ", ".toList
  | none => []

theorem aggregation_print_append (op : AggregateOp) (grouping : Option Grouping)
    (param : Option Expr) (body : Expr) (t : Text) :
    (Expr.aggregation op grouping param body).print ++ t =
      op.text ++ (groupingText grouping ++
        '(' :: (paramText param ++ (body.print ++ ')' :: t))) := by
  cases grouping <;> cases param <;>
    simp only [Expr.print, groupingText, paramText, List.append_assoc, List.cons_append,
      List.nil_append]

theorem groupingText_append_cons (grouping : Option Grouping) (s : Text) :
    ∃ c u, groupingText grouping ++ '(' :: s = c :: u ∧ c ∈ [' ', '('] := by
  cases grouping with
  | none => exact ⟨'(', s, rfl, by decide⟩
  | some g => exact ⟨' ', _, rfl, by decide⟩

section

variable {d : Expr} (hd : (∃ sign e, d = .unary sign e) ∨ d.At .primary) (hworded : d.Worded)
include hd hworded

/-- Without a name in front, no text begins with a word of a modifier. -/
theorem dropKeyword?_print_of_frontName?_eq_none (hname : d.frontName? = none) {w : Text}
    (hw : w ∈ modifierWords) (t : Text) : Text.dropKeyword? w (d.print ++ t) = none := by
  have hother : ∀ c s, c.toLower ∉ modifierLetters → Text.dropKeyword? w (c :: s) = none :=
    fun c s hc => dropKeyword?_of_modifierLetters hc hw s
  rcases hd with ⟨sign, e, rfl⟩ | hd
  · cases sign <;> exact hother _ _ (by decide)
  cases hd with
  | @number x hx =>
      cases hfinite : x.isFinite with
      | true =>
          obtain ⟨c, u, hu, hc⟩ := text_of_isFinite hx hfinite
          rw [Expr.print, hu]
          refine hother _ _ ?_
          rw [toLower_of_isDigit hc]
          intro hmem
          simp only [modifierLetters, List.mem_cons, List.not_mem_nil, or_false] at hmem
          rcases hmem with rfl | rfl | rfl | rfl <;> cases hc
      | false =>
          have htext := text_of_not_isFinite hx hfinite
          simp only [modifierWords, List.map_cons, List.map_nil, List.cons_append,
            List.nil_append, List.mem_cons, List.not_mem_nil, or_false] at hw htext
          rw [Expr.print]
          rcases htext with htext | htext <;> rw [htext] <;>
            rcases hw with rfl | rfl | rfl | rfl | rfl <;> rfl
  | string s => exact hother _ _ (by decide)
  | @vector s hs =>
      obtain ⟨u, hu⟩ := matchersText_cons hworded.1
      have hname : s.name = none := hname
      rw [Expr.print, Selector.print, Selector.nameAndMatchers, hname, hu]
      exact hother _ _ (by decide)
  | @matrix s range hs hrange =>
      obtain ⟨u, hu⟩ := matchersText_cons hworded.1
      have hname : s.name = none := hname
      rw [Expr.print, Selector.nameAndMatchers, hname, hu]
      exact hother _ _ (by decide)
  | call hfunction hargs => cases hname
  | @aggregation op grouping param body hg hop hp hbody =>
      obtain ⟨c, u, hu, hc⟩ := groupingText_append_cons grouping
        (paramText param ++ (body.print ++ ')' :: t))
      have hwords : ∀ w ∈ modifierWords, ∀ e ∈ [' ', '('], ∀ b ∈ w, b ≠ Char.toLower e := by
        decide
      have hbound : ∀ e ∈ [' ', '('], Text.isWordChar e = false := by decide
      have hops : ∀ w ∈ modifierWords, Text.dropKeyword? w op.text = none := by
        cases op <;> decide
      rw [aggregation_print_append, hu, Text.dropKeyword?_append (hwords w hw c hc) (hbound c hc),
        hops w hw]
      rfl
  | paren he => exact hother _ _ (by decide)

/-- A name in front stands right before the matchers or the arguments. -/
theorem print_of_frontName?_eq_some {n : Text} (hname : d.frontName? = some n) (t : Text) :
    isTame n = true ∧
      ((∃ u, d.print ++ t = n ++ '{' :: u ∧ d.isMatchingCall = false) ∨
        ∃ args, d = .call n args ∧
          d.print ++ t = n ++ '(' :: (commaList (args.map Expr.print) ++ ')' :: t)) := by
  rcases hd with ⟨sign, e, rfl⟩ | hd
  · cases hname
  cases hd with
  | @vector s hs =>
      obtain ⟨u, hu⟩ := matchersText_cons hworded.1
      have hname : s.name = some n := hname
      refine ⟨hworded.2 n hname, .inl ⟨u ++ (s.modifiers.print ++ t), ?_, rfl⟩⟩
      rw [Expr.print, Selector.print, Selector.nameAndMatchers, hname, hu]
      simp only [Option.getD_some, List.append_assoc, List.cons_append]
  | @matrix s range hs hrange =>
      obtain ⟨u, hu⟩ := matchersText_cons hworded.1
      have hname : s.name = some n := hname
      refine ⟨hworded.2 n hname, .inl ⟨u ++
        ('[' :: durationText range ++ ']' :: s.modifiers.print ++ t), ?_, rfl⟩⟩
      rw [Expr.print, Selector.nameAndMatchers, hname, hu]
      simp only [Option.getD_some, List.append_assoc, List.cons_append]
  | @call function args hfunction hargs =>
      cases hname
      refine ⟨isTame_of_metricName? (isBareName_iff.mp hfunction).1, .inr ⟨args, rfl, ?_⟩⟩
      exact call_print_append n args t
  | number hx => cases hname
  | string s => cases hname
  | aggregation hg hop hp hbody => cases hname
  | paren he => cases hname

end

end TenantScope.Query
