/- Where the characters of a query lead: into a string literal, into a comment, or out of them. -/
import TenantScope.Proofs.Query.Names

namespace TenantScope.Query

/-! Modes -/

/-- Where a text stands: outside of literals and comments, in a literal, right behind a backslash in
a literal, or in a comment. A comment with a carriage return in it awaits the line feed, and is
broken when another character comes. -/
inductive Mode
  | outside | literal (quote : Char) | escape (quote : Char) | comment | returned | broken
  deriving DecidableEq

/-- The characters that begin a string literal. -/
def quotationMarks : Text := ['"', '\'', '`']

/-- The mode behind one more character. There are no escapes between backquotes. -/
def Mode.step : Mode → Char → Mode
  | .outside, c =>
    if c ∈ quotationMarks then .literal c else if c = '#' then .comment else .outside
  | .literal quote, c =>
    if c = quote then .outside else if c = '\\' ∧ quote ≠ '`' then .escape quote else .literal quote
  | .escape quote, _ => .literal quote
  | .comment, c => if c = '\n' then .outside else if c = '\r' then .returned else .comment
  | .returned, c => if c = '\n' then .outside else .broken
  | .broken, _ => .broken

/-- The mode behind a text. -/
def Mode.after (m : Mode) (s : Text) : Mode := s.foldl Mode.step m

/-- Whether a text ends inside a comment whose line goes on. -/
def endsInComment (s : Text) : Bool := Mode.outside.after s = .comment

theorem Mode.after_cons (m : Mode) (c : Char) (s : Text) : m.after (c :: s) = (m.step c).after s :=
  rfl

theorem Mode.after_append (m : Mode) (s t : Text) : m.after (s ++ t) = (m.after s).after t :=
  List.foldl_append

theorem Mode.after_broken (s : Text) : Mode.broken.after s = .broken := by
  induction s with
  | nil => rfl
  | cons c s ih => exact ih

/-- A carriage return in a comment breaks it where no line feed follows. -/
theorem Mode.after_bareReturn {c : Char} (hc : c ≠ '\n') (s : Text) :
    Mode.comment.after ('\r' :: c :: s) = .broken := by
  have hstep : Mode.comment.after ('\r' :: c :: s) = (Mode.returned.step c).after s := rfl
  rw [hstep, Mode.step, if_neg hc, Mode.after_broken]

/-- A query that is read to its end stands outside of everything or in its last comment. -/
def Mode.isFinal : Mode → Bool
  | .outside | .comment => true
  | _ => false

/-- A character that begins neither a literal nor a comment. -/
def isOuter (c : Char) : Bool := !(quotationMarks.contains c || c == '#')

theorem Mode.step_of_isOuter {c : Char} (h : isOuter c = true) :
    Mode.outside.step c = .outside := by
  simp only [isOuter, Bool.not_eq_true', Bool.or_eq_false_iff, List.contains_eq_mem,
    decide_eq_false_iff_not, beq_eq_false_iff_ne] at h
  rw [Mode.step, if_neg h.1, if_neg h.2]

/-- The characters of a class that holds no quotation mark and no hash sign. -/
theorem isOuter_of_class {p : Char → Bool} (hp : ∀ c ∈ '#' :: quotationMarks, p c = false)
    {c : Char} (h : p c = true) : isOuter c = true := by
  simp only [isOuter, Bool.not_eq_true', Bool.or_eq_false_iff, List.contains_eq_mem,
    decide_eq_false_iff_not, beq_eq_false_iff_ne]
  refine ⟨fun hc => ?_, ?_⟩
  · rw [hp c (List.mem_cons_of_mem _ hc)] at h
    cases h
  · rintro rfl
    rw [hp '#' List.mem_cons_self] at h
    cases h

theorem isOuter_of_toLower {c : Char} (h : isOuter c.toLower = true) : isOuter c = true :=
  isOuter_of_class (p := fun c => isOuter c.toLower) (by decide) h

/-! What is left behind whole words, literals and comments -/

/-- What is left of a text behind whole words, literals, blanks and comments. The last comment of a
text may reach to its end. -/
structure Remainder (s r : Text) : Prop where
  length_le : r.length ≤ s.length
  mode : Mode.outside.after s = Mode.outside.after r ∨ r = [] ∧ Mode.outside.after s = .comment

theorem Remainder.refl (s : Text) : Remainder s s := ⟨Nat.le_refl _, .inl rfl⟩

theorem Remainder.eq_nil {r : Text} (h : Remainder [] r) : r = [] :=
  List.eq_nil_of_length_eq_zero (Nat.le_zero.mp h.length_le)

theorem Remainder.trans {s r t : Text} (h : Remainder s r) (h' : Remainder r t) :
    Remainder s t := by
  refine ⟨Nat.le_trans h'.length_le h.length_le, ?_⟩
  rcases h.mode with hm | ⟨rfl, hm⟩
  · rw [hm]
    exact h'.mode
  · exact .inr ⟨h'.eq_nil, hm⟩

theorem Remainder.cons {c : Char} (h : isOuter c = true) (s : Text) : Remainder (c :: s) s :=
  ⟨Nat.le_succ _, .inl (by rw [Mode.after_cons, Mode.step_of_isOuter h])⟩

theorem Remainder.append {w : Text} (h : ∀ c ∈ w, isOuter c = true) (s : Text) :
    Remainder (w ++ s) s := by
  induction w with
  | nil => exact .refl s
  | cons c w ih =>
      exact (Remainder.cons (h c List.mem_cons_self) _).trans
        (ih fun d hd => h d (List.mem_cons_of_mem c hd))

theorem Remainder.dropWhile {p : Char → Bool} (hp : ∀ c ∈ '#' :: quotationMarks, p c = false)
    (s : Text) : Remainder s (s.dropWhile p) := by
  have h := Remainder.append (fun c hc => isOuter_of_class hp (Text.forall_takeWhile s c hc))
    (s.dropWhile p)
  rwa [List.takeWhile_append_dropWhile] at h

/-! Blanks and comments -/

/-- At one character an open comment ends, breaks off or goes on, for the reader as for the mode. It
ends and goes on so whatever follows the text. -/
theorem skipFrom_comment_cons (c : Char) (s : Text) :
    ((∀ hash v, skipFrom (some hash) (c :: (s ++ v)) = skip (s ++ v)) ∧
        Mode.comment.after (c :: s) = Mode.outside.after s) ∨
      ((∀ hash, skipFrom (some hash) (c :: s) = hash) ∧
        (Mode.comment.after (c :: s)).isFinal = false) ∨
      ((∀ hash v, skipFrom (some hash) (c :: (s ++ v)) = skipFrom (some hash) (s ++ v)) ∧
        Mode.comment.after (c :: s) = Mode.comment.after s) := by
  by_cases hline : c = '\n'
  · subst hline
    exact .inl ⟨fun _ _ => rfl, rfl⟩
  by_cases hreturn : c = '\r'
  · subst hreturn
    cases s with
    | nil => exact .inr (.inl ⟨fun _ => rfl, rfl⟩)
    | cons d s =>
        by_cases hd : d = '\n'
        · subst hd
          exact .inl ⟨fun _ _ => rfl, rfl⟩
        · refine .inr (.inl ⟨fun hash => ?_, ?_⟩)
          · have hnext : (d :: s).head? ≠ some '\n' := fun h => hd (Option.some.inj h)
            rw [skipFrom, if_neg hline, if_pos rfl, if_neg hnext]
          · rw [Mode.after_bareReturn hd]
            rfl
  · refine .inr (.inr ⟨fun hash v => ?_, ?_⟩)
    · rw [skipFrom, if_neg hline, if_neg hreturn]
    · rw [Mode.after_cons, Mode.step, if_neg hline, if_neg hreturn]

/-- Blanks and comments are whole, but for the broken comment that stays in place. -/
theorem skip_remainder (s : Text) : Remainder s (skip s) := by
  have hall : ∀ s : Text, Remainder s (skip s) ∧
      ∀ hash, (skipFrom (some hash) s = hash ∨ (skipFrom (some hash) s).length ≤ s.length ∧
        (Mode.comment.after s = Mode.outside.after (skipFrom (some hash) s) ∨
          skipFrom (some hash) s = [] ∧ Mode.comment.after s = .comment)) := by
    intro s
    induction s with
    | nil => exact ⟨.refl [], fun hash => .inr ⟨Nat.le_refl _, .inr ⟨rfl, rfl⟩⟩⟩
    | cons c s ih =>
        refine ⟨?_, fun hash => ?_⟩
        · rw [skip, skipFrom]
          split
          · next hblank =>
            exact (Remainder.cons (isOuter_of_class (by decide) hblank) s).trans ih.1
          split
          · next hc =>
            subst hc
            rcases ih.2 ('#' :: s) with h | ⟨hlen, hmode⟩
            · rw [h]
              exact .refl _
            · exact ⟨Nat.le_succ_of_le hlen, hmode⟩
          · exact .refl _
        · rcases skipFrom_comment_cons c s with ⟨hread, hmode⟩ | ⟨hread, -⟩ | ⟨hread, hmode⟩
          · have hself := hread hash []
            rw [List.append_nil] at hself
            rw [hself, hmode]
            exact .inr ⟨Nat.le_succ_of_le ih.1.length_le, ih.1.mode⟩
          · exact .inl (hread hash)
          · have hself := hread hash []
            rw [List.append_nil] at hself
            rw [hself, hmode]
            exact (ih.2 hash).imp_right fun h => ⟨Nat.le_succ_of_le h.1, h.2⟩
  exact (hall s).1

/-! String literals -/

/-- The mode of the reader of a string literal. -/
def Quoting.mode (quote : Char) : Quoting → Mode
  | .plain | .code _ => .literal quote
  | .escape => .escape quote

theorem Mode.step_digit {quote c : Char} {base d : Nat} (hquote : quote ∈ quotationMarks)
    (h : Text.digit? base c = some d) : (Mode.literal quote).step c = .literal quote := by
  have hmark : ∀ q ∈ '\\' :: quotationMarks, Text.digit? base q = none := by
    intro q hq
    simp only [quotationMarks, List.mem_cons, List.not_mem_nil, or_false] at hq
    rcases hq with rfl | rfl | rfl | rfl <;> rfl
  have hne : ∀ q ∈ '\\' :: quotationMarks, c ≠ q := by
    rintro q hq rfl
    rw [hmark c hq] at h
    cases h
  rw [Mode.step, if_neg (hne quote (List.mem_cons_of_mem _ hquote)),
    if_neg fun hc => hne '\\' List.mem_cons_self hc.1]

/-- At one character the reader of a literal with escapes closes it, fails, or goes on as the mode
does. -/
theorem quotedFrom_cons {quote : Char} (hquote : quote ∈ quotationMarks) (hraw : quote ≠ '`')
    (q : Quoting) (read : Text) (c : Char) :
    ((q.mode quote).step c = .outside ∧
        ∀ s, quotedFrom quote q read (c :: s) = some (read.reverse, s)) ∨
      (∀ s, quotedFrom quote q read (c :: s) = none) ∨
      ∃ q' read', (q.mode quote).step c = q'.mode quote ∧
        ∀ s, quotedFrom quote q read (c :: s) = quotedFrom quote q' read' s := by
  cases q with
  | plain =>
      by_cases hc : c = quote
      · exact .inl ⟨if_pos hc, fun s => by rw [quotedFrom, if_pos hc]⟩
      by_cases hback : c = '\\'
      · refine .inr (.inr ⟨.escape, read, ?_, fun s => ?_⟩)
        · simp only [Quoting.mode, Mode.step, if_neg hc, if_pos (And.intro hback hraw)]
        · rw [quotedFrom, if_neg hc, if_pos hback]
      by_cases hline : c = '\n'
      · exact .inr (.inl fun s => by rw [quotedFrom, if_neg hc, if_neg hback, if_pos hline])
      · refine .inr (.inr ⟨.plain, c :: read, ?_, fun s => ?_⟩)
        · simp only [Quoting.mode, Mode.step, if_neg hc, hback, false_and, if_false]
        · rw [quotedFrom, if_neg hc, if_neg hback, if_neg hline]
  | escape =>
      cases hsimple : simpleEscape? c with
      | some d =>
          exact .inr (.inr ⟨.plain, d :: read, rfl, fun s => by
            simp only [quotedFrom, hsimple]⟩)
      | none =>
          cases hcode : codeEscape? c with
          | some e =>
              exact .inr (.inr ⟨.code e, read, rfl, fun s => by
                simp only [quotedFrom, hsimple, hcode]⟩)
          | none => exact .inr (.inl fun s => by simp only [quotedFrom, hsimple, hcode])
  | code e =>
      cases hd : Text.digit? e.base c with
      | none => exact .inr (.inl fun s => by simp only [quotedFrom, hd])
      | some d =>
          have hstep := Mode.step_digit hquote hd
          by_cases howed : 0 < e.owed - 1
          · exact .inr (.inr ⟨.code ⟨e.base, e.owed - 1, e.value * e.base + d⟩, read, hstep,
              fun s => by simp only [quotedFrom, hd, if_pos howed]⟩)
          cases hchar : CodeEscape.char? ⟨e.base, e.owed - 1, e.value * e.base + d⟩ with
          | none =>
              exact .inr (.inl fun s => by simp only [quotedFrom, hd, if_neg howed, hchar])
          | some x =>
              exact .inr (.inr ⟨.plain, x :: read, hstep, fun s => by
                simp only [quotedFrom, hd, if_neg howed, hchar]⟩)

section

variable {quote : Char} (hquote : quote ∈ quotationMarks) (hraw : quote ≠ '`')
include hquote hraw

/-- What is left behind a literal with escapes stands behind its closing quote. -/
theorem quotedFrom_remainder {q : Quoting} {read s x r : Text}
    (h : quotedFrom quote q read s = some (x, r)) :
    r.length ≤ s.length ∧ (q.mode quote).after s = Mode.outside.after r := by
  induction s generalizing q read with
  | nil => cases q <;> cases h
  | cons c s ih =>
      rw [Mode.after_cons]
      rcases quotedFrom_cons hquote hraw q read c with ⟨hmode, heq⟩ | heq | ⟨q', read', hmode, heq⟩
      · rw [heq] at h
        cases h
        exact ⟨Nat.le_succ _, by rw [hmode]⟩
      · rw [heq] at h
        cases h
      · rw [heq] at h
        rw [hmode]
        exact ⟨Nat.le_succ_of_le (ih h).1, (ih h).2⟩

/-- A literal with escapes that is closed in its text is read alike whatever follows the text. -/
theorem quotedFrom_append {q : Quoting} {s : Text}
    (hfinal : ((q.mode quote).after s).isFinal = true) (read v : Text) :
    quotedFrom quote q read (s ++ v) =
      (quotedFrom quote q read s).map fun r => (r.1, r.2 ++ v) := by
  induction s generalizing q read with
  | nil => cases q <;> cases hfinal
  | cons c s ih =>
      rw [Mode.after_cons] at hfinal
      rw [List.cons_append]
      rcases quotedFrom_cons hquote hraw q read c with ⟨-, heq⟩ | heq | ⟨q', read', hmode, heq⟩
      · rw [heq, heq, Option.map_some]
      · rw [heq, heq, Option.map_none]
      · rw [heq, heq]
        rw [hmode] at hfinal
        exact ih hfinal read'

end

/-- A literal between backquotes that is closed in its text. -/
theorem exists_backquote {s : Text} (hfinal : ((Mode.literal '`').after s).isFinal = true) :
    ∃ w r, s = w ++ '`' :: r ∧ ∀ c ∈ w, (c != '`') = true := by
  induction s with
  | nil => cases hfinal
  | cons c s ih =>
      by_cases hc : c = '`'
      · exact ⟨[], s, by rw [hc]; rfl, List.forall_mem_nil _⟩
      · rw [Mode.after_cons, Mode.step, if_neg hc, if_neg fun h => h.2 rfl] at hfinal
        obtain ⟨w, r, rfl, hw⟩ := ih hfinal
        exact ⟨c :: w, r, rfl, List.forall_mem_cons.mpr ⟨bne_iff_ne.mpr hc, hw⟩⟩

theorem raw?_backquote {w : Text} (hw : ∀ c ∈ w, (c != '`') = true) (r : Text) :
    raw? (w ++ '`' :: r) = some (w, r) := by
  have hstop : Text.StopsAt (· != '`') ('`' :: r) := .cons rfl
  rw [raw?, Text.dropWhile_append hw hstop, Text.takeWhile_append hw hstop]

theorem after_backquote {w : Text} (hw : ∀ c ∈ w, (c != '`') = true) (r : Text) :
    (Mode.literal '`').after (w ++ '`' :: r) = Mode.outside.after r := by
  induction w with
  | nil => rfl
  | cons c w ih =>
      have hc : c ≠ '`' := bne_iff_ne.mp (hw c List.mem_cons_self)
      rw [List.cons_append, Mode.after_cons, Mode.step, if_neg hc, if_neg fun h => h.2 rfl]
      exact ih fun d hd => hw d (List.mem_cons_of_mem c hd)

theorem raw?_remainder {s x r : Text} (h : raw? s = some (x, r)) :
    r.length ≤ s.length ∧ (Mode.literal '`').after s = Mode.outside.after r := by
  rw [raw?] at h
  split at h
  · next c rest hdrop =>
    cases h
    have hsplit := List.takeWhile_append_dropWhile (p := (· != '`')) (l := s)
    have hstop : (c != '`') = false := Text.stopsAt_dropWhile s c (by rw [hdrop]; rfl)
    have hc : c = '`' := bne_eq_false_iff_eq.mp hstop
    rw [hdrop, hc] at hsplit
    have hw : ∀ c ∈ s.takeWhile (· != '`'), (c != '`') = true := Text.forall_takeWhile s
    rw [← hsplit, after_backquote hw]
    exact ⟨by simp only [List.length_append, List.length_cons]; omega, rfl⟩
  · cases h

theorem stringLiteral?_remainder {s x r : Text} (h : stringLiteral? s = some (x, r)) :
    Remainder s r := by
  have hbegin {quote : Char} {t : Text} (hquote : quote ∈ quotationMarks)
      (h : r.length ≤ t.length ∧ (Mode.literal quote).after t = Mode.outside.after r) :
      Remainder (quote :: t) r := by
    refine ⟨Nat.le_succ_of_le h.1, .inl ?_⟩
    rw [Mode.after_cons, Mode.step, if_pos hquote, h.2]
  unfold stringLiteral? at h
  split at h
  · exact hbegin (by decide) (quotedFrom_remainder (by decide) (by decide) h)
  · exact hbegin (by decide) (quotedFrom_remainder (by decide) (by decide) h)
  · exact hbegin (by decide) (raw?_remainder h)
  · cases h

/-- In a text that ends outside of literals, a literal is read alike whatever follows the text, but
for a literal that begins with what follows. -/
theorem stringLiteral?_append {s v : Text} (hv : ∀ c ∈ v.head?, c ∉ quotationMarks)
    (hfinal : (Mode.outside.after s).isFinal = true) :
    stringLiteral? (s ++ v) = (stringLiteral? s).map fun r => (r.1, r.2 ++ v) := by
  have hnone : ∀ t : Text, (∀ c ∈ t.head?, c ∉ quotationMarks) → stringLiteral? t = none := by
    intro t ht
    unfold stringLiteral?
    split
    · exact absurd (by decide) (ht _ rfl)
    · exact absurd (by decide) (ht _ rfl)
    · exact absurd (by decide) (ht _ rfl)
    · rfl
  cases s with
  | nil => rw [List.nil_append, hnone v hv]; rfl
  | cons c s =>
      by_cases hc : c ∈ quotationMarks
      · rw [Mode.after_cons, Mode.step, if_pos hc] at hfinal
        simp only [quotationMarks, List.mem_cons, List.not_mem_nil, or_false] at hc
        rcases hc with rfl | rfl | rfl
        · exact quotedFrom_append (q := .plain) (by decide) (by decide) hfinal [] v
        · exact quotedFrom_append (q := .plain) (by decide) (by decide) hfinal [] v
        · obtain ⟨w, r, rfl, hw⟩ := exists_backquote hfinal
          have hread : stringLiteral? ('`' :: (w ++ '`' :: (r ++ v))) = some (w, r ++ v) :=
            raw?_backquote hw (r ++ v)
          have hself : stringLiteral? ('`' :: (w ++ '`' :: r)) = some (w, r) := raw?_backquote hw r
          rw [List.cons_append, List.append_assoc, List.cons_append, hread, hself, Option.map_some]
      · have hc' : ∀ d ∈ (c :: s).head?, d ∉ quotationMarks := by
          rintro d ⟨⟩
          exact hc
        rw [hnone (c :: s) hc', hnone (c :: s ++ v) hc']
        rfl

end TenantScope.Query
