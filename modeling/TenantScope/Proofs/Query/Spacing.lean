/- Texts of blanks and comments, and what they make of the text in front of them and behind them. -/
import TenantScope.Proofs.Query.Modes

namespace TenantScope.Query

/-! Blanks and comments -/

/-- The characters of which line ends are made. -/
def isLineBreak (c : Char) : Bool := c == '\n' || c == '\r'

/-- The ends of lines. -/
def lineEnds : List Text := [['\n'], ['\r', '\n']]

/-- The texts made of blanks and of comments with the ends of their lines. -/
inductive Spacing : Text → Prop
  | nil : Spacing []
  | blank {c : Char} {s : Text} : isBlank c = true → Spacing s → Spacing (c :: s)
  | comment {w lineEnd s : Text} :
      (∀ c ∈ w, isLineBreak c = false) → lineEnd ∈ lineEnds → Spacing s →
      Spacing ('#' :: (w ++ (lineEnd ++ s)))

/-- The texts made of blanks and comments, of which the last one may lack the end of its line. -/
inductive Trailing : Text → Prop
  | ended {v : Text} : Spacing v → Trailing v
  | unended {v w : Text} :
      Spacing v → (∀ c ∈ w, isLineBreak c = false) → Trailing (v ++ '#' :: w)

/-- Whether the first line break of a text is a carriage return without a line feed. -/
def breaksBare : Text → Bool
  | [] => false
  | c :: s =>
    if c = '\n' then false else if c = '\r' then s.head? ≠ some '\n' else breaksBare s

variable {s t u v w : Text}

theorem not_isLineBreak {c : Char} (h : isLineBreak c = false) : c ≠ '\n' ∧ c ≠ '\r' := by
  simpa only [isLineBreak, Bool.or_eq_false_iff, beq_eq_false_iff_ne] using h

theorem skipFrom_line (hw : ∀ c ∈ w, isLineBreak c = false) (hash s : Text) :
    skipFrom (some hash) (w ++ s) = skipFrom (some hash) s := by
  induction w with
  | nil => rfl
  | cons c w ih =>
      obtain ⟨hline, hreturn⟩ := not_isLineBreak (hw c List.mem_cons_self)
      rw [List.cons_append, skipFrom, if_neg hline, if_neg hreturn]
      exact ih fun d hd => hw d (List.mem_cons_of_mem c hd)

/-- A line without its end is a comment to the end of the text. -/
theorem skipFrom_lastLine (hw : ∀ c ∈ w, isLineBreak c = false) (hash : Text) :
    skipFrom (some hash) w = [] := by
  have h := skipFrom_line hw hash []
  rwa [List.append_nil] at h

theorem skipFrom_lineEnd {lineEnd : Text} (h : lineEnd ∈ lineEnds) (hash s : Text) :
    skipFrom (some hash) (lineEnd ++ s) = skip s := by
  simp only [lineEnds, List.mem_cons, List.not_mem_nil, or_false] at h
  rcases h with rfl | rfl <;> rfl

/-- Blanks and whole comments in front of a text are passed over. -/
theorem Spacing.skip_append (hu : Spacing u) (s : Text) : skip (u ++ s) = skip s := by
  induction hu with
  | nil => rfl
  | @blank c u hc _ ih =>
      rw [List.cons_append, skip, skipFrom, if_pos hc]
      exact ih
  | @comment w lineEnd u hw hend _ ih =>
      have hfront : skip ('#' :: (w ++ (lineEnd ++ u)) ++ s) =
          skipFrom (some ('#' :: (w ++ (lineEnd ++ u)) ++ s)) (w ++ (lineEnd ++ (u ++ s))) := by
        simp only [List.cons_append, List.append_assoc]
        rfl
      rw [hfront, skipFrom_line hw, skipFrom_lineEnd hend, ih]

theorem Mode.after_line (hw : ∀ c ∈ w, isLineBreak c = false) :
    Mode.comment.after w = .comment := by
  induction w with
  | nil => rfl
  | cons c w ih =>
      obtain ⟨hline, hreturn⟩ := not_isLineBreak (hw c List.mem_cons_self)
      rw [Mode.after_cons, Mode.step, if_neg hline, if_neg hreturn]
      exact ih fun d hd => hw d (List.mem_cons_of_mem c hd)

theorem Spacing.after_outside (hu : Spacing u) : Mode.outside.after u = .outside := by
  induction hu with
  | nil => rfl
  | blank hc _ ih =>
      rw [Mode.after_cons, Mode.step_of_isOuter (isOuter_of_class (by decide) hc), ih]
  | @comment w lineEnd u hw hend _ ih =>
      have hline : Mode.comment.after lineEnd = .outside := by
        simp only [lineEnds, List.mem_cons, List.not_mem_nil, or_false] at hend
        rcases hend with rfl | rfl <;> rfl
      have hfront : Mode.outside.after ('#' :: (w ++ (lineEnd ++ u))) =
          Mode.comment.after (w ++ (lineEnd ++ u)) := rfl
      rw [hfront, Mode.after_append, Mode.after_line hw, Mode.after_append, hline, ih]

/-- Where a comment meets a bare carriage return first, nothing that follows mends it. -/
theorem Mode.after_of_breaksBare (h : breaksBare v = true) :
    (Mode.comment.after v).isFinal = false := by
  induction v with
  | nil => cases h
  | cons c v ih =>
      rw [breaksBare] at h
      split at h
      · cases h
      split at h
      · next hc =>
        subst hc
        cases v with
        | nil => rfl
        | cons d v =>
            have hd : d ≠ '\n' := by simpa using h
            rw [Mode.after_bareReturn hd]
            rfl
      · next hline hreturn =>
        rw [Mode.after_cons, Mode.step, if_neg hline, if_neg hreturn]
        exact ih h

/-! Trailing blanks and comments -/

theorem Trailing.skip_eq_nil (hv : Trailing v) : skip v = [] := by
  cases hv with
  | ended hv =>
      have h := hv.skip_append []
      rwa [List.append_nil] at h
  | @unended v w hv hw =>
      rw [hv.skip_append]
      exact skipFrom_lastLine hw ('#' :: w)

/-- They begin with no character of a word. -/
theorem Trailing.stopsAt (hv : Trailing v) : Text.StopsAt isInk v := by
  have hspacing : ∀ {p w : Text}, Spacing p → Text.StopsAt isInk w →
      Text.StopsAt isInk (p ++ w) := by
    intro p w hp hw
    cases hp with
    | nil => exact hw
    | blank hc _ => exact .cons (by rw [isInk, hc, Bool.true_or]; rfl)
    | comment _ _ _ => exact .cons (by decide)
  cases hv with
  | ended hv =>
      have h := hspacing hv .nil
      rwa [List.append_nil] at h
  | unended hv _ => exact hspacing hv (.cons (by decide))

/-- Behind an open comment, the rest of its line belongs to it and what follows is passed over,
unless the comment meets a bare carriage return. -/
theorem Spacing.skipFrom_append (hu : Spacing u) {hash : Text} (hskip : skip w = [])
    (hopen : skipFrom (some hash) w = []) (hbare : breaksBare (u ++ w) = false) :
    skipFrom (some hash) (u ++ w) = [] := by
  induction hu with
  | nil => exact hopen
  | @blank c u hc hu ih =>
      have hrest : skip (u ++ w) = [] := (hu.skip_append w).trans hskip
      rw [List.cons_append, breaksBare] at hbare
      rw [List.cons_append, skipFrom]
      split
      · exact hrest
      · next hline =>
        rw [if_neg hline] at hbare
        split
        · next hreturn =>
          rw [if_pos hreturn] at hbare
          rw [if_pos (not_not.mp (of_decide_eq_false hbare))]
          exact hrest
        · next hreturn =>
          rw [if_neg hreturn] at hbare
          exact ih hbare
  | @comment x lineEnd u hx hend hu _ =>
      have hfront : '#' :: (x ++ (lineEnd ++ u)) ++ w = '#' :: x ++ (lineEnd ++ (u ++ w)) := by
        simp only [List.cons_append, List.append_assoc]
      have hline : ∀ c ∈ '#' :: x, isLineBreak c = false := List.forall_mem_cons.mpr ⟨rfl, hx⟩
      rw [hfront, skipFrom_line hline, skipFrom_lineEnd hend, hu.skip_append, hskip]

theorem Trailing.skipFrom_eq_nil (hv : Trailing v) (hbare : breaksBare v = false) (hash : Text) :
    skipFrom (some hash) v = [] := by
  cases hv with
  | ended hv =>
      rw [← List.append_nil v] at hbare ⊢
      exact hv.skipFrom_append rfl rfl hbare
  | @unended p w hp hw =>
      have hline : ∀ c ∈ '#' :: w, isLineBreak c = false := List.forall_mem_cons.mpr ⟨rfl, hw⟩
      have hopen := skipFrom_lastLine hline hash
      exact hp.skipFrom_append (skipFrom_lastLine hw ('#' :: w)) hopen hbare

end TenantScope.Query
