/- Words, numbers and durations are read alike in front of a blank or a comment. -/
import TenantScope.Proofs.Query.Modifiers
import TenantScope.Proofs.Query.Remainders
import TenantScope.Proofs.Query.Spacing

namespace TenantScope.Query

/-! Words and numbers in front of a blank or a comment -/

/-- What was read, with a text behind the rest. -/
def lengthen {α : Type} (v : Text) (r : α × Text) : α × Text := (r.1, r.2 ++ v)

theorem map_lengthen_nil {α : Type} (x : Option (α × Text)) : x.map (lengthen []) = x := by
  cases x with
  | none => rfl
  | some r => rw [Option.map_some, lengthen, List.append_nil]

/-- The characters that begin a blank or a comment. -/
def spacingStarts : Text := [' ', '\t', '\n', '\r', '#']

theorem mem_spacingStarts {c : Char} (h : isInk c = false) : c ∈ spacingStarts := by
  simp only [isInk, isBlank, Bool.not_eq_false', Bool.or_eq_true, beq_iff_eq] at h
  simp only [spacingStarts, List.mem_cons, List.not_mem_nil, or_false]
  tauto

theorem digits?_length_lt {base : Nat} {s ds r : Text} (h : digits? base s = some (ds, r)) :
    r.length < s.length := by
  rw [digits?] at h
  split at h
  · cases h
  · next htake =>
    cases h
    have hlength := congrArg List.length
      (List.takeWhile_append_dropWhile (p := Text.isDigitIn base) (l := s))
    have hpos := List.length_pos_iff.mpr htake
    rw [List.length_append] at hlength
    omega

theorem durationPart_length_lt {s : Text} {p : Nat × Text} (h : durationPart s = .ok p) :
    p.2.length < s.length := by
  rw [durationPart] at h
  split at h
  · cases h
  · next ds rest hds =>
    have hdigits := digits?_length_lt hds
    split at h
    · cases h
    · split at h
      · cases h
      · next unit rest' hunit =>
        cases h
        exact Nat.lt_of_le_of_lt (wordOf?_remainder (by decide) hunit).length_le hdigits

section

variable {v : Text} (hv : Text.StopsAt isInk v)
include hv

theorem stopsAt_of_spacing {p : Char → Bool} (hp : ∀ c ∈ spacingStarts, p c = false) :
    Text.StopsAt p v := fun c hc => hp c (mem_spacingStarts (hv c hc))

theorem word?_before {isStart isPart : Char → Bool}
    (hstart : ∀ c ∈ spacingStarts, isStart c = false)
    (hpart : ∀ c ∈ spacingStarts, isPart c = false) (s : Text) :
    word? isStart isPart (s ++ v) = (word? isStart isPart s).map (lengthen v) := by
  cases s with
  | nil =>
      cases v with
      | nil => rfl
      | cons c v =>
          have hc : isStart c = false := stopsAt_of_spacing hv hstart c rfl
          rw [List.nil_append, word?, if_neg (by simp [hc])]
          rfl
  | cons c s =>
      have hstop := stopsAt_of_spacing hv hpart
      rw [List.cons_append, word?, word?, Text.takeWhile_append_stopsAt s hstop,
        Text.dropWhile_append_stopsAt s hstop]
      split <;> rfl

theorem labelName?_before (s : Text) : labelName? (s ++ v) = (labelName? s).map (lengthen v) :=
  word?_before hv (by decide) (by decide) s

theorem metricName?_before (s : Text) : metricName? (s ++ v) = (metricName? s).map (lengthen v) :=
  word?_before hv (by decide) (by decide) s

theorem clauseLabel?_before (s : Text) :
    clauseLabel? (s ++ v) = (clauseLabel? s).map (lengthen v) := by
  rw [clauseLabel?, clauseLabel?, labelName?_before hv]
  cases labelName? s with
  | none => rfl
  | some p =>
      simp only [Option.map_some, Option.filter_some, lengthen]
      split <;> rfl

theorem dropLead?_before {w : Text} (hw : ∀ c ∈ w, isInk c = true) (s : Text) :
    Text.dropLead? w (s ++ v) = (Text.dropLead? w s).map (· ++ v) := by
  induction w generalizing s with
  | nil => rfl
  | cons d w ih =>
      cases s with
      | nil =>
          cases v with
          | nil => rfl
          | cons c v =>
              have hne : c ≠ d := by
                rintro rfl
                have hink := hv c rfl
                rw [hw c List.mem_cons_self] at hink
                cases hink
              simp only [List.nil_append, Text.dropLead?, if_neg hne, Option.map_none]
      | cons c s =>
          rw [List.cons_append, Text.dropLead?, Text.dropLead?]
          split
          · exact ih (fun e he => hw e (.tail d he)) s
          · rfl

theorem dropWord?_before {w : Text} (hw : ∀ c ∈ spacingStarts, ∀ d ∈ w, d ≠ c.toLower) (s : Text) :
    Text.dropWord? w (s ++ v) = (Text.dropWord? w s).map (· ++ v) := by
  cases v with
  | nil => simp only [List.append_nil, Option.map_id']
  | cons c v => exact Text.dropWord?_append (hw c (mem_spacingStarts (hv c rfl)))

theorem dropKeyword?_before {w : Text} (hw : ∀ c ∈ spacingStarts, ∀ d ∈ w, d ≠ c.toLower)
    (s : Text) : Text.dropKeyword? w (s ++ v) = (Text.dropKeyword? w s).map (· ++ v) := by
  cases v with
  | nil => simp only [List.append_nil, Option.map_id']
  | cons c v =>
      have hbound : ∀ c ∈ spacingStarts, Text.isWordChar c = false := by decide
      have hc := mem_spacingStarts (hv c rfl)
      exact Text.dropKeyword?_append (hw c hc) (hbound c hc)

section

variable {α : Type} {text : α → Text} {words : List α}

theorem wordOf?_before (hwords : ∀ w ∈ words, ∀ c ∈ text w, isInk c = true) (s : Text) :
    wordOf? text words (s ++ v) = (wordOf? text words s).map (lengthen v) := by
  induction words with
  | nil => rfl
  | cons w words ih =>
      have hrest := ih fun d hd => hwords d (.tail w hd)
      rw [wordOf?] at hrest ⊢
      rw [wordOf?] at hrest ⊢
      rw [List.findSome?_cons, List.findSome?_cons, hrest,
        dropLead?_before hv (hwords w List.mem_cons_self)]
      cases Text.dropLead? (text w) s <;> rfl

theorem keywordOf?_before (hwords : ∀ c ∈ spacingStarts, ∀ w ∈ words, ∀ d ∈ text w, d ≠ c.toLower)
    (s : Text) : keywordOf? text words (s ++ v) = (keywordOf? text words s).map (lengthen v) := by
  cases v with
  | nil => rw [List.append_nil, map_lengthen_nil]
  | cons c v =>
      have hbound : ∀ c ∈ spacingStarts, Text.isWordChar c = false := by decide
      have hc := mem_spacingStarts (hv c rfl)
      exact keywordOf?_append (hwords c hc) (hbound c hc)

end

theorem groupingMode?_before (s : Text) :
    groupingMode? (s ++ v) = (groupingMode? s).map (lengthen v) := by
  simp only [groupingMode?, List.findSome?_cons, List.findSome?_nil,
    dropWord?_before hv (w := GroupingMode.by.text) (by decide),
    dropWord?_before hv (w := GroupingMode.without.text) (by decide)]
  cases Text.dropWord? GroupingMode.by.text s with
  | some r => rfl
  | none => cases Text.dropWord? GroupingMode.without.text s <;> rfl

theorem binaryOp?_before (s : Text) : binaryOp? (s ++ v) = (binaryOp? s).map (lengthen v) := by
  rw [binaryOp?, wordOf?_before hv (by decide), keywordOf?_before hv (by decide), binaryOp?,
    Option.map_or]

/-! Numbers -/

theorem isDigitIn_before {base : Nat} : Text.StopsAt (Text.isDigitIn base) v := by
  refine stopsAt_of_spacing hv fun c hc => ?_
  simp only [spacingStarts, List.mem_cons, List.not_mem_nil, or_false] at hc
  rcases hc with rfl | rfl | rfl | rfl | rfl <;> rfl

theorem digits?_before (base : Nat) (s : Text) :
    digits? base (s ++ v) = (digits? base s).map (lengthen v) := by
  have hstop : Text.StopsAt (Text.isDigitIn base) v := isDigitIn_before hv
  rw [digits?, digits?, Text.takeWhile_append_stopsAt s hstop,
    Text.dropWhile_append_stopsAt s hstop]
  split <;> rfl

theorem head?_before (marks : List (Option Char)) (hnone : none ∉ marks)
    (hmarks : ∀ c ∈ spacingStarts, some c ∉ marks) (s : Text) :
    (s ++ v).head? ∈ marks ↔ s.head? ∈ marks := by
  cases s with
  | nil =>
      cases v with
      | nil => exact Iff.rfl
      | cons c v =>
          exact iff_of_false (hmarks c (mem_spacingStarts (hv c rfl))) hnone
  | cons c s => exact Iff.rfl

theorem based?_before (letter : Char)
    (hletter : ∀ c ∈ spacingStarts, ∀ d ∈ [letter], d ≠ c.toLower) (base : Nat) (s : Text) :
    based? letter base (s ++ v) = (based? letter base s).map (lengthen v) := by
  rw [based?_eq, based?_eq, dropLead?_before hv (by decide)]
  cases Text.dropLead? ['0'] s with
  | none => rfl
  | some s =>
      simp only [Option.map_some, Option.bind_some, dropWord?_before hv hletter]
      cases Text.dropWord? [letter] s with
      | none => rfl
      | some s =>
          simp only [Option.map_some, Option.bind_some, digits?_before hv]
          cases digits? base s with
          | none => rfl
          | some r =>
              simp only [Option.map_some, Option.bind_some, lengthen]
              split <;> rfl

theorem leadingZero?_before (s : Text) :
    leadingZero? (s ++ v) = (leadingZero? s).map (lengthen v) := by
  rw [leadingZero?_eq, leadingZero?_eq, dropLead?_before hv (by decide)]
  cases Text.dropLead? ['0'] s with
  | none => rfl
  | some s =>
      simp only [Option.map_some, Option.bind_some, digits?_before hv]
      cases digits? 8 s with
      | none => rfl
      | some r =>
          simp only [Option.map_some, Option.bind_some, lengthen,
            head?_before hv [some '.', some 'e', some 'E'] (by decide) (by decide)]
          split
          · rfl
          · split <;> rfl

theorem unsigned_before (s : Text) : unsigned (s ++ v) = lengthen v (unsigned s) := by
  cases s with
  | nil =>
      have hstart : ∀ c ∈ spacingStarts, c ≠ '-' ∧ c ≠ '+' := by decide
      have hsign := unsigned_of_ne fun c hc => hstart c (mem_spacingStarts (hv c hc))
      rw [List.nil_append, hsign]
      rfl
  | cons c s =>
      by_cases hc : c = '-' ∨ c = '+'
      · rcases hc with rfl | rfl <;> rfl
      · have hne : ∀ d ∈ (c :: s).head?, d ≠ '-' ∧ d ≠ '+' := by
          rintro d ⟨⟩
          exact not_or.mp hc
        rw [unsigned_of_ne hne, unsigned_of_ne (s := c :: s ++ v) hne]
        rfl

theorem exponent?_before (s : Text) : exponent? (s ++ v) = (exponent? s).map (lengthen v) := by
  rw [exponent?_eq, exponent?_eq, dropWord?_before hv (by decide)]
  cases Text.dropWord? ['e'] s with
  | none => rfl
  | some s =>
      simp only [Option.map_some, Option.bind_some, unsigned_before hv, lengthen, digits?_before hv]
      cases digits? 10 (unsigned s).2 <;> rfl

theorem fraction_before (s : Text) : fraction (s ++ v) = lengthen v (fraction s) := by
  cases s with
  | nil =>
      have hstart : ∀ c ∈ spacingStarts, c ≠ '.' := by decide
      rw [List.nil_append, fraction_of_ne fun c hc => hstart c (mem_spacingStarts (hv c hc))]
      rfl
  | cons c s =>
      by_cases hc : c = '.'
      · subst hc
        have hstop : Text.StopsAt Char.isDigit v := stopsAt_of_spacing hv (by decide)
        simp only [List.cons_append, fraction, lengthen, Text.takeWhile_append_stopsAt s hstop,
          Text.dropWhile_append_stopsAt s hstop]
      · have hne : ∀ d ∈ (c :: s).head?, d ≠ '.' := by
          rintro d ⟨⟩
          exact hc
        rw [fraction_of_ne hne, fraction_of_ne (s := c :: s ++ v) hne]
        rfl

theorem decimal?_before (s : Text) : decimal? (s ++ v) = (decimal? s).map (lengthen v) := by
  have hstop : Text.StopsAt Char.isDigit v := stopsAt_of_spacing hv (by decide)
  simp only [decimal?_eq, Text.takeWhile_append_stopsAt s hstop,
    Text.dropWhile_append_stopsAt s hstop, fraction_before hv, lengthen, exponent?_before hv]
  split
  · rfl
  · cases exponent? (fraction (s.dropWhile Char.isDigit)).2 <;> rfl

theorem special?_before (s : Text) : special? (s ++ v) = (special? s).map (lengthen v) := by
  simp only [special?, dropKeyword?_before hv (w := "inf".toList) (by decide),
    dropKeyword?_before hv (w := "nan".toList) (by decide), Option.map_or, Option.map_map]
  rfl

theorem number?_before (s : Text) : number? (s ++ v) = (number? s).map (lengthen v) := by
  simp only [number?, special?_before hv, based?_before hv 'x' (by decide),
    based?_before hv 'o' (by decide), leadingZero?_before hv, decimal?_before hv,
    Option.map_or]

theorem signedNumber?_before (s : Text) :
    signedNumber? (s ++ v) = (signedNumber? s).map (lengthen v) := by
  simp only [signedNumber?_eq, unsigned_before hv, lengthen, number?_before hv, Option.map_map]
  rfl

/-! Durations -/

theorem durationPart_before (s : Text) :
    (durationPart (s ++ v)).toOption = (durationPart s).toOption.map (lengthen v) := by
  rw [durationPart, durationPart, digits?_before hv]
  cases digits? 10 s with
  | none => rfl
  | some r =>
      have hunit : wordOf? Prod.fst durationUnits (r.2 ++ v) =
          (wordOf? Prod.fst durationUnits r.2).map (lengthen v) := wordOf?_before hv (by decide) r.2
      simp only [Option.map_some, lengthen, hunit]
      split
      · rfl
      · cases wordOf? Prod.fst durationUnits r.2 <;> rfl

theorem durationParts_before {fuel fuel' : Nat} {s : Text} (hs : s.length ≤ fuel)
    (hfuel : fuel ≤ fuel') : durationParts fuel' (s ++ v) = lengthen v (durationParts fuel s) := by
  have hends : EndsDuration v := stopsAt_of_spacing hv (by decide)
  induction fuel generalizing s fuel' with
  | zero =>
      rw [List.eq_nil_of_length_eq_zero (Nat.le_zero.mp hs)]
      exact durationParts_of_ends hends fuel'
  | succ fuel ih =>
      obtain ⟨fuel', rfl⟩ := Nat.exists_eq_add_one_of_ne_zero (Nat.ne_zero_of_lt hfuel)
      have hpart := durationPart_before hv s
      rw [durationParts, durationParts]
      cases hread : durationPart s with
      | error f =>
          rw [hread] at hpart
          obtain ⟨f', hread'⟩ := exists_error_of_toOption hpart
          rw [hread']
          rfl
      | ok p =>
          rw [hread] at hpart
          have hlength := durationPart_length_lt hread
          have hrest : durationParts fuel' (p.2 ++ v) = lengthen v (durationParts fuel p.2) :=
            ih (by omega) (Nat.le_of_succ_le_succ hfuel)
          simp only [eq_ok_of_toOption hpart, lengthen, hrest]

theorem duration_before (s : Text) :
    (duration (s ++ v)).toOption = (duration s).toOption.map (lengthen v) := by
  have hpart := durationPart_before hv s
  rw [duration, duration]
  cases hread : durationPart s with
  | error f =>
      rw [hread] at hpart
      obtain ⟨f', hread'⟩ := exists_error_of_toOption hpart
      rw [hread']
      rfl
  | ok p =>
      rw [hread] at hpart
      have hmore := durationParts_before hv (Nat.le_refl p.2.length)
        (Nat.le_trans (Nat.le_add_right _ v.length) (Nat.le_of_eq List.length_append.symm))
      simp only [eq_ok_of_toOption hpart, lengthen, bind, Except.bind, hmore]
      split <;> rfl

theorem signedDuration?_before (s : Text) :
    signedDuration? (s ++ v) = (signedDuration? s).map (lengthen v) := by
  simp only [signedDuration?_eq, unsigned_before hv, lengthen, duration_before hv, Option.map_map]
  rfl

end

end TenantScope.Query
