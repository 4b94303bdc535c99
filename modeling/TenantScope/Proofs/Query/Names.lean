/- Names that stand bare in a query and are read as names. -/
import TenantScope.Proofs.Query.Blank
import TenantScope.Query.Reader

namespace TenantScope.Query

/-- The aggregation operator that the label name at the front of a text names. -/
def aggregate? (s : Text) : Option AggregateOp := (labelName? s).bind fun r =>
  AggregateOp.ofText? r.1

/-- Whether a name is one whole metric name that begins neither with the word of a number nor with
an aggregation operator. -/
def isBareName (n : Text) : Bool :=
  metricName? n = some (n, []) && (special? n).isNone && (aggregate? n).isNone

theorem isBareName_iff {n : Text} :
    isBareName n = true ↔
      metricName? n = some (n, []) ∧ special? n = none ∧ aggregate? n = none := by
  simp only [isBareName, Bool.and_eq_true, decide_eq_true_eq, Option.isNone_iff_eq_none, and_assoc]

/-! Characters of names -/

theorem isMetricStart_toNat {c : Char} (h : isMetricStart c = true) :
    (65 ≤ c.toNat ∧ c.toNat ≤ 90) ∨ (97 ≤ c.toNat ∧ c.toNat ≤ 122) ∨ c.toNat = 95 ∨
      c.toNat = 58 := by
  simp only [isMetricStart, isLabelStart, Bool.or_eq_true, Text.isAlpha_iff_toNat,
    beq_iff_eq] at h
  rcases h with ((h | h) | rfl) | rfl
  · exact .inl h
  · exact .inr (.inl h)
  · exact .inr (.inr (.inl rfl))
  · exact .inr (.inr (.inr rfl))

theorem isMetricStart_of_isLabelStart {c : Char} (h : isLabelStart c = true) :
    isMetricStart c = true := by
  rw [isMetricStart, h, Bool.true_or]

theorem ne_of_isMetricStart {c d : Char} (h : isMetricStart c = true)
    (hd : isMetricStart d = false) : c ≠ d := by
  rintro rfl
  rw [h] at hd
  cases hd

theorem isMetricChar_of_isMetricStart {c : Char} (h : isMetricStart c = true) :
    isMetricChar c = true := by
  simp only [isMetricStart, isLabelStart, isMetricChar, isLabelChar, Char.isAlphanum,
    Bool.or_eq_true] at h ⊢
  rcases h with (h | h) | h
  · exact .inl (.inl (.inl h))
  · exact .inl (.inr h)
  · exact .inr h

theorem isInk_of_isMetricChar {c : Char} (h : isMetricChar c = true) : isInk c = true := by
  simp only [isInk, isBlank, Bool.not_eq_true', Bool.or_eq_false_iff, beq_eq_false_iff_ne]
  refine ⟨⟨⟨⟨?_, ?_⟩, ?_⟩, ?_⟩, ?_⟩ <;> rintro rfl <;> cases h

theorem isMetricChar_of_mem {n : Text} (hn : metricName? n = some (n, [])) :
    ∀ c ∈ n, isMetricChar c = true := by
  obtain ⟨c, t, rfl, hc, ht⟩ := word?_cons hn
  exact List.forall_mem_cons.mpr ⟨isMetricChar_of_isMetricStart hc, ht⟩

theorem isInk_of_isMetricStart {c : Char} (h : isMetricStart c = true) : isInk c = true :=
  isInk_of_isMetricChar (isMetricChar_of_isMetricStart h)

theorem isDigit_eq_false_of_isMetricStart {c : Char} (h : isMetricStart c = true) :
    c.isDigit = false := by
  have hc := isMetricStart_toNat h
  rw [← Bool.not_eq_true, Char.isDigit_iff_toNat]
  have hzero : '0'.toNat = 48 := rfl
  have hnine : '9'.toNat = 57 := rfl
  omega

theorem isMetricChar_of_isLabelChar {c : Char} (h : isLabelChar c = true) :
    isMetricChar c = true := by
  rw [isMetricChar, h, Bool.true_or]

/-! Tame names -/

/-- The characters that may follow a name in a query, other than those of names. -/
def nameFollowers : Text :=
  [' ', '\t', '\n', '\r', '#', '{', '(', '[', ',', ')', '@', '+', '-', '*', '/', '%', '^', '=',
    '!', '<', '>']

/-- The characters at which a name breaks off: behind a label, nothing goes on with one of them. -/
def isBreak (c : Char) : Bool := !(isLabelChar c || nameFollowers.contains c)

/-- The characters with which tame names begin. -/
def isTameStart (c : Char) : Bool :=
  isMetricStart c || isBreak c && !(['"', '\'', '`', '.'].contains c)

/-- Whether a name is a metric name or breaks off where it ceases to be one, so that it cannot join
in the query around it. -/
def isTame (n : Text) : Bool :=
  n.head?.any isTameStart && (n.dropWhile isMetricChar).head?.all isBreak

theorem ne_of_isBreak {c d : Char} (h : isBreak c = true) (hd : isBreak d = false) : c ≠ d := by
  rintro rfl
  rw [h] at hd
  cases hd

theorem isInk_of_isBreak {c : Char} (h : isBreak c = true) : isInk c = true := by
  have hne := fun d => ne_of_isBreak (d := d) h
  simp only [isInk, isBlank, Bool.not_eq_true', Bool.or_eq_false_iff, beq_eq_false_iff_ne]
  exact ⟨⟨⟨⟨hne _ (by decide), hne _ (by decide)⟩, hne _ (by decide)⟩, hne _ (by decide)⟩,
    hne _ (by decide)⟩

theorem toLower_of_not_isAlpha {c : Char} (h : c.isAlpha = false) : c.toLower = c :=
  Text.toLower_of_not_isUpper (Bool.or_eq_false_iff.mp h).1

theorem isMetricChar_of_toLower {c : Char} (h : isMetricChar c.toLower = true) :
    isMetricChar c = true := by
  cases hc : c.isAlpha with
  | true => rw [isMetricChar, isLabelChar, Char.isAlphanum, hc]; rfl
  | false => rwa [toLower_of_not_isAlpha hc] at h

theorem toLower_ne_of_isBreak {c d : Char} (h : isBreak c = true) (hd : d.isAlpha = true) :
    c.toLower ≠ d := by
  have hc : c.isAlpha = false := by
    rw [isBreak, Bool.not_eq_true', Bool.or_eq_false_iff, isLabelChar, Bool.or_eq_false_iff,
      Char.isAlphanum, Bool.or_eq_false_iff] at h
    exact h.1.1.1
  rw [toLower_of_not_isAlpha hc]
  rintro rfl
  rw [hd] at hc
  cases hc

theorem isTame_cons {n : Text} (h : isTame n = true) :
    ∃ c t, n = c :: t ∧ isTameStart c = true := by
  cases n with
  | nil => cases h
  | cons c t => exact ⟨c, t, rfl, (Bool.and_eq_true_iff.mp h).1⟩

theorem isTame_of_metricName? {n : Text} (h : metricName? n = some (n, [])) : isTame n = true := by
  have hall := isMetricChar_of_mem h
  obtain ⟨c, t, rfl, hc, -⟩ := word?_cons h
  have hdrop : (c :: t).dropWhile isMetricChar = [] := by
    have := Text.dropWhile_append hall .nil
    rwa [List.append_nil] at this
  rw [isTame, hdrop, List.head?_cons, Option.any_some, isTameStart, hc]
  rfl

/-- Behind characters of a metric name, a tame name breaks off where a label ends. -/
theorem isBreak_of_isTame {v r : Text} {b : Char} (h : isTame (v ++ b :: r) = true)
    (hv : ∀ c ∈ v, isMetricChar c = true) (hb : isLabelChar b = false) : isBreak b = true := by
  by_cases hmetric : isMetricChar b = true
  · rw [isMetricChar, hb, Bool.false_or, beq_iff_eq] at hmetric
    rw [hmetric]
    decide
  · have hstop : Text.StopsAt isMetricChar (b :: r) := .cons (Bool.not_eq_true _ ▸ hmetric)
    have hall := (Bool.and_eq_true_iff.mp h).2
    rw [Text.dropWhile_append hv hstop] at hall
    exact hall

theorem isInk_of_isTameStart {c : Char} (h : isTameStart c = true) : isInk c = true := by
  rcases Bool.or_eq_true_iff.mp h with h | h
  · exact isInk_of_isMetricStart h
  · exact isInk_of_isBreak (Bool.and_eq_true_iff.mp h).1

theorem ne_of_isTameStart {c d : Char} (h : isTameStart c = true) (hd : isTameStart d = false) :
    c ≠ d := by
  rintro rfl
  rw [h] at hd
  cases hd

theorem isTameStart_of_isMetricStart {c : Char} (h : isMetricStart c = true) :
    isTameStart c = true := by
  rw [isTameStart, h, Bool.true_or]

theorem isDigit_eq_false_of_isTameStart {c : Char} (h : isTameStart c = true) :
    c.isDigit = false := by
  rcases Bool.or_eq_true_iff.mp h with h | h
  · exact isDigit_eq_false_of_isMetricStart h
  · have hbreak := (Bool.and_eq_true_iff.mp h).1
    rw [isBreak, Bool.not_eq_true', Bool.or_eq_false_iff, isLabelChar, Bool.or_eq_false_iff,
      Char.isAlphanum, Bool.or_eq_false_iff] at hbreak
    exact hbreak.1.1.2

/-! What follows a name -/

/-- The characters that stand right behind a name with matchers or arguments. -/
def nameEnds : Text := ['{', '(', ' ', '\t', '\n', '\r', '#']

/-- A name in front of a parenthesis, with blanks or comments between them. -/
theorem exists_nameEnds_of_head?_skip {s : Text} (h : (skip s).head? = some '(') :
    ∃ c t, s = c :: t ∧ c ∈ nameEnds := by
  cases s with
  | nil => cases h
  | cons c s =>
      refine ⟨c, s, rfl, ?_⟩
      by_cases hc : isInk c = true
      · rw [skip_of_isInk hc] at h
        rw [Option.some.inj h]
        decide
      · simp only [isInk, isBlank, Bool.not_eq_true', Bool.not_eq_false, Bool.or_eq_true,
          beq_iff_eq] at hc
        rcases hc with (((rfl | rfl) | rfl) | rfl) | rfl <;> decide

theorem dropKeyword?_suffix {w s r : Text} (h : Text.dropKeyword? w s = some r) :
    ∃ v, s = v ++ r ∧ v.map Char.toLower = w := by
  have hword := (Option.filter_eq_some_iff.mp h).1
  clear h
  induction w generalizing s with
  | nil => exact ⟨[], Option.some.inj hword, rfl⟩
  | cons d w ih =>
      cases s with
      | nil => cases hword
      | cons c s =>
          rw [Text.dropWord?] at hword
          split at hword
          · next hc =>
            obtain ⟨v, hv, hw⟩ := ih hword
            exact ⟨c :: v, by rw [hv]; rfl, by rw [List.map_cons, hc, hw]⟩
          · cases hword

theorem isLabelChar_eq_false_of_atBoundary {c : Char} {r : Text}
    (h : Text.atBoundary (c :: r) = true) : isLabelChar c = false := by
  rw [Text.atBoundary, Bool.not_eq_true'] at h
  have hunderscore : c ≠ '_' := by rintro rfl; revert h; decide
  have halphanum : c.isAlphanum = false := by
    rw [← Bool.not_eq_true]
    intro hc
    rw [Text.isWordChar_of_isAlphanum hc] at h
    cases h
  rw [isLabelChar, halphanum, Bool.false_or]
  exact beq_eq_false_iff_ne.mpr hunderscore

/-- Behind a keyword in front of it, a tame name breaks off. -/
theorem isBreak_of_dropKeyword? {w n r : Text} {b : Char} (hn : isTame n = true)
    (hw : ∀ d ∈ w, isMetricChar d = true) (h : Text.dropKeyword? w n = some (b :: r)) :
    isBreak b = true := by
  obtain ⟨v, rfl, rfl⟩ := dropKeyword?_suffix h
  refine isBreak_of_isTame hn (fun c hc => ?_)
    (isLabelChar_eq_false_of_atBoundary (Option.filter_eq_some_iff.mp h).2)
  exact isMetricChar_of_toLower (hw _ (List.mem_map_of_mem hc))

/-- Behind a label in front of it, a tame name breaks off. -/
theorem isBreak_of_labelName? {n l r : Text} {b : Char} (hn : isTame n = true)
    (h : labelName? n = some (l, b :: r)) : isBreak b = true := by
  obtain ⟨rfl, hself, hstop⟩ := word?_eq_some h
  obtain ⟨c, t, rfl, hc, ht⟩ := word?_cons hself
  refine isBreak_of_isTame hn (List.forall_mem_cons.mpr ⟨?_, ?_⟩) (hstop b rfl)
  · exact isMetricChar_of_isMetricStart (isMetricStart_of_isLabelStart hc)
  · exact fun d hd => isMetricChar_of_isLabelChar (ht d hd)

theorem word?_append_cons {isStart isPart : Char → Bool} {n : Text} (hn : n ≠ []) {c : Char}
    (hc : isPart c = false) (s : Text) :
    word? isStart isPart (n ++ c :: s) =
      (word? isStart isPart n).map fun r => (r.1, r.2 ++ c :: s) := by
  have hstop : Text.StopsAt isPart (c :: s) := .cons hc
  cases n with
  | nil => exact absurd rfl hn
  | cons d n =>
      simp only [word?, List.cons_append, Text.takeWhile_append_stopsAt n hstop,
        Text.dropWhile_append_stopsAt n hstop]
      split <;> rfl

theorem metricName?_append {n s : Text} {c : Char} (hn : n ≠ []) (hc : c ∈ nameEnds) :
    metricName? (n ++ c :: s) = (metricName? n).map fun r => (r.1, r.2 ++ c :: s) := by
  have hall : ∀ d ∈ nameEnds, isMetricChar d = false := by decide
  exact word?_append_cons hn (hall c hc) s

theorem special?_append {n s : Text} {c : Char} (hc : c ∈ nameEnds) :
    special? (n ++ c :: s) = (special? n).map fun r => (r.1, r.2 ++ c :: s) := by
  have hword : ∀ d ∈ nameEnds, Text.isWordChar d = false := by decide
  have hinf : ∀ e ∈ nameEnds, ∀ d ∈ "inf".toList, d ≠ e.toLower := by decide
  have hnan : ∀ e ∈ nameEnds, ∀ d ∈ "nan".toList, d ≠ e.toLower := by decide
  rw [special?, Text.dropKeyword?_append (hinf c hc) (hword c hc),
    Text.dropKeyword?_append (hnan c hc) (hword c hc), special?]
  cases Text.dropKeyword? "inf".toList n with
  | none => cases Text.dropKeyword? "nan".toList n <;> rfl
  | some r => rfl

theorem labelName?_append {n s : Text} {c : Char} (hn : n ≠ []) (hc : c ∈ nameEnds) :
    labelName? (n ++ c :: s) = (labelName? n).map fun r => (r.1, r.2 ++ c :: s) := by
  have hall : ∀ d ∈ nameEnds, isLabelChar d = false := by decide
  exact word?_append_cons hn (hall c hc) s

theorem aggregate?_append {n s : Text} {c : Char} (hn : n ≠ []) (hc : c ∈ nameEnds) :
    aggregate? (n ++ c :: s) = aggregate? n := by
  rw [aggregate?, labelName?_append hn hc, aggregate?]
  cases labelName? n <;> rfl

/-- In front of a tame name, only the words for infinity and for what is not a number are read as a
number. -/
theorem number?_of_isTameStart {c : Char} (hc : isTameStart c = true) (s : Text) :
    number? (c :: s) = special? (c :: s) := by
  have hzero : c ≠ '0' := ne_of_isTameStart hc (by decide)
  have hpoint : c ≠ '.' := ne_of_isTameStart hc (by decide)
  have hdigit := isDigit_eq_false_of_isTameStart hc
  have hbased : ∀ letter base, based? letter base (c :: s) = none := by
    intro letter base
    unfold based?
    split
    · next heq => exact absurd (List.cons.inj heq).1 hzero
    · rfl
  have hleading : leadingZero? (c :: s) = none := by
    unfold leadingZero?
    split
    · next heq => exact absurd (List.cons.inj heq).1 hzero
    · rfl
  have hdecimal : decimal? (c :: s) = none := by
    have htake : (c :: s).takeWhile Char.isDigit = [] :=
      Text.StopsAt.takeWhile (.cons hdigit)
    have hdrop : (c :: s).dropWhile Char.isDigit = c :: s :=
      Text.StopsAt.dropWhile (.cons hdigit)
    have hfront : ∀ t, c :: s ≠ '.' :: t := fun t h => hpoint (List.cons.inj h).1
    simp only [decimal?, htake, hdrop, List.append_nil, if_true]
  rw [number?, hbased, hbased, hleading, hdecimal]
  cases special? (c :: s) <;> rfl

theorem stringLiteral?_of_isTameStart {c : Char} (hc : isTameStart c = true) (s : Text) :
    stringLiteral? (c :: s) = none := by
  rw [stringLiteral?]
  · exact fun t h => ne_of_isTameStart hc (by decide) (List.cons.inj h).1
  · exact fun t h => ne_of_isTameStart hc (by decide) (List.cons.inj h).1
  · exact fun t h => ne_of_isTameStart hc (by decide) (List.cons.inj h).1

/-- What begins like a tame name is an operand by number or by name. -/
theorem primary_of_isTameStart {c : Char} (hc : isTameStart c = true) (fuel : Nat)
    (expr : Reader Expr) (s : Text) :
    primary fuel expr (c :: s) =
      match special? (c :: s) with
      | some (x, rest) => .ok (.number x, rest)
      | none => namedOperand fuel expr (c :: s) := by
  rw [primary]
  · rw [number?_of_isTameStart hc, stringLiteral?_of_isTameStart hc]
    cases special? (c :: s) <;> rfl
  · exact fun t h => ne_of_isTameStart hc (by decide) (List.cons.inj h).1
  · exact fun t h => ne_of_isTameStart hc (by decide) (List.cons.inj h).1

theorem primary_of_isMetricStart {c : Char} (hc : isMetricStart c = true) (fuel : Nat)
    (expr : Reader Expr) (s : Text) :
    primary fuel expr (c :: s) =
      match special? (c :: s) with
      | some (x, rest) => .ok (.number x, rest)
      | none => namedOperand fuel expr (c :: s) :=
  primary_of_isTameStart (isTameStart_of_isMetricStart hc) fuel expr s

theorem namedOperand_of_aggregate {fuel : Nat} {expr : Reader Expr} {s word rest : Text}
    {op : AggregateOp} (hword : labelName? s = some (word, rest))
    (hop : AggregateOp.ofText? word = some op) :
    namedOperand fuel expr s = aggregationTail expr op rest := by
  simp only [namedOperand, hword, Option.bind_eq_bind, Option.bind_some, hop, pure]

/-- What begins with no aggregation operator is a call or a selector by its name. -/
theorem namedOperand_of_aggregate?_eq_none {fuel : Nat} {expr : Reader Expr} {s : Text}
    (hop : aggregate? s = none) :
    namedOperand fuel expr s =
      match metricName? s with
      | some (name, rest) =>
        if (skip rest).head? = some '(' then callTail fuel expr name (skip rest)
        else namedSelector name (skip rest)
      | none => .error ⟨s, .name⟩ := by
  rw [aggregate?, Option.bind_eq_none_iff] at hop
  cases hword : labelName? s with
  | none =>
      simp only [namedOperand, hword, Option.bind_eq_bind, Option.bind_none]
      cases metricName? s <;> rfl
  | some r =>
      have := hop r hword
      simp only [namedOperand, hword, Option.bind_eq_bind, Option.bind_some, this,
        Option.bind_none]
      cases metricName? s <;> rfl

theorem namedOperand_of_name {fuel : Nat} {expr : Reader Expr} {s name rest : Text}
    (hop : aggregate? s = none) (hname : metricName? s = some (name, rest)) :
    namedOperand fuel expr s =
      if (skip rest).head? = some '(' then callTail fuel expr name (skip rest)
      else namedSelector name (skip rest) := by
  rw [namedOperand_of_aggregate?_eq_none hop, hname]

theorem namedOperand_of_noName {fuel : Nat} {expr : Reader Expr} {s : Text}
    (hop : aggregate? s = none) (hname : metricName? s = none) :
    namedOperand fuel expr s = .error ⟨s, .name⟩ := by
  rw [namedOperand_of_aggregate?_eq_none hop, hname]

/-- A bare name in front of matchers or arguments is read as a name. -/
theorem primary_of_isBareName {fuel : Nat} {expr : Reader Expr} {n s : Text} {c : Char}
    (hn : isBareName n = true) (hc : c ∈ nameEnds) :
    primary fuel expr (n ++ c :: s) =
      if (skip (c :: s)).head? = some '(' then callTail fuel expr n (skip (c :: s))
      else namedSelector n (skip (c :: s)) := by
  obtain ⟨hmetric, hspecial, haggregate⟩ := isBareName_iff.mp hn
  obtain ⟨d, t, rfl, hd, -⟩ := word?_cons hmetric
  have hspecial' := special?_append (n := d :: t) (s := s) hc
  have haggregate' := aggregate?_append (s := s) (List.cons_ne_nil d t) hc
  rw [hspecial, Option.map_none] at hspecial'
  rw [haggregate] at haggregate'
  have hname := metricName?_append (s := s) (List.cons_ne_nil d t) hc
  rw [hmetric, Option.map_some, List.nil_append] at hname
  rw [List.cons_append] at hspecial' haggregate' hname ⊢
  rw [primary_of_isMetricStart hd, hspecial']
  exact namedOperand_of_name haggregate' hname

end TenantScope.Query
