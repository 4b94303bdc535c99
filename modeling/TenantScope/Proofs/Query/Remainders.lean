/- Every reader leaves its text behind whole words, literals and comments. -/
import TenantScope.Proofs.Query.Grammar
import TenantScope.Proofs.Query.Modes

namespace TenantScope.Query

/-! Names and words -/

theorem word?_remainder {isStart isPart : Char → Bool}
    (hstart : ∀ c ∈ '#' :: quotationMarks, isStart c = false)
    (hpart : ∀ c ∈ '#' :: quotationMarks, isPart c = false) {s n r : Text}
    (h : word? isStart isPart s = some (n, r)) : Remainder s r := by
  cases s with
  | nil => cases h
  | cons c s =>
      rw [word?] at h
      split at h
      · next hc =>
        cases h
        exact (Remainder.cons (isOuter_of_class hstart hc) s).trans (.dropWhile hpart s)
      · cases h

theorem labelName?_remainder {s n r : Text} (h : labelName? s = some (n, r)) : Remainder s r :=
  word?_remainder (by decide) (by decide) h

theorem metricName?_remainder {s n r : Text} (h : metricName? s = some (n, r)) : Remainder s r :=
  word?_remainder (by decide) (by decide) h

theorem clauseLabel?_remainder {s n r : Text} (h : clauseLabel? s = some (n, r)) : Remainder s r :=
  labelName?_remainder (Option.filter_eq_some_iff.mp h).1

theorem dropLead?_remainder {w s r : Text} (hw : ∀ c ∈ w, isOuter c = true)
    (h : Text.dropLead? w s = some r) : Remainder s r := by
  rw [Text.dropLead?_eq_some h]
  exact .append hw r

theorem dropWord?_remainder {w s r : Text} (hw : ∀ c ∈ w, isOuter c = true)
    (h : Text.dropWord? w s = some r) : Remainder s r := by
  induction w generalizing s with
  | nil =>
      cases h
      exact .refl _
  | cons d w ih =>
      cases s with
      | nil => cases h
      | cons c s =>
          rw [Text.dropWord?] at h
          split at h
          · next hc =>
            have houter := isOuter_of_toLower (hc ▸ hw d List.mem_cons_self)
            exact (Remainder.cons houter s).trans (ih (fun e he => hw e (.tail d he)) h)
          · cases h

theorem dropKeyword?_remainder {w s r : Text} (hw : ∀ c ∈ w, isOuter c = true)
    (h : Text.dropKeyword? w s = some r) : Remainder s r :=
  dropWord?_remainder hw (Option.filter_eq_some_iff.mp h).1

section

variable {α : Type} {text : α → Text} {words : List α}
  (hwords : ∀ w ∈ words, ∀ c ∈ text w, isOuter c = true)
include hwords

theorem wordOf?_remainder {s r : Text} {w : α} (h : wordOf? text words s = some (w, r)) :
    Remainder s r := by
  obtain ⟨d, hd, h⟩ := List.exists_of_findSome?_eq_some h
  obtain ⟨t, ht, heq⟩ := Option.map_eq_some_iff.mp h
  cases heq
  exact dropLead?_remainder (hwords _ hd) ht

theorem keywordOf?_remainder {s r : Text} {w : α} (h : keywordOf? text words s = some (w, r)) :
    Remainder s r := by
  obtain ⟨d, hd, h⟩ := List.exists_of_findSome?_eq_some h
  obtain ⟨t, ht, heq⟩ := Option.map_eq_some_iff.mp h
  cases heq
  exact dropKeyword?_remainder (hwords _ hd) ht

end

/-! Numbers by their parts -/

/-- The sign in front of a text, as whether it is a minus sign, and what stands behind it. -/
def unsigned (s : Text) : Bool × Text :=
  match s with
  | '-' :: t => (true, t)
  | '+' :: t => (false, t)
  | t => (false, t)

theorem unsigned_of_ne {s : Text} (h : ∀ c ∈ s.head?, c ≠ '-' ∧ c ≠ '+') :
    unsigned s = (false, s) := by
  unfold unsigned
  split
  · exact absurd rfl (h _ rfl).1
  · exact absurd rfl (h _ rfl).2
  · rfl

theorem based?_eq (letter : Char) (base : Nat) (s : Text) :
    based? letter base s = (Text.dropLead? ['0'] s).bind fun s =>
      (Text.dropWord? [letter] s).bind fun s => (digits? base s).bind fun r =>
        if Text.toNat base r.1 ≤ maxInteger then some (.ofNat (Text.toNat base r.1), r.2)
        else none := by
  rcases s with _ | ⟨c, s⟩
  · rfl
  by_cases hc : c = '0'
  · subst hc
    rcases s with _ | ⟨d, s⟩
    · rfl
    simp only [based?, Text.dropLead?, Text.dropWord?, if_true, Option.bind_some]
    split
    · rw [Option.bind_some]
      cases digits? base s <;> rfl
    · rfl
  · simp only [Text.dropLead?, if_neg hc, Option.bind_none]
    unfold based?
    split
    · next heq => exact absurd (List.cons.inj heq).1 hc
    · rfl

theorem leadingZero?_eq (s : Text) :
    leadingZero? s = (Text.dropLead? ['0'] s).bind fun s => (digits? 8 s).bind fun r =>
      if r.2.head? ∈ [some '.', some 'e', some 'E'] then none
      else if Text.toNat 8 r.1 ≤ maxInteger then some (.ofNat (Text.toNat 8 r.1), r.2)
      else none := by
  rcases s with _ | ⟨c, s⟩
  · rfl
  by_cases hc : c = '0'
  · subst hc
    simp only [leadingZero?, Text.dropLead?, if_true, Option.bind_some]
    cases digits? 8 s <;> rfl
  · simp only [Text.dropLead?, if_neg hc, Option.bind_none]
    unfold leadingZero?
    split
    · next heq => exact absurd (List.cons.inj heq).1 hc
    · rfl

theorem exponent?_eq (s : Text) :
    exponent? s = (Text.dropWord? ['e'] s).bind fun s => (digits? 10 (unsigned s).2).map fun r =>
      (if (unsigned s).1 then -(Text.toNat 10 r.1 : Int) else Text.toNat 10 r.1, r.2) := by
  rcases s with _ | ⟨c, s⟩
  · rfl
  by_cases hc : c.toLower = 'e'
  · simp only [exponent?, Text.dropWord?, if_pos hc, Option.bind_some]
    rfl
  · simp only [exponent?, Text.dropWord?, if_neg hc, Option.bind_none]

/-- The digits behind a decimal point, if there is one, and what stands behind them. -/
def fraction (s : Text) : Text × Text :=
  match s with
  | '.' :: t => (t.takeWhile Char.isDigit, t.dropWhile Char.isDigit)
  | t => ([], t)

theorem fraction_of_ne {s : Text} (h : ∀ c ∈ s.head?, c ≠ '.') : fraction s = ([], s) := by
  unfold fraction
  split
  · exact absurd rfl (h _ rfl)
  · rfl

theorem decimal?_eq (s : Text) :
    decimal? s =
      let whole := s.takeWhile Char.isDigit
      let places := fraction (s.dropWhile Char.isDigit)
      let power := (exponent? places.2).getD (0, places.2)
      if whole ++ places.1 = [] then none
      else some (.ofDecimal (Text.toNat 10 (whole ++ places.1)) (power.1 - places.1.length),
        power.2) := rfl

theorem signedNumber?_eq (s : Text) :
    signedNumber? s = (number? (unsigned s).2).map fun r =>
      (if (unsigned s).1 && !r.1.isNaN then r.1.neg else r.1, r.2) := by
  have hplain (s : Text) : number? s = (number? s).map fun r => (r.1, r.2) :=
    Option.map_id'.symm
  unfold signedNumber?
  split
  · next s =>
    have hvalue (r : Binary64 × Text) : (if r.1.isNaN then r.1 else r.1.neg) =
        if true && !r.1.isNaN then r.1.neg else r.1 := by cases r.1.isNaN <;> rfl
    simp only [hvalue]
    rfl
  · next s => exact hplain s
  · next hminus hplus =>
    have hne : ∀ c ∈ s.head?, c ≠ '-' ∧ c ≠ '+' := by
      intro c hc
      obtain ⟨t, rfl⟩ := List.head?_eq_some_iff.mp hc
      exact ⟨fun h => hminus t (h ▸ rfl), fun h => hplus t (h ▸ rfl)⟩
    rw [unsigned_of_ne hne]
    exact hplain s

theorem signedDuration?_eq (s : Text) :
    signedDuration? s = (duration (unsigned s).2).toOption.map fun r =>
      (if (unsigned s).1 then -(r.1 : Int) else r.1, r.2) := rfl

/-! Numbers -/

theorem isDigitIn_mark {base : Nat} :
    ∀ c ∈ '#' :: quotationMarks, Text.isDigitIn base c = false := by
  intro c hc
  simp only [quotationMarks, List.mem_cons, List.not_mem_nil, or_false] at hc
  rcases hc with rfl | rfl | rfl | rfl <;> rfl

theorem digits?_remainder {base : Nat} {s ds r : Text} (h : digits? base s = some (ds, r)) :
    Remainder s r := by
  rw [digits?] at h
  split at h
  · cases h
  · cases h
    exact .dropWhile isDigitIn_mark s

theorem based?_remainder {letter : Char} (hletter : isOuter letter = true) {base : Nat} {s r : Text}
    {x : Binary64} (h : based? letter base s = some (x, r)) : Remainder s r := by
  rw [based?_eq] at h
  obtain ⟨s₁, hzero, h⟩ := Option.bind_eq_some_iff.mp h
  obtain ⟨s₂, hword, h⟩ := Option.bind_eq_some_iff.mp h
  obtain ⟨⟨ds, rest⟩, hds, h⟩ := Option.bind_eq_some_iff.mp h
  obtain ⟨-, heq⟩ := Option.ite_none_right_eq_some.mp h
  cases heq
  have hfront := (dropLead?_remainder (by decide) hzero).trans
    (dropWord?_remainder (List.forall_mem_singleton.mpr hletter) hword)
  exact hfront.trans (digits?_remainder hds)

theorem leadingZero?_remainder {s r : Text} {x : Binary64} (h : leadingZero? s = some (x, r)) :
    Remainder s r := by
  rw [leadingZero?_eq] at h
  obtain ⟨s₁, hzero, h⟩ := Option.bind_eq_some_iff.mp h
  obtain ⟨⟨ds, rest⟩, hds, h⟩ := Option.bind_eq_some_iff.mp h
  obtain ⟨-, h⟩ := Option.ite_none_left_eq_some.mp h
  obtain ⟨-, heq⟩ := Option.ite_none_right_eq_some.mp h
  cases heq
  exact (dropLead?_remainder (by decide) hzero).trans (digits?_remainder hds)

theorem unsigned_remainder (s : Text) : Remainder s (unsigned s).2 := by
  unfold unsigned
  split
  · exact .cons (by decide) _
  · exact .cons (by decide) _
  · exact .refl s

theorem exponent?_remainder {s r : Text} {n : Int} (h : exponent? s = some (n, r)) :
    Remainder s r := by
  rw [exponent?_eq] at h
  obtain ⟨s₁, hword, h⟩ := Option.bind_eq_some_iff.mp h
  obtain ⟨⟨ds, rest⟩, hds, heq⟩ := Option.map_eq_some_iff.mp h
  cases heq
  exact ((dropWord?_remainder (by decide) hword).trans (unsigned_remainder s₁)).trans
    (digits?_remainder hds)

theorem fraction_remainder (s : Text) : Remainder s (fraction s).2 := by
  unfold fraction
  split
  · next t => exact (Remainder.cons (by decide) t).trans (.dropWhile (by decide) t)
  · exact .refl s

theorem decimal?_remainder {s r : Text} {x : Binary64} (h : decimal? s = some (x, r)) :
    Remainder s r := by
  rw [decimal?_eq] at h
  obtain ⟨-, h⟩ := Option.ite_none_left_eq_some.mp h
  obtain ⟨-, rfl⟩ := Prod.mk.inj (Option.some.inj h)
  have hwhole : Remainder s (s.dropWhile Char.isDigit) := .dropWhile (by decide) s
  have hfront := hwhole.trans (fraction_remainder _)
  refine hfront.trans ?_
  cases hpower : exponent? (fraction (s.dropWhile Char.isDigit)).2 with
  | none => exact .refl _
  | some p => exact exponent?_remainder hpower

theorem special?_remainder {s r : Text} {x : Binary64} (h : special? s = some (x, r)) :
    Remainder s r := by
  rcases Option.or_eq_some_iff.mp h with h | ⟨-, h⟩ <;>
  · obtain ⟨t, ht, heq⟩ := Option.map_eq_some_iff.mp h
    cases heq
    exact dropKeyword?_remainder (by decide) ht

theorem number?_remainder {s r : Text} {x : Binary64} (h : number? s = some (x, r)) :
    Remainder s r := by
  rcases Option.or_eq_some_iff.mp h with h | ⟨-, h⟩
  · exact special?_remainder h
  rcases Option.or_eq_some_iff.mp h with h | ⟨-, h⟩
  · exact based?_remainder (by decide) h
  rcases Option.or_eq_some_iff.mp h with h | ⟨-, h⟩
  · exact based?_remainder (by decide) h
  rcases Option.or_eq_some_iff.mp h with h | ⟨-, h⟩
  · exact leadingZero?_remainder h
  · exact decimal?_remainder h

theorem signedNumber?_remainder {s r : Text} {x : Binary64} (h : signedNumber? s = some (x, r)) :
    Remainder s r := by
  rw [signedNumber?_eq] at h
  obtain ⟨⟨y, rest⟩, hy, heq⟩ := Option.map_eq_some_iff.mp h
  cases heq
  exact (unsigned_remainder s).trans (number?_remainder hy)

/-! Durations -/

theorem eq_ok_of_toOption {ε α : Type} {x : Except ε α} {a : α} (h : x.toOption = some a) :
    x = .ok a := by
  cases x with
  | error _ => cases h
  | ok _ => exact congrArg Except.ok (Option.some.inj h)

theorem exists_error_of_toOption {ε α : Type} {x : Except ε α} (h : x.toOption = none) :
    ∃ e, x = .error e := by
  cases x with
  | error e => exact ⟨e, rfl⟩
  | ok _ => cases h

theorem durationPart_remainder {s r : Text} {ms : Nat} (h : durationPart s = .ok (ms, r)) :
    Remainder s r := by
  rw [durationPart] at h
  split at h
  · cases h
  · next ds rest hds =>
    split at h
    · cases h
    · split at h
      · cases h
      · next unit rest' hunit =>
        cases h
        exact (digits?_remainder hds).trans (wordOf?_remainder (by decide) hunit)

theorem durationParts_remainder (fuel : Nat) (s : Text) :
    Remainder s (durationParts fuel s).2 := by
  induction fuel generalizing s with
  | zero => exact .refl s
  | succ fuel ih =>
      rw [durationParts]
      split
      · exact .refl s
      · next ms rest h => exact (durationPart_remainder h).trans (ih rest)

theorem duration_remainder {s r : Text} {ms : Nat} (h : duration s = .ok (ms, r)) :
    Remainder s r := by
  obtain ⟨⟨first, rest⟩, hfirst, h⟩ := bind_eq_ok h
  dsimp only at h
  split at h
  · cases h
  · cases h
    exact (durationPart_remainder hfirst).trans (durationParts_remainder _ rest)

theorem signedDuration?_remainder {s r : Text} {ms : Int} (h : signedDuration? s = some (ms, r)) :
    Remainder s r := by
  rw [signedDuration?_eq] at h
  obtain ⟨⟨n, rest⟩, hread, heq⟩ := Option.map_eq_some_iff.mp h
  cases heq
  exact (unsigned_remainder s).trans (duration_remainder (eq_ok_of_toOption hread))

/-! Lists -/

theorem Remainder.of_skip_cons {c : Char} {s r : Text} (h : skip s = c :: r)
    (hc : isOuter c = true) : Remainder s r := by
  have hskip := skip_remainder s
  rw [h] at hskip
  exact hskip.trans (.cons hc r)

theorem skipComma?_remainder {s r : Text} (h : skipComma? s = some r) : Remainder s r := by
  rw [skipComma?] at h
  split at h
  · next rest hrest =>
    cases h
    exact (Remainder.of_skip_cons hrest (by decide)).trans (skip_remainder _)
  · cases h

theorem expect_remainder {c : Char} (hc : isOuter c = true) {s r : Text}
    (h : expect c s = .ok r) : Remainder s r := by
  unfold expect at h
  split at h
  · next d s =>
    split at h
    · next heq =>
      cases h
      exact .cons (heq ▸ hc) _
    · cases h
  · cases h

section

variable {α : Type} {item : Lexer α} (hitem : ∀ s a r, item s = some (a, r) → Remainder s r)
include hitem

theorem sepItems_remainder (fuel : Nat) (s : Text) :
    Remainder s (sepItems skipComma? item fuel s).2 := by
  induction fuel generalizing s with
  | zero => exact .refl s
  | succ fuel ih =>
      rw [sepItems]
      split
      · exact .refl s
      · next a rest h =>
        obtain ⟨t, hcomma, ht⟩ := Option.bind_eq_some_iff.mp h
        exact ((skipComma?_remainder hcomma).trans (hitem t a rest ht)).trans (ih rest)

theorem sepList_remainder (fuel : Nat) (s : Text) :
    Remainder s (sepList skipComma? item fuel s).2 := by
  rw [sepList]
  split
  · exact .refl s
  · next a rest h => exact (hitem s a rest h).trans (sepItems_remainder hitem fuel rest)

end

theorem labelList?_remainder {s r : Text} {ls : List Text} (h : labelList? s = some (ls, r)) :
    Remainder s r := by
  unfold labelList? at h
  split at h
  · next s =>
    dsimp only at h
    split at h
    · next rest hclose =>
      cases h
      have hlist : Remainder (skip s) (sepList skipComma? clauseLabel? s.length (skip s)).2 :=
        sepList_remainder (fun _ _ _ => clauseLabel?_remainder) s.length (skip s)
      exact (((Remainder.cons (by decide) s).trans (skip_remainder s)).trans hlist).trans
        (.of_skip_cons hclose (by decide))
    · cases h
  · cases h

/-! Matchers -/

theorem namedMatcher?_remainder {s r : Text} {m : Matcher} (h : namedMatcher? s = some (m, r)) :
    Remainder s r := by
  obtain ⟨⟨name, s₁⟩, hname, h⟩ := Option.bind_eq_some_iff.mp h
  obtain ⟨⟨op, s₂⟩, hop, h⟩ := Option.bind_eq_some_iff.mp h
  obtain ⟨⟨value, s₃⟩, hvalue, heq⟩ := Option.bind_eq_some_iff.mp h
  cases heq
  have hlabel := (skip_remainder s).trans (labelName?_remainder hname)
  have hsign := (skip_remainder s₁).trans (wordOf?_remainder (by decide) hop)
  exact (hlabel.trans hsign).trans ((skip_remainder s₂).trans (stringLiteral?_remainder hvalue))

theorem matcher?_remainder {s r : Text} {m : Matcher} (h : matcher? s = some (m, r)) :
    Remainder s r := by
  rcases Option.or_eq_some_iff.mp h with h | ⟨-, h⟩
  · exact namedMatcher?_remainder h
  · obtain ⟨⟨value, rest⟩, hvalue, heq⟩ := Option.map_eq_some_iff.mp h
    cases heq
    exact (skip_remainder s).trans (stringLiteral?_remainder hvalue)

theorem dropComma_remainder (s : Text) : Remainder s (dropComma s) := by
  rw [dropComma]
  split
  · next rest hrest => exact .of_skip_cons hrest (by decide)
  · exact .refl s

theorem matchersInside_remainder (s : Text) : Remainder s (matchersInside s).2 := by
  have hlist := sepList_remainder (fun _ _ _ => matcher?_remainder) s.length s
  rw [matchersInside]
  split
  · exact .refl s
  · next ms rest _ heq =>
    rw [heq] at hlist
    exact hlist.trans (dropComma_remainder rest)

theorem matcherList_remainder {s r : Text} {ms : List Matcher} (h : matcherList s = .ok (ms, r)) :
    Remainder s r := by
  obtain ⟨inside, hopen, h⟩ := bind_eq_ok h
  obtain ⟨rest, hclose, heq⟩ := bind_eq_ok h
  cases heq
  have hbegin := (expect_remainder (by decide) hopen).trans (skip_remainder inside)
  have hend := (skip_remainder _).trans (expect_remainder (by decide) hclose)
  exact (hbegin.trans (matchersInside_remainder _)).trans hend

/-! Modifiers in time -/

theorem instant?_remainder {s r : Text} {i : Instant} (h : instant? s = some (i, r)) :
    Remainder s r := by
  unfold instant? at h
  split at h
  · next rest hrest =>
    refine (Remainder.of_skip_cons hrest (by decide)).trans ((skip_remainder rest).trans ?_)
    rcases Option.or_eq_some_iff.mp h with h | ⟨-, h⟩
    · obtain ⟨t, ht, heq⟩ := Option.map_eq_some_iff.mp h
      cases heq
      exact dropLead?_remainder (by decide) ht
    rcases Option.or_eq_some_iff.mp h with h | ⟨-, h⟩
    · obtain ⟨t, ht, heq⟩ := Option.map_eq_some_iff.mp h
      cases heq
      exact dropLead?_remainder (by decide) ht
    · obtain ⟨⟨x, t⟩, hx, h⟩ := Option.bind_eq_some_iff.mp h
      obtain ⟨ms, hms, heq⟩ := Option.bind_eq_some_iff.mp h
      cases heq
      exact signedNumber?_remainder hx
  · cases h

theorem offset?_remainder {s r : Text} {ms : Int} (h : offset? s = some (ms, r)) :
    Remainder s r := by
  obtain ⟨⟨word, rest⟩, hword, h⟩ := Option.bind_eq_some_iff.mp h
  exact ((skip_remainder s).trans (wordOf?_remainder (by decide) hword)).trans
    ((skip_remainder rest).trans (signedDuration?_remainder h))

theorem modifiersFrom_remainder {fuel : Nat} {m m' : Modifiers} {s r : Text}
    (h : modifiersFrom fuel m s = .ok (m', r)) : Remainder s r := by
  induction fuel generalizing m s with
  | zero =>
      cases h
      exact .refl _
  | succ fuel ih =>
      rw [modifiersFrom] at h
      split at h
      · next i rest hi =>
        split at h
        · cases h
        · exact (instant?_remainder hi).trans (ih h)
      · next ms rest hi hms =>
        split at h
        · cases h
        · exact (offset?_remainder hms).trans (ih h)
      · cases h
        exact .refl _

theorem modifiers_remainder {m : Modifiers} {s r : Text} (h : modifiers s = .ok (m, r)) :
    Remainder s r := modifiersFrom_remainder h

/-! Selectors -/

theorem selectorTail_remainder {name : Option Text} {ms : List Matcher} {s r : Text} {e : Expr}
    (h : selectorTail name ms s = .ok (e, r)) : Remainder s r := by
  refine (skip_remainder s).trans ?_
  unfold selectorTail at h
  dsimp only at h
  split at h
  · next inside hinside =>
    split at h
    · obtain ⟨⟨m, rest⟩, hm, heq⟩ := bind_eq_ok h
      cases heq
      exact modifiers_remainder hm
    · obtain ⟨⟨range, s₁⟩, hrange, h⟩ := bind_eq_ok h
      obtain ⟨s₂, hclose, h⟩ := bind_eq_ok h
      obtain ⟨⟨m, rest⟩, hm, heq⟩ := bind_eq_ok h
      cases heq
      rw [hinside]
      have hbegin : Remainder ('[' :: inside) s₁ :=
        (Remainder.cons (by decide) inside).trans (duration_remainder hrange)
      exact (hbegin.trans (expect_remainder (by decide) hclose)).trans (modifiers_remainder hm)
  · obtain ⟨⟨m, rest⟩, hm, heq⟩ := bind_eq_ok h
    cases heq
    exact modifiers_remainder hm

theorem matcherSelector_remainder {s r : Text} {e : Expr} (h : matcherSelector s = .ok (e, r)) :
    Remainder s r := by
  obtain ⟨⟨ms, rest⟩, hms, h⟩ := bind_eq_ok h
  exact (matcherList_remainder hms).trans (selectorTail_remainder h)

theorem namedSelector_remainder {name s r : Text} {e : Expr}
    (h : namedSelector name s = .ok (e, r)) : Remainder s r := by
  unfold namedSelector at h
  split at h
  · obtain ⟨⟨ms, rest⟩, hms, h⟩ := bind_eq_ok h
    exact (matcherList_remainder hms).trans (selectorTail_remainder h)
  · exact selectorTail_remainder h

/-! Operators and their modifiers -/

/-- The mode of a grouping, whose word needs no boundary behind it. -/
def groupingMode? (s : Text) : Option (GroupingMode × Text) :=
  [GroupingMode.by, .without].findSome? fun mode =>
    (Text.dropWord? mode.text s).map fun rest => (mode, rest)

theorem grouping?_eq (s : Text) :
    grouping? s = (groupingMode? s).bind fun r =>
      (labelList? (skip r.2)).bind fun r' => some (⟨r.1, r'.1⟩, r'.2) := rfl

theorem groupingMode?_remainder {s r : Text} {mode : GroupingMode}
    (h : groupingMode? s = some (mode, r)) : Remainder s r := by
  obtain ⟨word, -, hword⟩ := List.exists_of_findSome?_eq_some h
  obtain ⟨t, ht, heq⟩ := Option.map_eq_some_iff.mp hword
  cases heq
  exact dropWord?_remainder (by cases mode <;> decide) ht

theorem grouping?_remainder {s r : Text} {g : Grouping} (h : grouping? s = some (g, r)) :
    Remainder s r := by
  rw [grouping?_eq] at h
  obtain ⟨⟨mode, s₁⟩, hmode, h⟩ := Option.bind_eq_some_iff.mp h
  obtain ⟨⟨labels, s₂⟩, hlabels, heq⟩ := Option.bind_eq_some_iff.mp h
  cases heq
  exact (groupingMode?_remainder hmode).trans
    ((skip_remainder s₁).trans (labelList?_remainder hlabels))

theorem groupingBefore_remainder (s : Text) : Remainder s (groupingBefore s).2 := by
  refine (skip_remainder s).trans ?_
  rw [groupingBefore]
  split
  · next g r hg => exact (grouping?_remainder hg).trans (skip_remainder r)
  · exact .refl _

theorem groupingBehind_remainder (before : Option Grouping) (s : Text) :
    Remainder s (groupingBehind before s).2 := by
  unfold groupingBehind
  split
  · exact .refl s
  · next hg => exact (skip_remainder s).trans (grouping?_remainder hg)
  · exact skip_remainder s

theorem groupModifier?_remainder {s r : Text} {g : GroupModifier}
    (h : groupModifier? s = some (g, r)) : Remainder s r := by
  obtain ⟨⟨side, s₁⟩, hside, h⟩ := Option.bind_eq_some_iff.mp h
  refine ((keywordOf?_remainder (by decide) hside).trans (skip_remainder s₁)).trans ?_
  dsimp only at h
  split at h
  · next hlabels =>
    cases h
    exact labelList?_remainder hlabels
  · cases h
    exact .refl _

theorem vectorMatching?_remainder {s r : Text} {m : VectorMatching}
    (h : vectorMatching? s = some (m, r)) : Remainder s r := by
  obtain ⟨⟨mode, s₁⟩, hmode, h⟩ := Option.bind_eq_some_iff.mp h
  obtain ⟨⟨labels, s₂⟩, hlabels, h⟩ := Option.bind_eq_some_iff.mp h
  have hfront := (keywordOf?_remainder (by decide) hmode).trans
    ((skip_remainder s₁).trans (labelList?_remainder hlabels))
  refine (hfront.trans (skip_remainder s₂)).trans ?_
  dsimp only at h
  split at h
  · next hgroup =>
    cases h
    exact groupModifier?_remainder hgroup
  · cases h
    exact .refl _

theorem binaryModifier_remainder (s : Text) : Remainder s (binaryModifier s).2 := by
  rw [binaryModifier]
  cases hbool : Text.dropKeyword? "bool".toList (skip s) with
  | none =>
      dsimp only
      split
      · next hm => exact (skip_remainder s).trans (vectorMatching?_remainder hm)
      · exact skip_remainder s
  | some rest =>
      have hfront := (skip_remainder s).trans (dropKeyword?_remainder (by decide) hbool)
      dsimp only
      split
      · next hm => exact hfront.trans ((skip_remainder rest).trans (vectorMatching?_remainder hm))
      · exact hfront.trans (skip_remainder rest)

theorem binaryOp?_remainder {s r : Text} {op : BinaryOp} (h : binaryOp? s = some (op, r)) :
    Remainder s r := by
  rcases Option.or_eq_some_iff.mp h with h | ⟨-, h⟩
  · exact wordOf?_remainder (by decide) h
  · exact keywordOf?_remainder (by decide) h

/-! Operands -/

section

variable {operand : Reader Expr} (hoperand : ∀ s e r, operand s = .ok (e, r) → Remainder s r)
include hoperand

theorem chainLinks_remainder {fuel : Nat} {s r : Text} {links : List Link}
    (h : chainLinks operand fuel s = .ok (links, r)) : Remainder s r := by
  induction fuel generalizing s links with
  | zero =>
      cases h
      exact .refl _
  | succ fuel ih =>
      rw [chainLinks] at h
      split at h
      · cases h
        exact .refl _
      · next op rest hop =>
        obtain ⟨⟨e, s₁⟩, he, h⟩ := bind_eq_ok h
        obtain ⟨⟨more, s₂⟩, hmore, heq⟩ := bind_eq_ok h
        cases heq
        have hfront := ((skip_remainder s).trans (binaryOp?_remainder hop)).trans
          (binaryModifier_remainder rest)
        exact (hfront.trans ((skip_remainder _).trans (hoperand _ _ _ he))).trans (ih hmore)

theorem chain_remainder {fuel : Nat} {s r : Text} {e : Expr}
    (h : chain fuel operand s = .ok (e, r)) : Remainder s r := by
  obtain ⟨⟨first, s₁⟩, hfirst, h⟩ := bind_eq_ok h
  obtain ⟨⟨links, s₂⟩, hlinks, heq⟩ := bind_eq_ok h
  cases heq
  exact ((skip_remainder s).trans (hoperand _ _ _ hfirst)).trans
    (chainLinks_remainder hoperand hlinks)

end

section

variable {expr : Reader Expr} (hexpr : ∀ s e r, expr s = .ok (e, r) → Remainder s r)
include hexpr

theorem parenthesized_remainder {s r : Text} {e : Expr} (h : parenthesized expr s = .ok (e, r)) :
    Remainder s r := by
  obtain ⟨s₁, hopen, h⟩ := bind_eq_ok h
  obtain ⟨⟨inner, s₂⟩, hinner, h⟩ := bind_eq_ok h
  obtain ⟨s₃, hclose, heq⟩ := bind_eq_ok h
  cases heq
  exact ((expect_remainder (by decide) hopen).trans (hexpr _ _ _ hinner)).trans
    ((skip_remainder s₂).trans (expect_remainder (by decide) hclose))

theorem callTail_remainder {fuel : Nat} {function s r : Text} {e : Expr}
    (h : callTail fuel expr function s = .ok (e, r)) : Remainder s r := by
  obtain ⟨s₁, hopen, h⟩ := bind_eq_ok h
  obtain ⟨s₂, hclose, heq⟩ := bind_eq_ok h
  cases heq
  have hlist := sepList_remainder
    (fun s e r h => hexpr s e r (eq_ok_of_toOption h)) fuel (skip s₁)
  exact (((expect_remainder (by decide) hopen).trans (skip_remainder s₁)).trans hlist).trans
    ((dropComma_remainder _).trans ((skip_remainder _).trans (expect_remainder (by decide) hclose)))

theorem aggregationParam_remainder {op : AggregateOp} {s r : Text} {param : Option Expr}
    (h : aggregationParam expr op s = .ok (param, r)) : Remainder s r := by
  rw [aggregationParam] at h
  split at h
  · obtain ⟨⟨p, s₁⟩, hp, h⟩ := bind_eq_ok h
    obtain ⟨s₂, hcomma, heq⟩ := bind_eq_ok h
    cases heq
    exact (hexpr _ _ _ hp).trans ((skip_remainder s₁).trans (expect_remainder (by decide) hcomma))
  · cases h
    exact .refl _

theorem aggregationTail_remainder {op : AggregateOp} {s r : Text} {e : Expr}
    (h : aggregationTail expr op s = .ok (e, r)) : Remainder s r := by
  obtain ⟨s₁, param, s₂, body, s₃, s₄, hopen, hparam, hbody, hclose, -, rfl⟩ :=
    aggregationTail_eq_ok h
  have hfront := (groupingBefore_remainder s).trans (expect_remainder (by decide) hopen)
  have hinside := (aggregationParam_remainder hexpr hparam).trans (hexpr _ _ _ hbody)
  have hend := (skip_remainder s₃).trans (expect_remainder (by decide) hclose)
  exact ((hfront.trans hinside).trans hend).trans (groupingBehind_remainder _ s₄)

theorem namedOperand_remainder {fuel : Nat} {s r : Text} {e : Expr}
    (h : namedOperand fuel expr s = .ok (e, r)) : Remainder s r := by
  unfold namedOperand at h
  dsimp only at h
  split at h
  · next op rest _ hop =>
    obtain ⟨⟨word, t⟩, hword, hop⟩ := Option.bind_eq_some_iff.mp hop
    obtain ⟨_, -, heq⟩ := Option.bind_eq_some_iff.mp hop
    cases heq
    exact (labelName?_remainder hword).trans (aggregationTail_remainder hexpr h)
  · next name rest _ hname =>
    refine ((metricName?_remainder hname).trans (skip_remainder rest)).trans ?_
    split at h
    · exact callTail_remainder hexpr h
    · exact namedSelector_remainder h
  · cases h

theorem primary_remainder {fuel : Nat} {s r : Text} {e : Expr}
    (h : primary fuel expr s = .ok (e, r)) : Remainder s r := by
  unfold primary at h
  split at h
  · exact parenthesized_remainder hexpr (mapError_eq_ok h)
  · exact matcherSelector_remainder (mapError_eq_ok h)
  · split at h
    · next hnumber =>
      cases h
      exact number?_remainder hnumber
    · next hstring =>
      cases h
      exact stringLiteral?_remainder hstring
    · exact namedOperand_remainder hexpr h

end

theorem subqueryRange_remainder {s r : Text} {w : Nat × Option Nat}
    (h : subqueryRange s = .ok (w, r)) : Remainder s r := by
  obtain ⟨s₁, hopen, h⟩ := bind_eq_ok h
  obtain ⟨⟨range, s₂⟩, hrange, h⟩ := bind_eq_ok h
  obtain ⟨s₃, hcolon, h⟩ := bind_eq_ok h
  obtain ⟨s₄, hclose, heq⟩ := bind_eq_ok h
  cases heq
  have hfront := ((expect_remainder (by decide) hopen).trans (duration_remainder hrange)).trans
    (expect_remainder (by decide) hcolon)
  refine hfront.trans ?_
  cases hstep : duration s₃ with
  | error f =>
      rw [hstep] at hclose
      exact expect_remainder (by decide) hclose
  | ok p =>
      rw [hstep] at hclose
      exact (duration_remainder hstep).trans (expect_remainder (by decide) hclose)

theorem subqueries_remainder {fuel : Nat} {e d : Expr} {s r : Text}
    (h : subqueries fuel e s = .ok (d, r)) : Remainder s r := by
  induction fuel generalizing e s with
  | zero =>
      cases h
      exact .refl _
  | succ fuel ih =>
      rw [subqueries] at h
      split at h
      · obtain ⟨⟨⟨range, step⟩, s₁⟩, hrange, h⟩ := bind_eq_ok h
        obtain ⟨⟨m, s₂⟩, hm, h⟩ := bind_eq_ok h
        have hwindow := (skip_remainder s).trans (subqueryRange_remainder hrange)
        exact (hwindow.trans (modifiers_remainder hm)).trans (ih h)
      · cases h
        exact .refl _

theorem operandStep_remainder {fuel : Nat} {operand : Reader Expr}
    (hoperand : ∀ s e r, operand s = .ok (e, r) → Remainder s r) {s r : Text} {e : Expr}
    (h : operandStep fuel operand s = .ok (e, r)) : Remainder s r := by
  have hsigned {sign : Sign} {s rest : Text} (h : signed operand sign s rest = .ok (e, r)) :
      Remainder rest r := by
    rw [signed] at h
    split at h
    · next hread =>
      cases h
      exact (skip_remainder rest).trans (hoperand _ _ _ hread)
    · cases h
  unfold operandStep at h
  split at h
  · exact (Remainder.cons (by decide) _).trans (hsigned h)
  · exact (Remainder.cons (by decide) _).trans (hsigned h)
  · obtain ⟨⟨base, s₁⟩, hbase, h⟩ := bind_eq_ok h
    exact (primary_remainder (fun _ _ _ => chain_remainder hoperand) hbase).trans
      (subqueries_remainder h)

theorem operand_remainder (fuel : Nat) (s : Text) (e : Expr) (r : Text)
    (h : operand fuel s = .ok (e, r)) : Remainder s r := by
  induction fuel generalizing s e r with
  | zero => cases h
  | succ fuel ih => exact operandStep_remainder ih h

theorem expr_remainder {s r : Text} {e : Expr} (h : expr s = .ok (e, r)) : Remainder s r :=
  chain_remainder (operand_remainder _) h

end TenantScope.Query
