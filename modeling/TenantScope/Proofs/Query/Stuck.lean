/- Texts with which no query goes on, as tame names leave them where they are not read bare. -/
import TenantScope.Proofs.Query.Modifiers

namespace TenantScope.Query

/-- A text that goes on with nothing of the grammar: it begins with matchers for which no name is
left, or with a break. -/
def Stuck (s : Text) : Prop := ∃ c t, skip s = c :: t ∧ (c = '{' ∨ isBreak c = true)

/-! Words that do not stand in front of a break -/

theorem wordOf?_of_isBreak {α : Type} {text : α → Text} {words : List α} {c : Char}
    (hc : isBreak c = true)
    (h : ∀ w ∈ words, (text w).head?.any (fun d => !isBreak d) = true) (s : Text) :
    wordOf? text words (c :: s) = none := by
  refine List.findSome?_eq_none_iff.mpr fun w hw => ?_
  have hhead := h w hw
  cases htext : text w with
  | nil =>
      rw [htext] at hhead
      cases hhead
  | cons d v =>
      rw [htext, List.head?_cons, Option.any_some, Bool.not_eq_true'] at hhead
      rw [Text.dropLead?, if_neg (ne_of_isBreak hc hhead)]
      rfl

theorem dropWord?_of_isBreak {w : Text} {c : Char} (hc : isBreak c = true)
    (h : w.head?.any Char.isAlpha = true) (s : Text) : Text.dropWord? w (c :: s) = none := by
  cases w with
  | nil => cases h
  | cons d w => rw [Text.dropWord?, if_neg (toLower_ne_of_isBreak hc h)]

theorem keywordOf?_of_isBreak {α : Type} {text : α → Text} {words : List α} {c : Char}
    (hc : isBreak c = true)
    (h : ∀ w ∈ words, (text w).head?.any Char.isAlpha = true) (s : Text) :
    keywordOf? text words (c :: s) = none :=
  keywordOf?_eq_none fun w hw => by rw [Text.dropKeyword?, dropWord?_of_isBreak hc (h w hw)]; rfl

theorem grouping?_of_isBreak {c : Char} (hc : isBreak c = true) (s : Text) :
    grouping? (c :: s) = none := by
  have hword : ∀ mode : GroupingMode, Text.dropWord? mode.text (c :: s) = none :=
    fun mode => dropWord?_of_isBreak hc (by cases mode <;> decide) s
  simp only [grouping?, List.findSome?_cons, hword, Option.map_none, List.findSome?_nil]
  rfl

theorem modifiers_of_isBreak {c : Char} (hc : isBreak c = true) (s : Text) :
    modifiers (c :: s) = .ok (.empty, c :: s) := by
  have hskip := skip_of_isInk (isInk_of_isBreak hc) s
  have hinstant : instant? (c :: s) = none := by
    unfold instant?
    rw [hskip]
    split
    · next heq => exact absurd (List.cons.inj heq).1 (ne_of_isBreak hc (by decide))
    · rfl
  have hoffset : offset? (c :: s) = none := by
    rw [offset?, hskip, wordOf?_of_isBreak hc (by decide)]
    rfl
  rw [modifiers, modifiersFrom, hinstant, hoffset]

namespace Stuck

theorem of_isBreak {c : Char} (hc : isBreak c = true) (s : Text) : Stuck (c :: s) :=
  ⟨c, s, skip_of_isInk (isInk_of_isBreak hc) s, .inr hc⟩

/-- What a tame name leaves in front of its matchers. -/
theorem append {r : Text} (hr : ∀ b ∈ r.head?, isBreak b = true) (s : Text) :
    Stuck (r ++ '{' :: s) := by
  cases r with
  | nil => exact ⟨'{', s, rfl, .inl rfl⟩
  | cons b r => exact .of_isBreak (hr b rfl) _

variable {s : Text} (h : Stuck s)
include h

theorem head?_skip {c : Char} (hc : c ≠ '{' ∧ isBreak c = false) : (skip s).head? ≠ some c := by
  obtain ⟨d, t, ht, hd⟩ := h
  rw [ht, List.head?_cons]
  rintro ⟨⟩
  rcases hd with rfl | hd
  · exact hc.1 rfl
  · exact ne_of_isBreak hd hc.2 rfl

theorem binaryOp?_skip : binaryOp? (skip s) = none := by
  obtain ⟨c, t, ht, hc⟩ := h
  rw [ht]
  rcases hc with rfl | hc
  · rfl
  · rw [binaryOp?, wordOf?_of_isBreak hc (by decide), keywordOf?_of_isBreak hc (by decide)]
    rfl

theorem atSubquery_skip : atSubquery (skip s) = false :=
  atSubquery_eq_false (h.head?_skip (by decide))

theorem grouping?_skip : grouping? (skip s) = none := by
  obtain ⟨c, t, ht, hc⟩ := h
  rw [ht]
  rcases hc with rfl | hc
  · rfl
  · exact grouping?_of_isBreak hc t

theorem skipComma?_eq_none : skipComma? s = none :=
  Query.skipComma?_eq_none (h.head?_skip (by decide))

theorem chainLinks (operand : Reader Expr) (fuel : Nat) :
    chainLinks operand fuel s = .ok ([], s) := by
  cases fuel with
  | zero => rfl
  | succ fuel => rw [Query.chainLinks, h.binaryOp?_skip]

theorem subqueries (fuel : Nat) (e : Expr) : subqueries fuel e s = .ok (e, s) := by
  cases fuel with
  | zero => rfl
  | succ fuel => rw [Query.subqueries, h.atSubquery_skip]; rfl

theorem expect_ne_ok {c : Char} (hc : c ≠ '{' ∧ isBreak c = false) (r : Text) :
    expect c (skip s) ≠ .ok r := by
  have hhead := h.head?_skip hc
  intro hok
  cases hskip : skip s with
  | nil => rw [hskip] at hok; cases hok
  | cons d t =>
      rw [hskip, List.head?_cons] at hhead
      rw [hskip, expect, if_neg fun heq => hhead (congrArg some heq)] at hok
      cases hok

theorem aggregationTail_ne_ok (expr : Reader Expr) (op : AggregateOp) (p : Expr × Text) :
    aggregationTail expr op s ≠ .ok p := by
  intro hok
  obtain ⟨t, _, _, _, _, _, ht, -⟩ := aggregationTail_eq_ok hok
  rw [groupingBefore, h.grouping?_skip] at ht
  exact h.expect_ne_ok (by decide) t ht

end Stuck

/-! Names that are not read bare -/

section

variable {fuel : Nat} {expr : Reader Expr}

/-- No operand begins with a break. -/
theorem primary_of_isBreak {c : Char} (hstart : isTameStart c = true)
    (hmetric : isMetricStart c = false) (s : Text) :
    primary fuel expr (c :: s) = .error ⟨c :: s, .name⟩ := by
  have hbreak : isBreak c = true := by
    rw [isTameStart, hmetric, Bool.false_or] at hstart
    exact (Bool.and_eq_true_iff.mp hstart).1
  have hlabel : isLabelStart c = false := by
    rw [isMetricStart, Bool.or_eq_false_iff] at hmetric
    exact hmetric.1
  have hspecial : special? (c :: s) = none := by
    unfold special?
    rw [Text.dropKeyword?, Text.dropKeyword?, dropWord?_of_isBreak hbreak (by decide),
      dropWord?_of_isBreak hbreak (by decide)]
    rfl
  have haggregate : aggregate? (c :: s) = none := by
    simp only [aggregate?, labelName?, word?, hlabel, Bool.false_eq_true, if_false,
      Option.bind_none]
  have hname : metricName? (c :: s) = none := by
    simp only [metricName?, word?, hmetric, Bool.false_eq_true, if_false]
  rw [primary_of_isTameStart hstart, hspecial]
  exact namedOperand_of_noName haggregate hname

/-- What is left of a tame name behind its front, where it breaks off. -/
theorem special?_isBreak {n r : Text} {x : Binary64} (hn : isTame n = true)
    (h : special? n = some (x, r)) : ∀ b ∈ r.head?, isBreak b = true := by
  rintro b hb
  obtain ⟨r, rfl⟩ := List.head?_eq_some_iff.mp hb
  rcases Option.or_eq_some_iff.mp h with h | ⟨-, h⟩
  · obtain ⟨_, hw, heq⟩ := Option.map_eq_some_iff.mp h
    cases heq
    exact isBreak_of_dropKeyword? hn (by decide) hw
  · obtain ⟨_, hw, heq⟩ := Option.map_eq_some_iff.mp h
    cases heq
    exact isBreak_of_dropKeyword? hn (by decide) hw

theorem metricName?_isBreak {n w r : Text} (hn : isTame n = true)
    (h : metricName? n = some (w, r)) : ∀ b ∈ r.head?, isBreak b = true := by
  rintro b hb
  obtain ⟨r, rfl⟩ := List.head?_eq_some_iff.mp hb
  obtain ⟨rfl, hself, hstop⟩ := word?_eq_some h
  refine isBreak_of_isTame hn (isMetricChar_of_mem hself) ?_
  have hb := hstop b rfl
  rw [isMetricChar, Bool.or_eq_false_iff] at hb
  exact hb.1

/-- In front of a break a name is a selector without matchers. -/
theorem namedSelector_of_isBreak {b : Char} (hb : isBreak b = true) (name s : Text) :
    (if (skip (b :: s)).head? = some '(' then callTail fuel expr name (skip (b :: s))
      else namedSelector name (skip (b :: s))) =
        .ok (.vector ⟨some name, [], .empty⟩, b :: s) := by
  have hskip := skip_of_isInk (isInk_of_isBreak hb) s
  have hne := fun c hc => ne_of_isBreak (d := c) hb hc
  rw [hskip, List.head?_cons, if_neg fun h => hne '(' (by decide) (Option.some.inj h),
    namedSelector]
  · rw [selectorTail, hskip]
    dsimp only
    split
    · next heq => exact absurd (List.cons.inj heq).1 (hne '[' (by decide))
    · rw [modifiers_of_isBreak hb]
      rfl
  · exact fun t h => hne '{' (by decide) (List.cons.inj h).1

section

variable {n : Text} (htame : isTame n = true) (hn : isBareName n = false) {s r : Text} {x : Expr}
include htame hn

/-- Where a tame name begins with an aggregation operator or with a name of its own, what is read is
no selector of the whole name, and what is left is stuck. -/
theorem namedOperand_of_not_isBareName (hmetric : ∀ c ∈ n.head?, isMetricStart c = true)
    (hword : special? n = none) (h : namedOperand fuel expr (n ++ '{' :: s) = .ok (x, r)) :
    (∀ sel, x.ownSelector? = some sel → sel.name ≠ some n) ∧ Stuck r := by
  have hend : '{' ∈ nameEnds := by decide
  obtain ⟨c, t, hcons, -⟩ := isTame_cons htame
  have hnil : n ≠ [] := by rw [hcons]; exact List.cons_ne_nil c t
  cases haggregate : aggregate? n with
  | some op =>
      obtain ⟨⟨word, rest⟩, hread, hop⟩ := Option.bind_eq_some_iff.mp haggregate
      have hlabel := labelName?_append (s := s) hnil hend
      rw [hread, Option.map_some] at hlabel
      rw [namedOperand_of_aggregate hlabel hop] at h
      have hstuck : Stuck (rest ++ '{' :: s) := by
        refine .append (fun b hb => ?_) s
        obtain ⟨rest, rfl⟩ := List.head?_eq_some_iff.mp hb
        exact isBreak_of_labelName? htame hread
      exact absurd h (hstuck.aggregationTail_ne_ok expr op _)
  | none =>
      -- the front of the name is read as a name of its own
      obtain ⟨w, rest, hname⟩ : ∃ w rest, metricName? n = some (w, rest) := by
        rw [hcons, metricName?, word?, if_pos (hmetric c (by rw [hcons]; rfl))]
        exact ⟨_, _, rfl⟩
      have happend := metricName?_append (s := s) hnil hend
      rw [hname, Option.map_some] at happend
      rw [namedOperand_of_name ((aggregate?_append hnil hend).trans haggregate) happend] at h
      obtain ⟨rfl, hself, -⟩ := word?_eq_some hname
      cases rest with
      | nil =>
          rw [List.append_nil] at hn hword haggregate
          rw [isBareName_iff.mpr ⟨hself, hword, haggregate⟩] at hn
          cases hn
      | cons b rest =>
          have hb := metricName?_isBreak htame hname b rfl
          rw [List.cons_append, namedSelector_of_isBreak hb] at h
          cases h
          refine ⟨?_, .of_isBreak hb _⟩
          rintro sel ⟨⟩ hsame
          exact absurd (List.append_right_eq_self.mp (Option.some.inj hsame).symm)
            (List.cons_ne_nil b rest)

/-- A tame name that is not read bare is not read as the name of a selector, and what is left is
stuck. -/
theorem primary_of_not_isBareName (h : primary fuel expr (n ++ '{' :: s) = .ok (x, r)) :
    (∀ sel, x.ownSelector? = some sel → sel.name ≠ some n) ∧ Stuck r := by
  have hspecial := special?_append (n := n) (s := s) (c := '{') (by decide)
  obtain ⟨c, t, rfl, hc⟩ := isTame_cons htame
  cases hmetric : isMetricStart c with
  | false =>
      rw [List.cons_append, primary_of_isBreak hc hmetric] at h
      cases h
  | true =>
      rw [List.cons_append, primary_of_isMetricStart hmetric, ← List.cons_append, hspecial] at h
      cases hword : special? (c :: t) with
      | some p =>
          obtain ⟨y, rest⟩ := p
          rw [hword] at h
          cases h
          exact ⟨fun _ hsel => (nomatch hsel), .append (special?_isBreak htame hword) s⟩
      | none =>
          rw [hword, Option.map_none] at h
          refine namedOperand_of_not_isBareName htame hn ?_ hword h
          rintro _ ⟨⟩
          exact hmetric

end

end

end TenantScope.Query
