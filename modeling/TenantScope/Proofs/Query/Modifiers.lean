/- The modifier of a binary operator is read back exactly when it does not clash with the front of
the operand behind it. -/
import TenantScope.Proofs.Query.Clashes

namespace TenantScope.Query

/-! Keywords in front of names -/

theorem keywordOf?_eq_none {α : Type} {text : α → Text} {words : List α} {s : Text}
    (h : ∀ w ∈ words, Text.dropKeyword? (text w) s = none) : keywordOf? text words s = none := by
  rw [keywordOf?, List.findSome?_eq_none_iff]
  intro w hw
  rw [h w hw]
  rfl

theorem keywordOf?_append {α : Type} {text : α → Text} {words : List α} {n s : Text} {c : Char}
    (hwords : ∀ w ∈ words, ∀ d ∈ text w, d ≠ c.toLower) (hc : Text.isWordChar c = false) :
    keywordOf? text words (n ++ c :: s) =
      (keywordOf? text words n).map fun r => (r.1, r.2 ++ c :: s) := by
  induction words with
  | nil => rfl
  | cons w words ih =>
      have hw := Text.dropKeyword?_append (n := n) (s := s) (hwords w List.mem_cons_self) hc
      have hrest := ih fun v hv => hwords v (List.mem_cons_of_mem w hv)
      rw [keywordOf?] at hrest
      rw [keywordOf?, List.findSome?_cons, hw, keywordOf?, List.findSome?_cons]
      cases Text.dropKeyword? (text w) n with
      | none => exact hrest
      | some r => rfl

/-- Behind a keyword in front of it, a tame name breaks off. -/
theorem isBreak_of_keywordOf? {α : Type} {text : α → Text} {words : List α} {n r : Text} {w : α}
    {b : Char} (hn : isTame n = true) (hwords : ∀ w ∈ words, ∀ d ∈ text w, isMetricChar d = true)
    (h : keywordOf? text words n = some (w, b :: r)) : isBreak b = true := by
  obtain ⟨v, hv, hread⟩ := List.exists_of_findSome?_eq_some h
  obtain ⟨rest, hrest, heq⟩ := Option.map_eq_some_iff.mp hread
  cases heq
  exact isBreak_of_dropKeyword? hn (hwords w hv) hrest

theorem isSome_keywordOf? {α : Type} (text : α → Text) (words : List α) (s : Text) :
    (keywordOf? text words s).isSome =
      words.any fun w => (Text.dropKeyword? (text w) s).isSome := by
  rw [keywordOf?, List.isSome_findSome?]
  simp only [Option.isSome_map]

theorem isSome_groupModifier? (s : Text) :
    (groupModifier? s).isSome = (keywordOf? GroupSide.text [.left, .right] s).isSome := by
  rw [groupModifier?]
  cases keywordOf? GroupSide.text [.left, .right] s with
  | none => rfl
  | some p =>
      simp only [Option.bind_eq_bind, Option.bind_some]
      cases labelList? (skip p.2) <;> rfl

theorem isSome_vectorMatching? (s : Text) :
    (vectorMatching? s).isSome =
      (keywordOf? MatchingMode.text [.on, .ignoring] s).any fun r =>
        (labelList? (skip r.2)).isSome := by
  rw [vectorMatching?]
  cases keywordOf? MatchingMode.text [.on, .ignoring] s with
  | none => rfl
  | some p =>
      simp only [Option.bind_eq_bind, Option.bind_some, Option.any_some]
      cases labelList? (skip p.2) with
      | none => rfl
      | some q =>
          simp only [Option.bind_some]
          cases groupModifier? (skip q.2) <;> rfl

/-! Readers in front of another character than theirs -/

theorem labelList?_eq_none {s : Text} (h : s.head? ≠ some '(') : labelList? s = none := by
  unfold labelList?
  split
  · exact absurd rfl h
  · rfl

theorem labelList?_of_ne {c : Char} (hc : c ≠ '(') (s : Text) : labelList? (c :: s) = none :=
  labelList?_eq_none fun h => hc (Option.some.inj h)

theorem atSubquery_eq_false {s : Text} (h : s.head? ≠ some '[') : atSubquery s = false := by
  unfold atSubquery
  split
  · exact absurd rfl h
  · rfl

theorem dropComma_of_head {s : Text} (h : (skip s).head? ≠ some ',') : dropComma s = s := by
  rw [dropComma]
  split
  · next heq =>
    rw [heq] at h
    exact absurd rfl h
  · rfl

/-! Keywords and what stands behind a name -/

/-- The word of a modifier is read from a name in front of a brace or a parenthesis as from the name
alone. -/
theorem dropKeyword?_name {w : Text} (hw : w ∈ modifierWords) {c : Char} (hc : c ∈ ['{', '('])
    (n s : Text) :
    Text.dropKeyword? w (n ++ c :: s) = (Text.dropKeyword? w n).map (· ++ c :: s) := by
  have hwords : ∀ w ∈ modifierWords, ∀ c ∈ ['{', '('], ∀ d ∈ w, d ≠ Char.toLower c := by decide
  have hbound : ∀ c ∈ ['{', '('], Text.isWordChar c = false := by decide
  exact Text.dropKeyword?_append (hwords w hw c hc) (hbound c hc)

/-- A vector matching is read from a tame name when the name is a matching mode and a label list
follows it. -/
theorem isSome_vectorMatching?_name {n : Text} (hn : isTame n = true) {c : Char}
    (hc : c ∈ ['{', '(']) (s : Text) :
    (vectorMatching? (n ++ c :: s)).isSome =
      (((keywordOf? MatchingMode.text [.on, .ignoring] n).any fun r => r.2.isEmpty) &&
        (labelList? (skip (c :: s))).isSome) := by
  have hwords : ∀ c ∈ ['{', '('], ∀ w ∈ [MatchingMode.on, .ignoring], ∀ d ∈ w.text,
      d ≠ Char.toLower c := by decide
  have hbound : ∀ c ∈ ['{', '('], Text.isWordChar c = false := by decide
  rw [isSome_vectorMatching?, keywordOf?_append (hwords c hc) (hbound c hc)]
  cases hkeyword : keywordOf? MatchingMode.text [.on, .ignoring] n with
  | none => rfl
  | some p =>
      obtain ⟨mode, r⟩ := p
      cases r with
      | nil => rfl
      | cons b r =>
          -- the name goes on with a character that opens no list
          have hb := isBreak_of_keywordOf? hn (by decide) hkeyword
          have hlist : labelList? (skip (b :: r ++ c :: s)) = none := by
            rw [List.cons_append, skip_of_isInk (isInk_of_isBreak hb)]
            exact labelList?_of_ne (ne_of_isBreak hb (by decide)) _
          simp only [Option.map_some, Option.any_some, hlist]
          rfl

/-! The front of an operand behind a modifier -/

section

variable {p : Place} {e : Expr} (he : e.At p) (hworded : e.Everywhere Expr.Worded)
include he hworded

theorem isSome_dropKeyword?_print {w : Text} (hw : w ∈ modifierWords) (s : Text) :
    (Text.dropKeyword? w (e.print ++ s)).isSome =
      e.leading.frontName?.any fun n => (Text.dropKeyword? w n).isSome := by
  obtain ⟨t, ht, -⟩ := e.print_eq_leading
  have hd := hworded _ e.leading_occurs
  rw [ht, List.append_assoc]
  cases hname : e.leading.frontName? with
  | none =>
      rw [dropKeyword?_print_of_frontName?_eq_none he.leading hd hname hw]
      rfl
  | some n =>
      obtain ⟨-, ⟨u, hu, -⟩ | ⟨args, -, hu⟩⟩ :=
        print_of_frontName?_eq_some he.leading hd hname (t ++ s)
      · rw [hu, dropKeyword?_name hw (by decide), Option.isSome_map]
        rfl
      · rw [hu, dropKeyword?_name hw (by decide), Option.isSome_map]
        rfl

theorem isSome_groupModifier?_print (s : Text) :
    (groupModifier? (e.print ++ s)).isSome =
      e.leading.frontName?.any fun n => (keywordOf? GroupSide.text [.left, .right] n).isSome := by
  have hleft := isSome_dropKeyword?_print he hworded (w := GroupSide.left.text) (by decide) s
  have hright := isSome_dropKeyword?_print he hworded (w := GroupSide.right.text) (by decide) s
  simp only [isSome_groupModifier?, isSome_keywordOf?, List.any_cons, List.any_nil, hleft, hright]
  cases e.leading.frontName? <;> rfl

theorem isSome_vectorMatching?_print (s : Text) :
    (vectorMatching? (e.print ++ s)).isSome = e.leading.isMatchingCall := by
  obtain ⟨t, ht, -⟩ := e.print_eq_leading
  have hd := hworded _ e.leading_occurs
  rw [ht, List.append_assoc]
  cases hname : e.leading.frontName? with
  | none =>
      have hnone := fun w (hw : w ∈ modifierWords) =>
        dropKeyword?_print_of_frontName?_eq_none he.leading hd hname hw (t ++ s)
      have hkeyword : keywordOf? MatchingMode.text [.on, .ignoring]
          (e.leading.print ++ (t ++ s)) = none :=
        keywordOf?_eq_none fun w _ => hnone w.text (by cases w <;> decide)
      have hcall : e.leading.isMatchingCall = false := by
        generalize e.leading = d at hname
        cases d with
        | call function args => cases hname
        | _ => rfl
      rw [isSome_vectorMatching?, hkeyword, hcall]
      rfl
  | some n =>
      obtain ⟨hn, ⟨u, hu, hcall⟩ | ⟨args, hcall, hu⟩⟩ :=
        print_of_frontName?_eq_some he.leading hd hname (t ++ s)
      · rw [hu, isSome_vectorMatching?_name hn (by decide), skip_of_isInk (by decide),
          labelList?_of_ne (by decide), hcall]
        exact Bool.and_false _
      · have hcallAt : (Expr.call n args).At .primary :=
          hcall ▸ he.leading_primary (by rw [hcall]; exact fun _ _ h => nomatch h)
        have hargs : ∀ a ∈ args, a.At .chain := by
          cases hcallAt with
          | call _ hargs => exact hargs
        have hwargs : (Expr.call n args).Everywhere Expr.Worded :=
          hcall ▸ hworded.of_occurs e.leading_occurs
        rw [hu, isSome_vectorMatching?_name hn (by decide), skip_of_isInk (by decide),
          labelList?_arguments hargs fun a ha => hwargs.child ha, hcall, Expr.isMatchingCall]
        cases args.all Expr.isWord <;> rfl

/-- A label list is read from the front of an operand when that is a word in parentheses. -/
theorem labelList?_print (s : Text) :
    (labelList? (e.print ++ s)).isSome = e.leading.isWordInParens ∧
      ∀ r, labelList? (e.print ++ s) ≠ some ([], r) := by
  obtain ⟨t, ht, -⟩ := e.print_eq_leading
  have hd := hworded.of_occurs e.leading_occurs
  rw [ht, List.append_assoc]
  by_cases hparen : ∃ inner, e.leading = .paren inner
  · obtain ⟨inner, hinner⟩ := hparen
    have hparenAt : (Expr.paren inner).At .primary :=
      hinner ▸ he.leading_primary (by rw [hinner]; exact fun _ _ h => nomatch h)
    have hat : inner.At .chain := by
      cases hparenAt with
      | paren h => exact h
    have hchild : inner.Everywhere Expr.Worded := (hinner ▸ hd).child List.mem_cons_self
    have hargs : ∀ a ∈ [inner], a.At .chain := fun a ha => List.mem_singleton.mp ha ▸ hat
    have hlist := labelList?_arguments hargs (fun a ha => List.mem_singleton.mp ha ▸ hchild)
      (t ++ s)
    have htext : (Expr.paren inner).print ++ (t ++ s) =
        '(' :: (commaList ([inner].map Expr.print) ++ ')' :: (t ++ s)) := by
      rw [List.map_cons, List.map_nil, commaList_singleton, Expr.print, List.append_assoc]
      rfl
    rw [hinner, htext, hlist, List.all_cons, List.all_nil, Bool.and_true, Expr.isWordInParens]
    cases inner.isWord with
    | false => exact ⟨rfl, fun _ h => (by cases h)⟩
    | true => exact ⟨rfl, fun _ h => (by cases h)⟩
  · have hnone : labelList? (e.leading.print ++ (t ++ s)) = none := by
      rcases he.leading with ⟨sign, d, h⟩ | h
      · rw [h]
        cases sign <;> exact labelList?_of_ne (by decide) _
      · obtain ⟨c, w, hw, hc⟩ := primary_print_cons h (hd _ .root)
        rw [hw]
        exact labelList?_of_ne (fun h => hparen (hc.paren h)) _
    have hword : e.leading.isWordInParens = false := by
      generalize e.leading = d at hparen
      cases d with
      | paren inner => exact absurd ⟨inner, rfl⟩ hparen
      | _ => rfl
    rw [hnone, hword]
    exact ⟨rfl, fun _ h => (by cases h)⟩

/-- The reader of a modifier runs on into an operand exactly when the two clash. -/
theorem runsOn_print (m : Option BinaryModifier) (s : Text) :
    runsOn m (e.print ++ s) = clashes m e.leading := by
  have hbool := isSome_dropKeyword?_print he hworded (w := "bool".toList) (by decide) s
  have hmatching := isSome_vectorMatching?_print he hworded s
  have hgroup := isSome_groupModifier?_print he hworded s
  have hlabels := (labelList?_print he hworded s).1
  match m with
  | none => rw [runsOn, clashes, hbool, hmatching]
  | some ⟨_, none⟩ => rw [runsOn, clashes, hmatching]
  | some ⟨_, some ⟨_, _, none⟩⟩ => rw [runsOn, clashes, hgroup]
  | some ⟨_, some ⟨_, _, some ⟨_, []⟩⟩⟩ => rw [runsOn, clashes, hlabels]
  | some ⟨_, some ⟨_, _, some ⟨_, _ :: _⟩⟩⟩ => rfl

/-- In front of an operand with which it does not clash, a printed modifier is read back. -/
theorem binaryModifier_print {m : Option BinaryModifier} (hm : ∀ b ∈ m, b.WellFormed)
    (hclash : clashes m e.leading = false) (s : Text) :
    ∃ r, binaryModifier (modifierText m ++ ' ' :: (e.print ++ s)) = (m, r) ∧
      skip r = e.print ++ s :=
  binaryModifier_append hm (skip_print he hworded s) ((runsOn_print he hworded m s).trans hclash)

/-- In front of an operand with which it clashes, another modifier is read. -/
theorem clashes_eq_false_of_binaryModifier {m : Option BinaryModifier}
    (hm : ∀ b ∈ m, b.WellFormed) {s : Text}
    (h : (binaryModifier (modifierText m ++ ' ' :: (e.print ++ s))).1 = m) :
    clashes m e.leading = false := by
  rw [← runsOn_print he hworded m s]
  exact runsOn_eq_false hm (skip_print he hworded s) (labelList?_print he hworded s).2 h

end

end TenantScope.Query
