/- Every reader reads a text alike when blanks and comments follow it. -/
import TenantScope.Proofs.Query.Lexemes
import TenantScope.Proofs.Query.Spacing

namespace TenantScope.Query

/-! Blanks and comments behind what is passed over -/

/-- Behind a text that leaves no literal and no comment broken, blanks and comments stay what they
are: they stand behind what is left, or nothing is left of both. -/
theorem skip_append {v : Text} (hv : Trailing v) {s : Text}
    (hfinal : (Mode.outside.after s).isFinal = true)
    (hwhole : Mode.outside.after s = .comment → breaksBare v = false) :
    skip (s ++ v) = skip s ++ v ∨ skip s = [] ∧ skip (s ++ v) = [] := by
  -- a text behind a hash sign is passed over in the mode of comments, whatever the text from it on
  have hall : ∀ s : Text,
      ((Mode.outside.after s).isFinal = true →
        (Mode.outside.after s = .comment → breaksBare v = false) →
        skip (s ++ v) = skip s ++ v ∨ skip s = [] ∧ skip (s ++ v) = []) ∧
      ((Mode.comment.after s).isFinal = true →
        (Mode.comment.after s = .comment → breaksBare v = false) → ∀ hash hash',
        skipFrom (some hash') (s ++ v) = skipFrom (some hash) s ++ v ∨
          skipFrom (some hash) s = [] ∧ skipFrom (some hash') (s ++ v) = []) := by
    intro s
    induction s with
    | nil =>
        refine ⟨fun _ _ => .inr ⟨rfl, hv.skip_eq_nil⟩, fun _ hwhole hash hash' => ?_⟩
        exact .inr ⟨rfl, hv.skipFrom_eq_nil (hwhole rfl) hash'⟩
    | cons c s ih =>
        refine ⟨fun hfinal hwhole => ?_, fun hfinal hwhole hash hash' => ?_⟩
        · rw [List.cons_append]
          by_cases hblank : isBlank c = true
          · have hstep := Mode.step_of_isOuter (isOuter_of_class (by decide) hblank)
            rw [Mode.after_cons, hstep] at hfinal hwhole
            rw [skip, skipFrom, if_pos hblank, skip, skipFrom, if_pos hblank]
            exact ih.1 hfinal hwhole
          by_cases hhash : c = '#'
          · subst hhash
            exact ih.2 hfinal hwhole ('#' :: s) ('#' :: (s ++ v))
          · have hink : isInk c = true := by simp [isInk, hblank, hhash]
            exact .inl (by rw [skip_of_isInk hink, skip_of_isInk hink, List.cons_append])
        · rcases skipFrom_comment_cons c s with ⟨hread, hmode⟩ | ⟨-, hmode⟩ | ⟨hread, hmode⟩
          · have hself := hread hash []
            rw [List.append_nil] at hself
            rw [hmode] at hfinal hwhole
            rw [List.cons_append, hread, hself]
            exact ih.1 hfinal hwhole
          · rw [hmode] at hfinal
            cases hfinal
          · have hself := hread hash []
            rw [List.append_nil] at hself
            rw [hmode] at hfinal hwhole
            rw [List.cons_append, hread, hself]
            exact ih.2 hfinal hwhole hash hash'
  exact (hall s).1 hfinal hwhole

/-! Prolonged texts -/

/-- The second text is the first one, which is shorter than the bound, with the blanks and comments
`v` behind it. Where nothing is left of the first, they may have been passed over. -/
structure Prolongs (v : Text) (n : Nat) (s t : Text) : Prop where
  trailing : Trailing v
  length_lt : s.length < n
  isFinal : (Mode.outside.after s).isFinal = true
  whole : Mode.outside.after s = .comment → breaksBare v = false
  eq : t = s ++ v ∨ s = [] ∧ t = []

namespace Prolongs

variable {v s t : Text} {n m : Nat}

theorem mono (h : Prolongs v n s t) (hm : s.length < m) : Prolongs v m s t :=
  ⟨h.trailing, hm, h.isFinal, h.whole, h.eq⟩

theorem le (h : Prolongs v n s t) (hnm : n ≤ m) : Prolongs v m s t :=
  h.mono (Nat.lt_of_lt_of_le h.length_lt hnm)

theorem stopsAt (h : Prolongs v n s t) : Text.StopsAt isInk v := h.trailing.stopsAt

theorem length_le (h : Prolongs v n s t) : s.length ≤ t.length := by
  rcases h.eq with rfl | ⟨rfl, rfl⟩
  · rw [List.length_append]
    exact Nat.le_add_right _ _
  · exact Nat.le_refl _

/-- What is left of the text is prolonged as it is. -/
theorem remainder (h : Prolongs v n s t) {r : Text} (hr : Remainder s r) :
    Prolongs v n r (r ++ v) := by
  refine ⟨h.trailing, Nat.lt_of_le_of_lt hr.length_le h.length_lt, ?_, ?_, .inl rfl⟩
  · rcases hr.mode with hm | ⟨rfl, -⟩
    · rw [← hm]
      exact h.isFinal
    · rfl
  · intro hcomment
    rcases hr.mode with hm | ⟨rfl, -⟩
    · exact h.whole (hm.trans hcomment)
    · cases hcomment

theorem nil_nil (h : Prolongs v n s t) : Prolongs v n [] [] :=
  ⟨h.trailing, Nat.lt_of_le_of_lt (Nat.zero_le _) h.length_lt, rfl, fun hc => (by cases hc),
    .inr ⟨rfl, rfl⟩⟩

theorem skip (h : Prolongs v n s t) : Prolongs v n (skip s) (skip t) := by
  rcases h.eq with rfl | ⟨rfl, rfl⟩
  · have hrest := h.remainder (skip_remainder s)
    rcases skip_append h.trailing h.isFinal h.whole with heq | ⟨hnil, heq⟩
    · rw [heq]
      exact hrest
    · rw [heq, hnil]
      exact h.nil_nil
  · exact h.nil_nil

/-- Both texts begin with the given character of a word, or neither does. -/
theorem head_cases (h : Prolongs v n s t) {c : Char} (hink : isInk c = true)
    (houter : isOuter c = true) :
    (∃ r m, m < n ∧ s = c :: r ∧ t = c :: (r ++ v) ∧ Prolongs v m r (r ++ v)) ∨
      s.head? ≠ some c ∧ t.head? ≠ some c := by
  cases s with
  | nil =>
      refine .inr ⟨fun hc => (by cases hc), fun hc => ?_⟩
      rcases h.eq with rfl | ⟨-, rfl⟩
      · rw [h.stopsAt c hc] at hink
        cases hink
      · cases hc
  | cons d s =>
      obtain rfl : t = d :: s ++ v := h.eq.resolve_right fun hnil => List.cons_ne_nil d s hnil.1
      by_cases hd : d = c
      · subst hd
        have hrest := h.remainder (.cons houter s)
        exact .inl ⟨s, s.length + 1, h.length_lt, rfl, rfl, hrest.mono (Nat.lt_succ_self _)⟩
      · exact .inr ⟨fun hc => hd (Option.some.inj hc), fun hc => hd (Option.some.inj hc)⟩

end Prolongs

/-! Readings of prolonged texts -/

section

variable {α β : Type} {v s t : Text} {n m : Nat}

/-- One value and two rests, of which the second prolongs the first. -/
def Alike (v : Text) (n : Nat) (x y : α × Text) : Prop :=
  ∃ a r t, x = (a, r) ∧ y = (a, t) ∧ Prolongs v n r t

/-- Both fail, or both read alike. -/
def SameLexeme (v : Text) (n : Nat) (x y : Option (α × Text)) : Prop :=
  x = none ∧ y = none ∨ ∃ a r t, x = some (a, r) ∧ y = some (a, t) ∧ Prolongs v n r t

/-- Both fail, wherever they stop, or both read alike. -/
def SameReading (v : Text) (n : Nat) (x y : Except Failure (α × Text)) : Prop :=
  (∃ f g, x = .error f ∧ y = .error g) ∨ ∃ a r t, x = .ok (a, r) ∧ y = .ok (a, t) ∧ Prolongs v n r t

/-- A lexer that reads alike what stands behind its own remainders. -/
theorem SameLexeme.of_before {f : Lexer α} (h : Prolongs v n s t)
    (hbefore : f (s ++ v) = (f s).map (lengthen v))
    (hremainder : ∀ a r, f s = some (a, r) → Remainder s r) :
    SameLexeme v n (f s) (f t) := by
  cases hread : f s with
  | none =>
      rw [hread] at hbefore
      rcases h.eq with rfl | ⟨rfl, rfl⟩
      · exact .inl ⟨rfl, hbefore⟩
      · exact .inl ⟨rfl, hread⟩
  | some p =>
      obtain ⟨a, r⟩ := p
      have hr := hremainder a r hread
      rw [hread] at hbefore
      rcases h.eq with rfl | ⟨rfl, rfl⟩
      · exact .inr ⟨a, r, r ++ v, rfl, hbefore, h.remainder hr⟩
      · obtain rfl := hr.eq_nil
        exact .inr ⟨a, [], [], rfl, hread, h.nil_nil⟩

/-- A word that is dropped from the front stands in front of both texts or of neither. -/
theorem Prolongs.drop_cases {f : Text → Option Text} (h : Prolongs v n s t)
    (hbefore : f (s ++ v) = (f s).map (· ++ v)) (hremainder : ∀ r, f s = some r → Remainder s r) :
    f s = none ∧ f t = none ∨ ∃ r r', f s = some r ∧ f t = some r' ∧ Prolongs v n r r' := by
  have hpair : SameLexeme v n ((f s).map (Prod.mk ())) ((f t).map (Prod.mk ())) := by
    refine .of_before (f := fun s => (f s).map (Prod.mk ())) h ?_ fun a r hread => ?_
    · rw [hbefore, Option.map_map, Option.map_map]
      rfl
    · obtain ⟨q, hq, ⟨⟩⟩ := Option.map_eq_some_iff.mp hread
      exact hremainder r hq
  rcases hpair with ⟨hs, ht⟩ | ⟨a, r, r', hs, ht, hr⟩
  · exact .inl ⟨Option.map_eq_none_iff.mp hs, Option.map_eq_none_iff.mp ht⟩
  · obtain ⟨q, hq, ⟨⟩⟩ := Option.map_eq_some_iff.mp hs
    obtain ⟨q', hq', ⟨⟩⟩ := Option.map_eq_some_iff.mp ht
    exact .inr ⟨r, r', hq, hq', hr⟩

theorem SameReading.le {x y : Except Failure (α × Text)} (h : SameReading v m x y) (hmn : m ≤ n) :
    SameReading v n x y := by
  rcases h with h | ⟨a, r, t, hx, hy, ht⟩
  · exact .inl h
  · exact .inr ⟨a, r, t, hx, hy, ht.le hmn⟩

theorem SameLexeme.bind {x y : Option (α × Text)} {f g : α × Text → Option (β × Text)}
    (h : SameLexeme v m x y)
    (hnext : ∀ a r t, Prolongs v m r t → SameLexeme v n (f (a, r)) (g (a, t))) :
    SameLexeme v n (x.bind f) (y.bind g) := by
  rcases h with ⟨rfl, rfl⟩ | ⟨a, r, t, rfl, rfl, ht⟩
  · exact .inl ⟨rfl, rfl⟩
  · exact hnext a r t ht

theorem SameReading.bind {x y : Except Failure (α × Text)}
    {f g : α × Text → Except Failure (β × Text)} (h : SameReading v m x y)
    (hnext : ∀ a r t, Prolongs v m r t → SameReading v n (f (a, r)) (g (a, t))) :
    SameReading v n (x >>= f) (y >>= g) := by
  rcases h with ⟨e, e', rfl, rfl⟩ | ⟨a, r, t, rfl, rfl, ht⟩
  · exact .inl ⟨e, e', rfl, rfl⟩
  · exact hnext a r t ht

theorem SameLexeme.some (h : Prolongs v n s t) (a : α) :
    SameLexeme v n (some (a, s)) (some (a, t)) := .inr ⟨a, s, t, rfl, rfl, h⟩

theorem SameReading.ok (h : Prolongs v n s t) (a : α) :
    SameReading v n (.ok (a, s)) (.ok (a, t)) := .inr ⟨a, s, t, rfl, rfl, h⟩

theorem SameLexeme.or {x x' y y' : Option (α × Text)} (h : SameLexeme v n x y)
    (h' : SameLexeme v n x' y') : SameLexeme v n (x.or x') (y.or y') := by
  rcases h with ⟨rfl, rfl⟩ | ⟨a, r, t, rfl, rfl, ht⟩
  · exact h'
  · exact .some ht a

theorem SameReading.mapError {x y : Except Failure (α × Text)} (h : SameReading v n x y)
    (f g : Failure → Failure) : SameReading v n (x.mapError f) (y.mapError g) := by
  rcases h with ⟨e, e', rfl, rfl⟩ | ⟨a, r, t, rfl, rfl, ht⟩
  · exact .inl ⟨f e, g e', rfl, rfl⟩
  · exact .ok ht a

theorem sameReading_iff {x y : Except Failure (α × Text)} :
    SameReading v n x y ↔ SameLexeme v n x.toOption y.toOption := by
  cases x with
  | error f =>
      cases y with
      | error g => exact iff_of_true (.inl ⟨f, g, rfl, rfl⟩) (.inl ⟨rfl, rfl⟩)
      | ok b =>
          refine iff_of_false ?_ ?_
          · rintro (⟨_, _, -, h⟩ | ⟨_, _, _, h, -⟩) <;> cases h
          · rintro (⟨-, h⟩ | ⟨_, _, _, h, -⟩) <;> cases h
  | ok a =>
      constructor
      · rintro (⟨_, _, h, -⟩ | ⟨b, r, t, ⟨⟩, rfl, ht⟩)
        · cases h
        · exact .some ht b
      · rintro (⟨h, -⟩ | ⟨b, r, t, ⟨⟩, hy, ht⟩)
        · cases h
        · rw [eq_ok_of_toOption hy]
          exact .ok ht b

/-- A character that is expected stands in front of both texts or of neither, and what is left
behind it is shorter. -/
theorem SameReading.expect_bind_lt {c : Char} (hc : isInk c = true ∧ isOuter c = true)
    (h : Prolongs v n s t) {f g : Text → Except Failure (α × Text)}
    (hnext : ∀ k < n, ∀ r, Prolongs v k r (r ++ v) → SameReading v m (f r) (g (r ++ v))) :
    SameReading v m (expect c s >>= f) (expect c t >>= g) := by
  have herror : ∀ s : Text, s.head? ≠ Option.some c → ∃ e, expect c s = .error e := by
    intro s hs
    cases s with
    | nil => exact ⟨_, rfl⟩
    | cons d s => exact ⟨_, if_neg fun hd => hs (congrArg Option.some hd)⟩
  rcases h.head_cases hc.1 hc.2 with ⟨r, k, hk, rfl, rfl, hr⟩ | ⟨hs, ht⟩
  · have hread (r : Text) : expect c (c :: r) = .ok r := if_pos rfl
    rw [hread, hread]
    exact hnext k hk r hr
  · obtain ⟨e, he⟩ := herror s hs
    obtain ⟨e', he'⟩ := herror t ht
    rw [he, he']
    exact .inl ⟨e, e', rfl, rfl⟩

theorem SameReading.expect_bind {c : Char} (hc : isInk c = true ∧ isOuter c = true)
    (h : Prolongs v n s t) {f g : Text → Except Failure (α × Text)}
    (hnext : ∀ r, Prolongs v n r (r ++ v) → SameReading v m (f r) (g (r ++ v))) :
    SameReading v m (expect c s >>= f) (expect c t >>= g) :=
  .expect_bind_lt hc h fun _ hk r hr => hnext r (hr.le (Nat.le_of_lt hk))

end

/-! Words and literals -/

section

variable {v s t : Text} {n : Nat} (h : Prolongs v n s t)
include h

theorem labelName?_prolonged : SameLexeme v n (labelName? s) (labelName? t) :=
  .of_before h (labelName?_before h.stopsAt s) fun _ _ => labelName?_remainder

theorem wordOf?_prolonged {α : Type} {text : α → Text} {words : List α}
    (hink : ∀ w ∈ words, ∀ c ∈ text w, isInk c = true)
    (houter : ∀ w ∈ words, ∀ c ∈ text w, isOuter c = true) :
    SameLexeme v n (wordOf? text words s) (wordOf? text words t) :=
  .of_before h (wordOf?_before h.stopsAt hink s) fun _ _ => wordOf?_remainder houter

theorem number?_prolonged : SameLexeme v n (number? s) (number? t) :=
  .of_before h (number?_before h.stopsAt s) fun _ _ => number?_remainder

theorem duration_prolonged : SameReading v n (duration s) (duration t) :=
  sameReading_iff.mpr <| .of_before (f := fun s => (duration s).toOption) h
    (duration_before h.stopsAt s) fun _ _ hread => duration_remainder (eq_ok_of_toOption hread)

theorem stringLiteral?_prolonged : SameLexeme v n (stringLiteral? s) (stringLiteral? t) := by
  have hmarks : ∀ c ∈ spacingStarts, c ∉ quotationMarks := by decide
  have hbegin : ∀ c ∈ v.head?, c ∉ quotationMarks := fun c hc =>
    hmarks c (mem_spacingStarts (h.stopsAt c hc))
  exact .of_before h (stringLiteral?_append hbegin h.isFinal) fun _ _ => stringLiteral?_remainder

/-! Lists -/

theorem skipComma?_prolonged :
    skipComma? s = none ∧ skipComma? t = none ∨
      ∃ r r' m, m < n ∧ skipComma? s = some r ∧ skipComma? t = some r' ∧ Prolongs v m r r' := by
  rcases h.skip.head_cases (c := ',') (by decide) (by decide) with
    ⟨r, m, hm, hs, ht, hr⟩ | ⟨hs, ht⟩
  · rw [skipComma?, skipComma?, hs, ht]
    exact .inr ⟨_, _, m, hm, rfl, rfl, hr.skip⟩
  · exact .inl ⟨skipComma?_eq_none hs, skipComma?_eq_none ht⟩

theorem dropComma_prolonged : Prolongs v n (dropComma s) (dropComma t) := by
  rcases h.skip.head_cases (c := ',') (by decide) (by decide) with
    ⟨r, m, hm, hs, ht, hr⟩ | ⟨hs, ht⟩
  · rw [dropComma, dropComma, hs, ht]
    exact hr.le (Nat.le_of_lt hm)
  · rw [dropComma_of_head hs, dropComma_of_head ht]
    exact h

end

section

variable {α : Type} {v : Text} {k : Nat} {item item' : Lexer α}
  (hitem : ∀ {n s t}, n ≤ k → Prolongs v n s t → SameLexeme v n (item s) (item' t))
include hitem

theorem sepItems_prolonged {fuel fuel' n : Nat} {s t : Text} (h : Prolongs v n s t) (hn : n ≤ k)
    (hnf : n ≤ fuel + 1) (hfuel : fuel ≤ fuel') :
    Alike v n (sepItems skipComma? item fuel s) (sepItems skipComma? item' fuel' t) := by
  have hends {item : Lexer α} {fuel : Nat} {s : Text} (hs : (skipComma? s).bind item = none) :
      sepItems skipComma? item fuel s = ([], s) := by
    cases fuel with
    | zero => rfl
    | succ fuel => rw [sepItems, hs]
  induction fuel generalizing fuel' n s t with
  | zero =>
      rcases skipComma?_prolonged h with ⟨hs, ht⟩ | ⟨r, r', m, hm, -, -, hr⟩
      · exact ⟨[], s, t, hends (by rw [hs]; rfl), hends (by rw [ht]; rfl), h⟩
      · have hlength := hr.length_lt
        omega
  | succ fuel ih =>
      rcases skipComma?_prolonged h with ⟨hs, ht⟩ | ⟨r, r', m, hm, hs, ht, hr⟩
      · exact ⟨[], s, t, hends (by rw [hs]; rfl), hends (by rw [ht]; rfl), h⟩
      rcases hitem (by omega) hr with ⟨hs', ht'⟩ | ⟨a, q, q', hs', ht', hq⟩
      · exact ⟨[], s, t, hends (by rw [hs]; exact hs'), hends (by rw [ht]; exact ht'), h⟩
      obtain ⟨fuel', rfl⟩ := Nat.exists_eq_add_one_of_ne_zero (Nat.ne_zero_of_lt hfuel)
      have hle := Nat.le_of_succ_le_succ hfuel
      obtain ⟨as, p, p', heq, heq', hp⟩ := ih hq (by omega) (by omega) hle
      have hread : (skipComma? s).bind item = some (a, q) := by rw [hs]; exact hs'
      have hread' : (skipComma? t).bind item' = some (a, q') := by rw [ht]; exact ht'
      refine ⟨a :: as, p, p', ?_, ?_, hp.le (Nat.le_of_lt hm)⟩
      · simp only [sepItems, hread, heq]
      · simp only [sepItems, hread', heq']

theorem sepList_prolonged {fuel fuel' n : Nat} {s t : Text} (h : Prolongs v n s t) (hn : n ≤ k)
    (hnf : n ≤ fuel + 1) (hfuel : fuel ≤ fuel') :
    Alike v n (sepList skipComma? item fuel s) (sepList skipComma? item' fuel' t) := by
  rw [sepList, sepList]
  rcases hitem hn h with ⟨hs, ht⟩ | ⟨a, r, r', hs, ht, hr⟩
  · rw [hs, ht]
    exact ⟨[], s, t, rfl, rfl, h⟩
  · obtain ⟨as, q, q', heq, heq', hq⟩ := sepItems_prolonged hitem hr hn hnf hfuel
    rw [hs, ht]
    exact ⟨a :: as, q, q', by simp only [heq], by simp only [heq'], hq⟩

end

section

variable {v s t : Text} {n : Nat} (h : Prolongs v n s t)
include h

theorem labelList?_prolonged : SameLexeme v n (labelList? s) (labelList? t) := by
  rcases h.head_cases (c := '(') (by decide) (by decide) with
    ⟨r, m, hm, rfl, rfl, hr⟩ | ⟨hs, ht⟩
  swap
  · exact .inl ⟨labelList?_eq_none hs, labelList?_eq_none ht⟩
  have hlabel {n : Nat} {s t : Text} (_ : n ≤ r.length + 1) (h : Prolongs v n s t) :
      SameLexeme v n (clauseLabel? s) (clauseLabel? t) :=
    .of_before h (clauseLabel?_before h.stopsAt s) fun _ _ => clauseLabel?_remainder
  have hinside := hr.skip.mono (Nat.lt_succ_of_le (skip_remainder r).length_le)
  obtain ⟨ls, q, q', heq, heq', hq⟩ :=
    sepList_prolonged hlabel hinside (Nat.le_refl _) (Nat.le_refl _) hr.length_le
  have hlength := hr.length_lt
  simp only [labelList?, heq, heq']
  rcases hq.skip.head_cases (c := ')') (by decide) (by decide) with
    ⟨p, k, hk, hs, ht, hp⟩ | ⟨hs, ht⟩
  · rw [hs, ht]
    exact .some (hp.le (by omega)) ls
  · refine .inl ⟨?_, ?_⟩
    · split
      · next hclose => exact absurd (by rw [hclose]; rfl) hs
      · rfl
    · split
      · next hclose => exact absurd (by rw [hclose]; rfl) ht
      · rfl

/-! Matchers -/

theorem namedMatcher?_prolonged : SameLexeme v n (namedMatcher? s) (namedMatcher? t) := by
  rw [namedMatcher?, namedMatcher?]
  refine .bind (labelName?_prolonged h.skip) fun name r t hr => ?_
  refine .bind (wordOf?_prolonged hr.skip (by decide) (by decide)) fun op r t hr => ?_
  exact .bind (stringLiteral?_prolonged hr.skip) fun value r t hr => .some hr _

theorem matcher?_prolonged : SameLexeme v n (matcher? s) (matcher? t) := by
  have hvalue : SameLexeme v n
      ((stringLiteral? (skip s)).bind fun r => some (Matcher.mk metricLabel .equal r.1, r.2))
      ((stringLiteral? (skip t)).bind fun r => some (Matcher.mk metricLabel .equal r.1, r.2)) :=
    .bind (stringLiteral?_prolonged h.skip) fun value r t hr => .some hr _
  rw [matcher?, matcher?, Option.map_eq_bind, Option.map_eq_bind]
  exact .or (namedMatcher?_prolonged h) hvalue

theorem matchersInside_prolonged : Alike v n (matchersInside s) (matchersInside t) := by
  obtain ⟨ms, q, q', heq, heq', hq⟩ := sepList_prolonged
    (fun _ h => matcher?_prolonged h) (h.mono (Nat.lt_succ_self _)) (Nat.le_refl _) (Nat.le_refl _)
    h.length_le
  rw [matchersInside, matchersInside, heq, heq']
  cases ms with
  | nil => exact ⟨[], s, t, rfl, rfl, h⟩
  | cons m ms =>
      exact ⟨m :: ms, _, _, rfl, rfl, (dropComma_prolonged hq).le h.length_lt⟩

theorem matcherList_prolonged : SameReading v n (matcherList s) (matcherList t) := by
  rw [matcherList, matcherList]
  refine .expect_bind (by decide) h fun r hr => ?_
  obtain ⟨ms, q, q', heq, heq', hq⟩ := matchersInside_prolonged hr.skip
  rw [heq, heq']
  exact .expect_bind (by decide) hq.skip fun q hq => .ok hq ms

/-! Modifiers in time -/

theorem instant?_prolonged : SameLexeme v n (instant? s) (instant? t) := by
  have hnone {s : Text} (hs : (skip s).head? ≠ some '@') : instant? s = none := by
    unfold instant?
    split
    · next hat => exact absurd (by rw [hat]; rfl) hs
    · rfl
  rcases h.skip.head_cases (c := '@') (by decide) (by decide) with
    ⟨r, m, hm, hs, ht, hr⟩ | ⟨hs, ht⟩
  swap
  · exact .inl ⟨hnone hs, hnone ht⟩
  have hword {w : Text} (hink : ∀ c ∈ w, isInk c = true) (houter : ∀ c ∈ w, isOuter c = true)
      (i : Instant) : SameLexeme v n ((Text.dropLead? w (skip r)).map fun rest => (i, rest))
        ((Text.dropLead? w (skip (r ++ v))).map fun rest => (i, rest)) := by
    rcases hr.skip.drop_cases (dropLead?_before h.stopsAt hink _)
      (fun _ => dropLead?_remainder houter) with ⟨hs, ht⟩ | ⟨q, q', hs, ht, hq⟩
    · rw [hs, ht]
      exact .inl ⟨rfl, rfl⟩
    · rw [hs, ht]
      exact .some (hq.le (Nat.le_of_lt hm)) i
  simp only [instant?, hs, ht]
  refine .or (hword (by decide) (by decide) .start) (.or (hword (by decide) (by decide) .finish) ?_)
  refine .bind (m := m) (.of_before hr.skip (signedNumber?_before h.stopsAt _)
    fun _ _ => signedNumber?_remainder) fun x q q' hq => ?_
  dsimp only
  cases millisOf? x with
  | none => exact .inl ⟨rfl, rfl⟩
  | some ms => exact .some (hq.le (Nat.le_of_lt hm)) _

theorem offset?_prolonged : SameLexeme v n (offset? s) (offset? t) := by
  rw [offset?, offset?]
  refine .bind (wordOf?_prolonged h.skip (by decide) (by decide)) fun word r t hr => ?_
  exact .of_before hr.skip (signedDuration?_before h.stopsAt _) fun _ _ => signedDuration?_remainder

theorem modifiersFrom_prolonged (fuel : Nat) (m : Modifiers) :
    SameReading v n (modifiersFrom fuel m s) (modifiersFrom fuel m t) := by
  induction fuel generalizing m s t with
  | zero => exact .ok h m
  | succ fuel ih =>
      rw [modifiersFrom, modifiersFrom]
      rcases instant?_prolonged h with ⟨hs, ht⟩ | ⟨i, r, r', hs, ht, hr⟩
      · rcases offset?_prolonged h with ⟨hs', ht'⟩ | ⟨ms, r, r', hs', ht', hr⟩
        · rw [hs, ht, hs', ht']
          exact .ok h m
        · rw [hs, ht, hs', ht']
          dsimp only
          split
          · exact .inl ⟨_, _, rfl, rfl⟩
          · exact ih hr _
      · rw [hs, ht]
        dsimp only
        split
        · exact .inl ⟨_, _, rfl, rfl⟩
        · exact ih hr _

theorem modifiers_prolonged : SameReading v n (modifiers s) (modifiers t) :=
  modifiersFrom_prolonged h 3 .empty

/-! Selectors -/

theorem atSubquery_prolonged : atSubquery s = atSubquery t := by
  rcases h.head_cases (c := '[') (by decide) (by decide) with
    ⟨r, m, hm, rfl, rfl, hr⟩ | ⟨hs, ht⟩
  swap
  · rw [atSubquery_eq_false hs, atSubquery_eq_false ht]
  have hcolon (s : Text) : atSubquery ('[' :: s) =
      (duration s).toOption.any fun p => decide (p.2.head? = some ':') := by
    cases hread : duration s with
    | error f => simp only [atSubquery, hread]; rfl
    | ok p =>
        obtain ⟨ms, q⟩ := p
        simp only [atSubquery, hread]
        split
        · next heq => cases heq; rfl
        · next hne =>
          refine (decide_eq_false fun hq => ?_).symm
          obtain ⟨p, rfl⟩ := List.head?_eq_some_iff.mp hq
          exact hne ms p rfl
  rw [hcolon, hcolon]
  rcases duration_prolonged hr with ⟨f, g, hs, ht⟩ | ⟨ms, q, q', hs, ht, hq⟩
  · rw [hs, ht]
    rfl
  · rw [hs, ht]
    rcases hq.head_cases (c := ':') (by decide) (by decide) with
      ⟨p, k, hk, rfl, rfl, hp⟩ | ⟨hs, ht⟩
    · rfl
    · exact (decide_eq_false hs).trans (decide_eq_false ht).symm

theorem selectorTail_prolonged (name : Option Text) (ms : List Matcher) :
    SameReading v n (selectorTail name ms s) (selectorTail name ms t) := by
  have hplain {s : Text} (hs : (skip s).head? ≠ some '[') : selectorTail name ms s =
      modifiers (skip s) >>= fun r => .ok (Expr.vector ⟨name, ms, r.1⟩, r.2) := by
    unfold selectorTail
    dsimp only
    split
    · next hbracket => exact absurd (by rw [hbracket]; rfl) hs
    · rfl
  have hvector : SameReading v n
      (modifiers (skip s) >>= fun r => .ok (Expr.vector ⟨name, ms, r.1⟩, r.2))
      (modifiers (skip t) >>= fun r => .ok (Expr.vector ⟨name, ms, r.1⟩, r.2)) :=
    .bind (modifiers_prolonged h.skip) fun m r t hr => .ok hr _
  rcases h.skip.head_cases (c := '[') (by decide) (by decide) with
    ⟨r, m, hm, hs, ht, hr⟩ | ⟨hs, ht⟩
  swap
  · rw [hplain hs, hplain ht]
    exact hvector
  have hat := atSubquery_prolonged h.skip
  rw [hs, ht] at hat hvector
  simp only [selectorTail, hs, ht, ← hat]
  split
  · exact hvector
  · refine SameReading.le (m := m) ?_ (Nat.le_of_lt hm)
    refine .bind (duration_prolonged hr) fun range q q' hq => ?_
    refine .expect_bind (by decide) hq fun q hq => ?_
    exact .bind (modifiers_prolonged hq) fun m r t hr => .ok hr _

theorem matcherSelector_prolonged :
    SameReading v n (matcherSelector s) (matcherSelector t) := by
  rw [matcherSelector, matcherSelector]
  exact .bind (matcherList_prolonged h) fun ms r t hr => selectorTail_prolonged hr _ _

theorem namedSelector_prolonged (name : Text) :
    SameReading v n (namedSelector name s) (namedSelector name t) := by
  have hplain {s : Text} (hs : s.head? ≠ some '{') : namedSelector name s =
      selectorTail (some name) [] s := by
    unfold namedSelector
    split
    · exact absurd rfl hs
    · rfl
  rcases h.head_cases (c := '{') (by decide) (by decide) with
    ⟨r, m, hm, rfl, rfl, hr⟩ | ⟨hs, ht⟩
  · exact .bind (matcherList_prolonged h) fun ms r t hr => selectorTail_prolonged hr _ _
  · rw [hplain hs, hplain ht]
    exact selectorTail_prolonged h _ _

end

end TenantScope.Query
