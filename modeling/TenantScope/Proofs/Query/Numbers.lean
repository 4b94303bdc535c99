/- A printed number is read as some number, whatever its value and whatever delimits it. -/
import TenantScope.Proofs.Text.Digits
import TenantScope.Query.Printer
import TenantScope.Query.SelectorReader

namespace TenantScope

/-! Values without a sign -/

theorem Binary64.isNegative_of_lt {n : Nat} (h : n < 2 ^ 63) :
    (⟨UInt64.ofNat n⟩ : Binary64).isNegative = false := by
  have hsize : n < 2 ^ 64 := Nat.lt_trans h (by decide)
  simp only [Binary64.isNegative, UInt64.toNat_ofNat', Nat.mod_eq_of_lt hsize,
    decide_eq_false_iff_not, Nat.not_le]
  exact h

theorem Binary64.isNegative_nearest (num den : Nat) :
    (Binary64.nearest num den).isNegative = false :=
  Binary64.isNegative_of_lt (Nat.lt_of_le_of_lt (Nat.min_le_right _ _) (by decide))

theorem Binary64.isNegative_ofDecimal (digits : Nat) (exponent : Int) :
    (Binary64.ofDecimal digits exponent).isNegative = false := by
  simp only [Binary64.ofDecimal]
  split
  · decide
  split
  · decide
  split <;> exact Binary64.isNegative_nearest _ _

namespace Query

theorem isNegative_of_special? {s r : Text} {x : Binary64} (h : special? s = some (x, r)) :
    x.isNegative = false := by
  rcases Option.or_eq_some_iff.mp h with h | ⟨-, h⟩
  · obtain ⟨rest, -, heq⟩ := Option.map_eq_some_iff.mp h
    cases heq
    decide
  · obtain ⟨rest, -, heq⟩ := Option.map_eq_some_iff.mp h
    cases heq
    decide

theorem isNegative_of_based? {letter : Char} {base : Nat} {s r : Text} {x : Binary64}
    (h : based? letter base s = some (x, r)) : x.isNegative = false := by
  unfold based? at h
  split at h
  · split at h
    · split at h
      · split at h
        · cases h
          exact Binary64.isNegative_nearest _ _
        · cases h
      · cases h
    · cases h
  · cases h

theorem isNegative_of_leadingZero? {s r : Text} {x : Binary64}
    (h : leadingZero? s = some (x, r)) : x.isNegative = false := by
  unfold leadingZero? at h
  split at h
  · split at h
    · split at h
      · cases h
      split at h
      · cases h
        exact Binary64.isNegative_nearest _ _
      · cases h
    · cases h
  · cases h

theorem isNegative_of_decimal? {s r : Text} {x : Binary64} (h : decimal? s = some (x, r)) :
    x.isNegative = false := by
  simp only [decimal?, Option.ite_none_left_eq_some] at h
  obtain ⟨rfl, -⟩ := Prod.mk.inj (Option.some.inj h.2)
  exact Binary64.isNegative_ofDecimal _ _

/-- A number is read without a sign. -/
theorem isNegative_of_number? {s r : Text} {x : Binary64} (h : number? s = some (x, r)) :
    x.isNegative = false := by
  rcases Option.or_eq_some_iff.mp h with h | ⟨-, h⟩
  · exact isNegative_of_special? h
  rcases Option.or_eq_some_iff.mp h with h | ⟨-, h⟩
  · exact isNegative_of_based? h
  rcases Option.or_eq_some_iff.mp h with h | ⟨-, h⟩
  · exact isNegative_of_based? h
  rcases Option.or_eq_some_iff.mp h with h | ⟨-, h⟩
  · exact isNegative_of_leadingZero? h
  · exact isNegative_of_decimal? h

/-! Decimal texts -/

theorem toLower_of_isDigit {c : Char} (h : c.isDigit = true) : c.toLower = c := by
  have hc : c.toNat ≤ 57 := (Char.isDigit_iff_toNat.mp h).2
  refine Text.toLower_of_not_isUpper (Bool.eq_false_iff.mpr fun hupper => ?_)
  have hlow := (Text.isUpper_iff_toNat.mp hupper).1
  omega

theorem dropKeyword?_eq_none {c d : Char} {w s : Text} (h : c.toLower ≠ d) :
    Text.dropKeyword? (d :: w) (c :: s) = none := by
  rw [Text.dropKeyword?, Text.dropWord?, if_neg h]
  rfl

/-- What may stand behind the whole part of a printed number. -/
def EndsWhole (s : Text) : Prop := ∀ c ∈ s.head?, c = '.' ∨ c ∈ delimiters

theorem EndsWhole.stopsAt {p : Char → Bool} {s : Text} (hs : EndsWhole s) (hpoint : p '.' = false)
    (hp : ∀ c ∈ delimiters, p c = false) : Text.StopsAt p s := by
  intro c hc
  rcases hs c hc with rfl | h
  · exact hpoint
  · exact hp c h

theorem Delimited.endsWhole {s : Text} (hs : Delimited s) : EndsWhole s :=
  fun c hc => .inr (hs c hc)

/-- A number that begins with decimal digits is none of the other kinds. -/
theorem number?_ofNat_append (n : Nat) {s : Text} (hs : EndsWhole s) :
    number? (Text.ofNat n ++ s) = decimal? (Text.ofNat n ++ s) := by
  obtain ⟨c, w, hw, hc, hzero⟩ := Text.ofNat_cons n
  have hlower := toLower_of_isDigit hc
  have hi : c.toLower ≠ 'i' := by rw [hlower]; rintro rfl; cases hc
  have hn : c.toLower ≠ 'n' := by rw [hlower]; rintro rfl; cases hc
  have hspecial : special? (Text.ofNat n ++ s) = none := by
    rw [hw, List.cons_append]
    unfold special?
    rw [show "inf".toList = ['i', 'n', 'f'] from rfl, show "nan".toList = ['n', 'a', 'n'] from rfl,
      dropKeyword?_eq_none hi, dropKeyword?_eq_none hn]
    rfl
  have hbased : ∀ letter base, (∀ c ∈ delimiters, c.toLower ≠ letter) → '.'.toLower ≠ letter →
      based? letter base (Text.ofNat n ++ s) = none := by
    intro letter base hdelim hpoint
    rw [hw, List.cons_append]
    unfold based?
    split
    · next d t heq =>
      obtain ⟨rfl, htail⟩ := List.cons.inj heq
      rw [hzero rfl, List.nil_append] at htail
      have hd : d.toLower ≠ letter := by
        rcases hs d (by rw [htail]; rfl) with rfl | h
        · exact hpoint
        · exact hdelim d h
      rw [if_neg hd]
    · rfl
  have hleading : leadingZero? (Text.ofNat n ++ s) = none := by
    rw [hw, List.cons_append]
    unfold leadingZero?
    split
    · next t heq =>
      obtain ⟨rfl, rfl⟩ := List.cons.inj heq
      rw [hzero rfl, List.nil_append, digits?_eq_none (hs.stopsAt (by decide) (by decide))]
    · rfl
  rw [number?, hspecial, hbased 'x' 16 (by decide) (by decide),
    hbased 'o' 8 (by decide) (by decide), hleading]
  rfl

theorem exponent?_of_delimited {s : Text} (hs : Delimited s) : exponent? s = none := by
  cases s with
  | nil => rfl
  | cons c s =>
      have hall : ∀ d ∈ delimiters, d.toLower ≠ 'e' := by decide
      simp only [exponent?, if_neg (hall c (hs c rfl))]

theorem decimal?_whole (n : Nat) {s : Text} (hs : Delimited s) :
    decimal? (Text.ofNat n ++ s) = some (.ofDecimal n 0, s) := by
  have hstop : Text.StopsAt Char.isDigit s := hs.stopsAt (by decide)
  have hdigits := fun (c : Char) => Text.isDigit_of_mem_ofNat (n := n) (c := c)
  have hpoint : ∀ t, s ≠ '.' :: t := by
    rintro t rfl
    exact absurd (hs '.' rfl) (by decide)
  simp only [decimal?, Text.takeWhile_append hdigits hstop, Text.dropWhile_append hdigits hstop,
    exponent?_of_delimited hs, Option.getD_none, List.append_nil,
    Text.ofNat_ne_nil n, if_false, Text.toNat_ofNat, List.length_nil, Int.ofNat_zero, Int.sub_zero]

theorem decimal?_pointed (n : Nat) {ds s : Text} (hds : ∀ c ∈ ds, c.isDigit = true)
    (hs : Delimited s) :
    decimal? (Text.ofNat n ++ '.' :: ds ++ s) =
      some (.ofDecimal (Text.toNat 10 (Text.ofNat n ++ ds)) (0 - ds.length), s) := by
  have hstop : Text.StopsAt Char.isDigit s := hs.stopsAt (by decide)
  have hpoint : Text.StopsAt Char.isDigit ('.' :: ds ++ s) := .cons (by decide)
  have hdigits := fun (c : Char) => Text.isDigit_of_mem_ofNat (n := n) (c := c)
  have hwhole : Text.ofNat n ++ ds ≠ [] :=
    fun h => Text.ofNat_ne_nil n (List.append_eq_nil_iff.mp h).1
  rw [List.append_assoc]
  simp only [decimal?, Text.takeWhile_append hdigits hpoint, Text.dropWhile_append hdigits hpoint]
  simp only [List.cons_append, Text.takeWhile_append hds hstop, Text.dropWhile_append hds hstop,
    exponent?_of_delimited hs, Option.getD_none, hwhole, if_false]

/-- The digits behind the point of a positional text. -/
def decimals (places n : Nat) : Text := Text.padZeros places (Text.ofNat (n % 10 ^ places))

/-- The value that is read from a positional text. -/
def pointedValue (places n : Nat) : Binary64 :=
  .ofDecimal (Text.toNat 10 (Text.ofNat (n / 10 ^ places) ++ decimals places n))
    (0 - (decimals places n).length)

theorem number?_pointed_append {places : Nat} (hplaces : places ≠ 0) (n : Nat) {s : Text}
    (hs : Delimited s) :
    number? (Binary64.pointed places n ++ s) = some (pointedValue places n, s) := by
  have hpoint : EndsWhole ('.' :: decimals places n ++ s) := by
    intro c hc
    cases hc
    exact .inl rfl
  have hdigits : ∀ c ∈ decimals places n, c.isDigit = true :=
    fun _ => Text.isDigit_of_mem_padZeros
  rw [Binary64.pointed, if_neg hplaces, ← decimals, List.append_assoc,
    number?_ofNat_append _ hpoint, ← List.append_assoc]
  exact decimal?_pointed _ hdigits hs

theorem number?_plain (digits : Nat) (exponent : Int) :
    ∃ y, ∀ s, Delimited s → number? (Binary64.plain digits exponent ++ s) = some (y, s) := by
  rw [Binary64.plain]
  split
  · next h => exact ⟨_, fun s hs => number?_pointed_append (by omega) digits hs⟩
  · exact ⟨_, fun s hs => (number?_ofNat_append _ hs.endsWhole).trans (decimal?_whole _ hs)⟩

theorem dropKeyword?_append_delimited {w s : Text} (hs : Delimited s) :
    Text.dropKeyword? (Text.lower w) (w ++ s) = some s := by
  have hword : ∀ v : Text, Text.dropWord? (Text.lower v) (v ++ s) = some s := by
    intro v
    induction v with
    | nil => rfl
    | cons c v ih =>
        simp only [Text.lower, List.map_cons, List.cons_append, Text.dropWord?, if_true]
        exact ih
  have hbound : Text.atBoundary s = true := by
    cases s with
    | nil => rfl
    | cons c s =>
        have hall : ∀ d ∈ delimiters, Text.isWordChar d = false := by decide
        rw [Text.atBoundary, hall c (hs c rfl)]
        rfl
  rw [Text.dropKeyword?, hword w, Option.filter_some, if_pos hbound]

theorem number?_infinity {s : Text} (hs : Delimited s) :
    number? ("Inf".toList ++ s) = some (.infinity, s) := by
  have hword := dropKeyword?_append_delimited (w := "Inf".toList) hs
  have hspecial : special? ("Inf".toList ++ s) = some (.infinity, s) := by
    rw [special?, show "inf".toList = Text.lower "Inf".toList from rfl, hword]
    rfl
  rw [number?, hspecial]
  rfl

theorem number?_nan {s : Text} (hs : Delimited s) :
    number? ("NaN".toList ++ s) = some (.nan, s) := by
  have hword := dropKeyword?_append_delimited (w := "NaN".toList) hs
  have hspecial : special? ("NaN".toList ++ s) = some (.nan, s) := by
    rw [special?, show "nan".toList = Text.lower "NaN".toList from rfl, hword]
    rfl
  rw [number?, hspecial]
  rfl

/-- The text of a value without a sign is read as one number wherever it is delimited. -/
theorem number?_text {x : Binary64} (hx : x.isNegative = false) :
    ∃ y, ∀ s, Delimited s → number? (x.text ++ s) = some (y, s) := by
  rw [Binary64.text]
  split
  · exact ⟨.nan, fun s hs => number?_nan hs⟩
  simp only [hx, Bool.false_eq_true, if_false, List.nil_append]
  split
  · exact ⟨.infinity, fun s hs => number?_infinity hs⟩
  split
  · have hzero : Text.ofNat 0 = ['0'] := rfl
    rw [← hzero]
    exact ⟨_, fun s hs => (number?_ofNat_append 0 hs.endsWhole).trans (decimal?_whole 0 hs)⟩
  · exact number?_plain _ _

end Query

open Query

/-- The value that is read from the text of a value. -/
def Binary64.reread (x : Binary64) : Binary64 := ((number? x.text).map Prod.fst).getD x

theorem Binary64.number?_text_append {x : Binary64} (hx : x.isNegative = false) {s : Text}
    (hs : Delimited s) : number? (x.text ++ s) = some (x.reread, s) := by
  obtain ⟨y, hy⟩ := number?_text hx
  have hself := hy [] .nil
  rw [List.append_nil] at hself
  rw [hy s hs, Binary64.reread, hself]
  rfl

end TenantScope
