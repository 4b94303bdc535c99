/- A printed instant is read as some instant, whatever the timestamp. -/
import TenantScope.Proofs.Number.Rounding
import TenantScope.Proofs.Query.Blank
import TenantScope.Proofs.Query.Numbers
import Mathlib.Data.List.Induction

namespace TenantScope

theorem Text.toNat_lt_pow {w : Text} (hw : ∀ c ∈ w, c.isDigit = true) :
    Text.toNat 10 w < 10 ^ w.length := by
  induction w using List.reverseRecOn with
  | nil => decide
  | append_singleton w c ih =>
      have hinit := ih fun d hd => hw d (List.mem_append_left _ hd)
      have hc : (Text.digit? 10 c).getD 0 < 10 := by
        have hdigit := hw c (List.mem_append_right _ List.mem_cons_self)
        have hnine : '9'.toNat = 57 := rfl
        have hzero : '0'.toNat = 48 := rfl
        have := (Char.isDigit_iff_toNat.mp hdigit).2
        rw [Text.digit?_ten, if_pos hdigit, Option.getD_some]
        omega
      rw [Text.toNat_append, List.length_append, List.length_singleton, Nat.pow_succ]
      omega

theorem Text.length_ofNat_le {n k : Nat} (hk : 0 < k) (h : n < 10 ^ k) :
    (Text.ofNat n).length ≤ k := (Nat.length_toDigits_le_iff (by decide) hk).mpr h

/-- Decimals with few digits and no exponent upwards are finite. -/
theorem Binary64.isFinite_ofDecimal {digits : Nat} {places : Nat} (h : digits < 10 ^ 40) :
    (Binary64.ofDecimal digits (0 - places)).isFinite = true := by
  have hlength := Text.length_ofNat_le (by decide) h
  rw [Text.ofNat] at hlength
  simp only [Binary64.ofDecimal]
  split
  · decide
  split
  · omega
  have hbound : digits < 2 ^ 200 := Nat.lt_trans h (by decide)
  split
  · refine Binary64.isFinite_nearest (n := 200) ?_ (by decide)
    refine Nat.lt_of_lt_of_le hbound (Nat.le_mul_of_pos_left _ (Nat.pow_pos (by decide)))
  · next hexponent =>
    have hzero : (0 - (places : Int)).natAbs = 0 := by omega
    rw [hzero, Nat.pow_zero, Nat.mul_one]
    exact Binary64.isFinite_nearest (n := 200) (by omega) (by decide)

namespace Query

/-! Timestamps -/

/-- The range of timestamps in milliseconds. -/
def Instant.InRange : Instant → Prop
  | .millis ms => ms.natAbs ≤ 2 ^ 63
  | _ => True

theorem inRange_clampInstant (ms : Int) : (Instant.millis (clampInstant ms)).InRange := by
  simp only [Instant.InRange, clampInstant]
  omega

/-- The thousandths that the text of a timestamp shows, as a whole number. -/
def thousandths (ms : Int) : Nat :=
  Binary64.roundEven
    ((Binary64.nearest (Binary64.ofNat ms.natAbs).units (1000 * 2 ^ 1074)).units * 10 ^ 3)
    (2 ^ 1074)

theorem fixed_of_unsigned {x : Binary64} (hx : x.isNegative = false) (places : Nat) :
    x.fixed places =
      Binary64.pointed places (Binary64.roundEven (x.units * 10 ^ places) (2 ^ 1074)) := by
  rw [Binary64.fixed, hx]
  exact List.nil_append _

theorem secondsText_eq (ms : Int) :
    secondsText ms = (if ms < 0 then ['-'] else []) ++ Binary64.pointed 3 (thousandths ms) := by
  unfold secondsText
  dsimp only
  rw [fixed_of_unsigned (Binary64.isNegative_nearest _ _), thousandths]

/-- The text of a timestamp in range has few digits, which keeps what is read from it finite. -/
theorem thousandths_lt {ms : Int} (h : ms.natAbs ≤ 2 ^ 63) : thousandths ms < 10 ^ 30 := by
  have hms : ms.natAbs < 1 * 2 ^ 64 := by omega
  have hmillis := Binary64.units_nearest_lt hms
  rw [← Binary64.ofNat] at hmillis
  have hquotient : (Binary64.ofNat ms.natAbs).units < 1000 * 2 ^ 1074 * 2 ^ 65 := by
    generalize (2 : Nat) ^ 1074 = scale at hmillis ⊢
    omega
  have hseconds := Binary64.units_nearest_lt hquotient
  have hscale : 0 < (2 : Nat) ^ 1074 := Nat.two_pow_pos 1074
  clear hmillis hquotient
  rw [thousandths]
  generalize Binary64.units (Binary64.nearest _ _) = units at hseconds ⊢
  generalize (2 : Nat) ^ 1074 = scale at hseconds hscale ⊢
  have hproduct : units * 10 ^ 3 / scale < 2 ^ 66 * 10 ^ 3 := by
    rw [Nat.div_lt_iff_lt_mul hscale, Nat.mul_right_comm]
    exact Nat.mul_lt_mul_of_pos_right hseconds (by decide)
  have hsteps := Binary64.roundEven_le (units * 10 ^ 3) scale
  omega

theorem length_decimals_three (n : Nat) : (decimals 3 n).length = 3 := by
  have := Text.length_ofNat_le (k := 3) (by decide) (Nat.mod_lt n (by decide : 10 ^ 3 > 0))
  rw [decimals, Text.padZeros, List.length_append, List.length_replicate]
  omega

theorem isFinite_pointedValue {n : Nat} (h : n < 10 ^ 30) :
    (pointedValue 3 n).isFinite = true := by
  refine Binary64.isFinite_ofDecimal (Nat.lt_of_lt_of_le (Text.toNat_lt_pow ?_) ?_)
  · intro c hc
    rcases List.mem_append.mp hc with hc | hc
    · exact Text.isDigit_of_mem_ofNat hc
    · exact Text.isDigit_of_mem_padZeros hc
  · have hwhole := Text.length_ofNat_le (n := n / 10 ^ 3) (k := 30) (by decide) (by omega)
    refine Nat.pow_le_pow_right (by decide) ?_
    rw [List.length_append, length_decimals_three]
    omega

/-- A text that begins with a digit has no sign. -/
theorem signedNumber?_of_digit {c : Char} (hc : c.isDigit = true) (s : Text) :
    signedNumber? (c :: s) = number? (c :: s) := by
  rw [signedNumber?]
  · rintro t h
    obtain ⟨rfl, -⟩ := List.cons.inj h
    cases hc
  · rintro t h
    obtain ⟨rfl, -⟩ := List.cons.inj h
    cases hc

theorem pointed_cons (places n : Nat) :
    ∃ c w, Binary64.pointed places n = c :: w ∧ c.isDigit = true := by
  obtain ⟨c, w, hw, hc, -⟩ := Text.ofNat_cons (n / 10 ^ places)
  simp only [Binary64.pointed, hw]
  split
  · exact ⟨c, w, rfl, hc⟩
  · exact ⟨c, _, rfl, hc⟩

/-- The text of a timestamp in range is read as one finite number wherever it is delimited. -/
theorem signedNumber?_secondsText {ms : Int} (h : ms.natAbs ≤ 2 ^ 63) :
    ∃ y, y.isFinite = true ∧
      ∀ s, Delimited s → signedNumber? (secondsText ms ++ s) = some (y, s) := by
  have hfinite := isFinite_pointedValue (thousandths_lt h)
  have hread := fun s => number?_pointed_append (by decide : 3 ≠ 0) (thousandths ms) (s := s)
  rw [secondsText_eq]
  by_cases hneg : ms < 0
  · generalize pointedValue 3 (thousandths ms) = y at hfinite hread
    refine ⟨if y.isNaN then y else y.neg, ?_, fun s hs => ?_⟩
    · split
      · exact hfinite
      · exact (Binary64.isFinite_neg y).trans hfinite
    · rw [if_pos hneg, List.singleton_append, List.cons_append, signedNumber?, hread s hs]
      rfl
  · refine ⟨pointedValue 3 (thousandths ms), hfinite, fun s hs => ?_⟩
    obtain ⟨c, w, hw, hc⟩ := pointed_cons 3 (thousandths ms)
    rw [if_neg hneg, List.nil_append, ← hread s hs, hw]
    exact signedNumber?_of_digit hc _

theorem secondsText_cons (ms : Int) :
    ∃ c w, secondsText ms = c :: w ∧ (c = '-' ∨ c.isDigit = true) := by
  obtain ⟨c, w, hw, hc⟩ := pointed_cons 3 (thousandths ms)
  rw [secondsText_eq, hw]
  split
  · exact ⟨'-', c :: w, rfl, .inl rfl⟩
  · exact ⟨c, w, rfl, .inr hc⟩

end Query

open Query

/-- The instant that is read from the text of an instant. -/
def Query.Instant.reread : Instant → Instant
  | .millis ms =>
    .millis ((((signedNumber? (secondsText ms)).map Prod.fst).bind millisOf?).getD ms)
  | instant => instant

namespace Query

/-- A printed instant is read wherever it is delimited. -/
theorem instant?_append {instant : Instant} (h : instant.InRange) {s : Text} (hs : Delimited s) :
    instant? (" @ ".toList ++ instant.text ++ s) = some (instant.reread, s) := by
  cases instant with
  | start => rfl
  | finish => rfl
  | millis ms =>
      obtain ⟨y, hfinite, hy⟩ := signedNumber?_secondsText h
      obtain ⟨ms', hms'⟩ : ∃ ms', millisOf? y = some ms' := by
        rw [millisOf?, if_pos hfinite]
        exact ⟨_, rfl⟩
      have hself := hy [] .nil
      rw [List.append_nil] at hself
      have hreread : (Instant.millis ms).reread = .millis ms' := by
        rw [Instant.reread, hself, Option.map_some, Option.bind_some, hms', Option.getD_some]
      obtain ⟨c, w, hw, hc⟩ := secondsText_cons ms
      have hink : isInk c = true := by
        rcases hc with rfl | hc
        · decide
        · exact isInk_of_isDigit hc
      have hstart : Text.dropLead? "start()".toList (secondsText ms ++ s) = none := by
        rw [hw, List.cons_append]
        exact if_neg (by rintro rfl; rcases hc with hc | hc <;> cases hc)
      have hfinish : Text.dropLead? "end()".toList (secondsText ms ++ s) = none := by
        rw [hw, List.cons_append]
        exact if_neg (by rintro rfl; rcases hc with hc | hc <;> cases hc)
      have hskip : skip (secondsText ms ++ s) = secondsText ms ++ s := by
        rw [hw, List.cons_append, skip_of_isInk hink]
      have hfront : skip (" @ ".toList ++ (Instant.millis ms).text ++ s) =
          '@' :: ' ' :: (secondsText ms ++ s) := rfl
      simp only [instant?, hfront, skip_space, hskip, hstart, hfinish, Option.map_none,
        Option.none_or, hy s hs, Option.bind_eq_bind, Option.bind_some, hms', pure, hreread]

end Query
end TenantScope
