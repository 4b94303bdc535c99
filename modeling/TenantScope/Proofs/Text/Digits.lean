/- Digits are read back as the number they write. -/
import TenantScope.Proofs.Text.Scan

namespace TenantScope.Text

/-! Decimal digits -/

theorem digit?_ten (c : Char) :
    digit? 10 c = if c.isDigit then some (c.toNat - '0'.toNat) else none := by
  have hletter : ∀ k : Nat, (some (k + 10)).filter (fun v : Nat => decide (v < 10)) = none := by
    intro k
    rw [Option.filter_some, decide_eq_false (by omega)]
    rfl
  unfold digit?
  by_cases h : c.isDigit = true
  · have hnine : '9'.toNat = 57 := rfl
    have hzero : '0'.toNat = 48 := rfl
    have hc : c.toNat - '0'.toNat < 10 := by
      have := (Char.isDigit_iff_toNat.mp h).2
      omega
    simp only [h, if_true, Option.filter_some, hc, decide_true]
  · rw [if_neg h, if_neg h]
    by_cases hlower : 'a' ≤ c ∧ c ≤ 'f'
    · rw [if_pos hlower]
      exact hletter _
    rw [if_neg hlower]
    by_cases hupper : 'A' ≤ c ∧ c ≤ 'F'
    · rw [if_pos hupper]
      exact hletter _
    · rw [if_neg hupper]
      rfl

theorem isDigitIn_ten : isDigitIn 10 = Char.isDigit := by
  funext c
  rw [isDigitIn, digit?_ten]
  cases c.isDigit <;> rfl

theorem isDigit_of_mem_ofNat {n : Nat} {c : Char} (h : c ∈ ofNat n) : c.isDigit = true :=
  Nat.isDigit_of_mem_toDigits (by decide) (by decide) h

theorem ofNat_ne_nil (n : Nat) : ofNat n ≠ [] := Nat.toDigits_ne_nil

theorem toNat_append (w : Text) (c : Char) :
    toNat 10 (w ++ [c]) = toNat 10 w * 10 + (digit? 10 c).getD 0 := by
  rw [toNat, List.foldl_append]
  rfl

theorem toNat_digitChar {n : Nat} (h : n < 10) : toNat 10 [n.digitChar] = n := by
  have : ∀ k, k < 10 → toNat 10 [k.digitChar] = k := by decide
  exact this n h

theorem toNat_ofNat (n : Nat) : toNat 10 (ofNat n) = n := by
  induction n using Nat.strongRecOn with
  | ind n ih =>
    by_cases h : n < 10
    · rw [ofNat, Nat.toDigits_of_lt_base h, toNat_digitChar h]
    · have hlast := toNat_digitChar (Nat.mod_lt n (by decide : 10 > 0))
      rw [ofNat, Nat.toDigits_of_base_le (by decide) (Nat.le_of_not_lt h), toNat_append]
      have hinit := ih (n / 10) (Nat.div_lt_self (by omega) (by decide))
      rw [ofNat] at hinit
      have hdigit : (digit? 10 (n % 10).digitChar).getD 0 = n % 10 := by
        simpa only [toNat, List.foldl_cons, List.foldl_nil, Nat.zero_mul, Nat.zero_add]
          using hlast
      rw [hinit, hdigit, Nat.mul_comm, Nat.div_add_mod]

/-- A zero stands in front only when it stands alone. -/
theorem ofNat_cons (n : Nat) :
    ∃ c w, ofNat n = c :: w ∧ c.isDigit = true ∧ (c = '0' → w = []) := by
  induction n using Nat.strongRecOn with
  | ind n ih =>
    by_cases h : n < 10
    · have hdigit : ∀ k, k < 10 → k.digitChar.isDigit = true := by decide
      exact ⟨n.digitChar, [], Nat.toDigits_of_lt_base h, hdigit n h, fun _ => rfl⟩
    · obtain ⟨c, w, hw, hc, hzero⟩ := ih (n / 10) (Nat.div_lt_self (by omega) (by decide))
      refine ⟨c, w ++ [(n % 10).digitChar], ?_, hc, ?_⟩
      · rw [ofNat, Nat.toDigits_of_base_le (by decide) (Nat.le_of_not_lt h), ← ofNat, hw]
        rfl
      · rintro rfl
        rw [hzero rfl] at hw
        -- the digits in front of the last one write `n / 10`, which is not zero
        have hvalue := toNat_ofNat (n / 10)
        rw [hw] at hvalue
        have : toNat 10 ['0'] = 0 := by decide
        omega

/-! Padded digits -/

theorem isDigit_of_mem_padZeros {width n : Nat} {c : Char} (h : c ∈ padZeros width (ofNat n)) :
    c.isDigit = true := by
  rcases List.mem_append.mp h with h | h
  · rw [List.eq_of_mem_replicate h]
    rfl
  · exact isDigit_of_mem_ofNat h

/-! Hexadecimal digits -/

theorem digit?_digitChar : ∀ k, k < 16 → digit? 16 (Nat.digitChar k) = some k := by decide

/-- Two digits write every number below 256. -/
theorem padZeros_hex (width : Nat) {n : Nat} (hn : n < 256) :
    padZeros (width + 2) (hex n) =
      List.replicate width '0' ++ [Nat.digitChar (n / 16), Nat.digitChar (n % 16)] := by
  by_cases h : n < 16
  · rw [hex, Nat.toDigits_of_lt_base h, Nat.div_eq_of_lt h, Nat.mod_eq_of_lt h]
    rw [padZeros, List.length_singleton, Nat.add_succ_sub_one, List.replicate_succ',
      List.append_assoc]
    rfl
  · rw [hex, Nat.toDigits_of_base_le (by decide) (by omega), Nat.toDigits_of_lt_base (by omega)]
    rfl

end TenantScope.Text

namespace TenantScope.Query

theorem digits?_append {w s : Text} (hw : w ≠ []) (hdigits : ∀ c ∈ w, c.isDigit = true)
    (hs : Text.StopsAt Char.isDigit s) : digits? 10 (w ++ s) = some (w, s) := by
  rw [digits?, Text.isDigitIn_ten, Text.takeWhile_append hdigits hs,
    Text.dropWhile_append hdigits hs]
  cases w with
  | nil => exact absurd rfl hw
  | cons c w => rfl

theorem digits?_ofNat_append {s : Text} (n : Nat) (hs : Text.StopsAt Char.isDigit s) :
    digits? 10 (Text.ofNat n ++ s) = some (Text.ofNat n, s) :=
  digits?_append (Text.ofNat_ne_nil n) (fun _ => Text.isDigit_of_mem_ofNat) hs

theorem digits?_eq_none {s : Text} {base : Nat} (hs : Text.StopsAt (Text.isDigitIn base) s) :
    digits? base s = none := by
  rw [digits?, hs.takeWhile]

end TenantScope.Query
