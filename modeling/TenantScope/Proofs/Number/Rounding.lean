/- How large a rounded fraction can become. -/
import TenantScope.Number.Binary64

namespace TenantScope.Binary64

theorem roundEven_le (num den : Nat) : roundEven num den ≤ num / den + 1 := by
  simp only [roundEven]
  split
  · exact Nat.le_succ _
  split
  · exact Nat.le_refl _
  · have := Nat.mod_lt (num / den) (by decide : 2 > 0)
    omega

/-- On a grid that reaches to the leading binary digit, a step count has at most 53 digits. -/
theorem roundEven_grid_le (scaled den k : Nat) (hk : (scaled / den).log2 ≤ k + 52) :
    roundEven scaled (den * 2 ^ k) ≤ 2 ^ 53 := by
  have hlog : scaled / den < 2 ^ ((scaled / den).log2 + 1) := Nat.lt_log2_self
  have hpow : 2 ^ ((scaled / den).log2 + 1) ≤ 2 ^ (53 + k) :=
    Nat.pow_le_pow_right (by decide) (by omega)
  have hquotient : scaled / den / 2 ^ k < 2 ^ 53 := by
    rw [Nat.div_lt_iff_lt_mul (Nat.two_pow_pos k), ← Nat.pow_add]
    exact Nat.lt_of_lt_of_le hlog hpow
  calc
    roundEven scaled (den * 2 ^ k) ≤ scaled / (den * 2 ^ k) + 1 := roundEven_le _ _
    _ = scaled / den / 2 ^ k + 1 := by rw [Nat.div_div_eq_div_mul]
    _ ≤ 2 ^ 53 := hquotient

theorem magnitude_ofNat {m : Nat} (hm : m ≤ infinityBits) :
    (⟨UInt64.ofNat m⟩ : Binary64).magnitude = m := by
  have hsize : m < 2 ^ 63 := Nat.lt_of_le_of_lt hm (by decide)
  rw [magnitude, UInt64.toNat_ofNat', Nat.mod_eq_of_lt (Nat.lt_trans hsize (by decide)),
    Nat.mod_eq_of_lt hsize]

/-- A fraction below a power of two is rounded into a binade of its own height. -/
theorem magnitude_nearest_le {num den n : Nat} (h : num < den * 2 ^ n) :
    (nearest num den).magnitude ≤ (n + 1023) * 2 ^ 52 := by
  have hden : 0 < den := Nat.pos_of_mul_pos_right (Nat.lt_of_le_of_lt (Nat.zero_le _) h)
  have hquotient : num * 2 ^ 1074 / den < 2 ^ (n + 1074) := by
    rw [Nat.div_lt_iff_lt_mul hden, Nat.pow_add, Nat.mul_right_comm, Nat.mul_comm (2 ^ n)]
    exact Nat.mul_lt_mul_of_pos_right h (Nat.two_pow_pos _)
  have hlog : (num * 2 ^ 1074 / den).log2 < n + 1074 := by
    by_cases hzero : num * 2 ^ 1074 / den = 0
    · rw [hzero, Nat.log2_zero]
      omega
    · exact (Nat.log2_lt hzero).mpr hquotient
  have hsteps := roundEven_grid_le (num * 2 ^ 1074) den ((num * 2 ^ 1074 / den).log2 - 52)
    (by omega)
  rw [nearest, magnitude_ofNat (Nat.min_le_right _ _)]
  refine Nat.le_trans (Nat.min_le_left _ _) ?_
  clear h hquotient
  generalize (num * 2 ^ 1074 / den).log2 = log at hlog hsteps ⊢
  generalize roundEven _ _ = steps at hsteps ⊢
  omega

theorem isFinite_nearest {num den n : Nat} (h : num < den * 2 ^ n) (hn : n ≤ 1023) :
    (nearest num den).isFinite = true := by
  have := magnitude_nearest_le h
  rw [isFinite, decide_eq_true_eq, infinityBits]
  omega

/-- A magnitude in units, by the height of its binade. -/
theorem units_lt {x : Binary64} {n : Nat} (h : x.magnitude ≤ (n + 1023) * 2 ^ 52) :
    x.units < 2 ^ (n + 1) * 2 ^ 1074 := by
  have hfraction : x.magnitude % 2 ^ 52 < 2 ^ 52 := Nat.mod_lt _ (by decide)
  have hexponent : x.magnitude / 2 ^ 52 ≤ n + 1023 := by omega
  rw [← Nat.pow_add]
  simp only [units]
  split
  · exact Nat.lt_of_lt_of_le hfraction (Nat.pow_le_pow_right (by decide) (by omega))
  · calc
      (2 ^ 52 + x.magnitude % 2 ^ 52) * 2 ^ (x.magnitude / 2 ^ 52 - 1)
        < 2 ^ 53 * 2 ^ (x.magnitude / 2 ^ 52 - 1) :=
          Nat.mul_lt_mul_of_pos_right (by omega) (Nat.two_pow_pos _)
      _ = 2 ^ (53 + (x.magnitude / 2 ^ 52 - 1)) := (Nat.pow_add 2 _ _).symm
      _ ≤ 2 ^ (n + 1 + 1074) := Nat.pow_le_pow_right (by decide) (by omega)

theorem units_nearest_lt {num den n : Nat} (h : num < den * 2 ^ n) :
    (nearest num den).units < 2 ^ (n + 1) * 2 ^ 1074 := units_lt (magnitude_nearest_le h)

theorem magnitude_neg (x : Binary64) : x.neg.magnitude = x.magnitude := by
  simp only [magnitude, neg, UInt64.toNat_xor, Nat.xor_mod_two_pow]
  exact Nat.xor_zero _

theorem isFinite_neg (x : Binary64) : x.neg.isFinite = x.isFinite := by
  rw [isFinite, magnitude_neg, isFinite]

end TenantScope.Binary64
