/- Texts are read back from their octets. -/
import TenantScope.Text.Utf8

namespace TenantScope.Utf8

/-! Characters octet by octet -/

theorem scalar_toNat (c : Char) : c.toNat < 0xD800 ∨ 0xDFFF < c.toNat ∧ c.toNat < 0x110000 :=
  c.valid

theorem toNat_ofNat {n : Nat} (h : n < 256) : (UInt8.ofNat n).toNat = n := by
  rw [UInt8.toNat_ofNat']
  exact Nat.mod_eq_of_lt h

/-- An octet that is not the last one owed adds its bits. -/
theorem step_of_one_lt {p : Pending} {b : Nat} (hlow : p.low ≤ b) (hhigh : b ≤ p.high)
    (howed : 1 < p.owed) :
    step (some p) b = ([], some ⟨p.owed - 1, 0x80, 0xBF, p.bits * 64 + (b - 0x80)⟩) := by
  simp only [step, hlow, hhigh, and_self, if_true, Nat.not_le.mpr howed, if_false]

/-- The last octet owed completes a character. -/
theorem step_of_owed_one {p : Pending} {b : Nat} (hlow : p.low ≤ b) (hhigh : b ≤ p.high)
    (howed : p.owed = 1) :
    step (some p) b = ([some (Char.ofNat (p.bits * 64 + (b - 0x80)))], none) := by
  simp only [step, hlow, hhigh, and_self, if_true, howed, Nat.le_refl]

theorem lead_two {n : Nat} (hlow : 0x80 ≤ n) (hhigh : n < 0x800) :
    lead (n / 64 + 0xC0) = ([], some ⟨1, 0x80, 0xBF, n / 64⟩) := by
  have h : 2 ≤ n / 64 ∧ n / 64 < 32 := by omega
  generalize n / 64 = k at h
  simp only [lead]
  rw [if_neg (by omega), if_neg (by omega), if_pos (by omega), Nat.add_sub_cancel]

/-- The first of three octets bounds the second one so that no surrogate and nothing that fits two
octets is read. -/
theorem lead_three {n : Nat} (hlow : 0x800 ≤ n) (hhigh : n < 0x10000)
    (hscalar : n < 0xD800 ∨ 0xDFFF < n) :
    ∃ low high, lead (n / 4096 + 0xE0) = ([], some ⟨2, low, high, n / 4096⟩) ∧
      low ≤ n / 64 % 64 + 0x80 ∧ n / 64 % 64 + 0x80 ≤ high := by
  by_cases hzero : n / 4096 = 0
  · exact ⟨0xA0, 0xBF, by rw [hzero]; rfl, by omega, by omega⟩
  · by_cases hd : n / 4096 = 13
    · exact ⟨0x80, 0x9F, by rw [hd]; rfl, by omega, by omega⟩
    · refine ⟨0x80, 0xBF, ?_, by omega, by omega⟩
      have h : n / 4096 < 16 := by omega
      generalize n / 4096 = k at *
      simp only [lead]
      rw [if_neg (by omega), if_neg (by omega), if_neg (by omega), if_neg (by omega),
        if_neg (by omega), if_pos (by omega), Nat.add_sub_cancel]

/-- The first of four octets bounds the second one so that nothing that fits three octets and
nothing above the last scalar value is read. -/
theorem lead_four {n : Nat} (hlow : 0x10000 ≤ n) (hhigh : n < 0x110000) :
    ∃ low high, lead (n / 262144 + 0xF0) = ([], some ⟨3, low, high, n / 262144⟩) ∧
      low ≤ n / 4096 % 64 + 0x80 ∧ n / 4096 % 64 + 0x80 ≤ high := by
  by_cases hzero : n / 262144 = 0
  · exact ⟨0x90, 0xBF, by rw [hzero]; rfl, by omega, by omega⟩
  · by_cases hfour : n / 262144 = 4
    · exact ⟨0x80, 0x8F, by rw [hfour]; rfl, by omega, by omega⟩
    · refine ⟨0x80, 0xBF, ?_, by omega, by omega⟩
      have h : n / 262144 < 4 := by omega
      generalize n / 262144 = k at *
      simp only [lead]
      rw [if_neg (by omega), if_neg (by omega), if_neg (by omega), if_neg (by omega),
        if_neg (by omega), if_neg (by omega), if_neg (by omega), if_pos (by omega),
        Nat.add_sub_cancel]

/-! Whole texts -/

theorem unitsFrom_cons (pending : Option Pending) (read : List (Option Char)) {n : Nat}
    (h : n < 256) (bs : Bytes) :
    unitsFrom pending read (UInt8.ofNat n :: bs) =
      unitsFrom (step pending n).2 ((step pending n).1.reverse ++ read) bs := by
  rw [unitsFrom, toNat_ofNat h]

theorem unitsFrom_one {n : Nat} (h : n ≤ 0x7F) (read : List (Option Char)) (bs : Bytes) :
    unitsFrom none read ([UInt8.ofNat n] ++ bs) =
      unitsFrom none (some (Char.ofNat n) :: read) bs := by
  have hlead : step none n = ([some (Char.ofNat n)], none) := by
    rw [step, lead, if_pos (by omega)]
  rw [List.singleton_append, unitsFrom_cons _ _ (by omega), hlead]
  rfl

theorem unitsFrom_two {n : Nat} (hlow : 0x80 ≤ n) (hhigh : n < 0x800)
    (read : List (Option Char)) (bs : Bytes) :
    unitsFrom none read ([UInt8.ofNat (n / 64 % 32 + 0xC0), UInt8.ofNat (n % 64 + 0x80)] ++ bs) =
      unitsFrom none (some (Char.ofNat n) :: read) bs := by
  have hfirst : n / 64 % 32 = n / 64 := Nat.mod_eq_of_lt (by omega)
  have hbits : n / 64 * 64 + (n % 64 + 0x80 - 0x80) = n := by omega
  rw [hfirst, List.cons_append, List.singleton_append, unitsFrom_cons _ _ (by omega), step,
    lead_two hlow hhigh, unitsFrom_cons _ _ (by omega),
    step_of_owed_one (by dsimp only; omega) (by dsimp only; omega) rfl]
  simp only [hbits]
  rfl

theorem unitsFrom_three {n : Nat} (hlow : 0x800 ≤ n) (hhigh : n < 0x10000)
    (hscalar : n < 0xD800 ∨ 0xDFFF < n) (read : List (Option Char)) (bs : Bytes) :
    unitsFrom none read ([UInt8.ofNat (n / 4096 % 16 + 0xE0), UInt8.ofNat (n / 64 % 64 + 0x80),
        UInt8.ofNat (n % 64 + 0x80)] ++ bs) =
      unitsFrom none (some (Char.ofNat n) :: read) bs := by
  have hfirst : n / 4096 % 16 = n / 4096 := Nat.mod_eq_of_lt (by omega)
  have hbits : (n / 4096 * 64 + (n / 64 % 64 + 0x80 - 0x80)) * 64 + (n % 64 + 0x80 - 0x80) = n := by
    omega
  obtain ⟨low, high, hlead, hsecond, hsecond'⟩ := lead_three hlow hhigh hscalar
  rw [hfirst, List.cons_append, List.cons_append, List.singleton_append,
    unitsFrom_cons _ _ (by omega), step, hlead, unitsFrom_cons _ _ (by omega),
    step_of_one_lt hsecond hsecond' (by dsimp only; omega), unitsFrom_cons _ _ (by omega),
    step_of_owed_one (by dsimp only; omega) (by dsimp only; omega) rfl]
  simp only [hbits]
  rfl

theorem unitsFrom_four {n : Nat} (hlow : 0x10000 ≤ n) (hhigh : n < 0x110000)
    (read : List (Option Char)) (bs : Bytes) :
    unitsFrom none read ([UInt8.ofNat (n / 262144 % 8 + 0xF0), UInt8.ofNat (n / 4096 % 64 + 0x80),
        UInt8.ofNat (n / 64 % 64 + 0x80), UInt8.ofNat (n % 64 + 0x80)] ++ bs) =
      unitsFrom none (some (Char.ofNat n) :: read) bs := by
  have hfirst : n / 262144 % 8 = n / 262144 := Nat.mod_eq_of_lt (by omega)
  have hbits : ((n / 262144 * 64 + (n / 4096 % 64 + 0x80 - 0x80)) * 64 +
      (n / 64 % 64 + 0x80 - 0x80)) * 64 + (n % 64 + 0x80 - 0x80) = n := by omega
  obtain ⟨low, high, hlead, hsecond, hsecond'⟩ := lead_four hlow hhigh
  rw [hfirst, List.cons_append, List.cons_append, List.cons_append, List.singleton_append,
    unitsFrom_cons _ _ (by omega), step, hlead, unitsFrom_cons _ _ (by omega),
    step_of_one_lt hsecond hsecond' (by dsimp only; omega), unitsFrom_cons _ _ (by omega),
    step_of_one_lt (by dsimp only; omega) (by dsimp only; omega) (by dsimp only; omega),
    unitsFrom_cons _ _ (by omega),
    step_of_owed_one (by dsimp only; omega) (by dsimp only; omega) rfl]
  simp only [hbits]
  rfl

theorem encodeChar_eq (c : Char) :
    String.utf8EncodeChar c =
      if c.toNat ≤ 0x7F then [UInt8.ofNat c.toNat]
      else if c.toNat ≤ 0x7FF then
        [UInt8.ofNat (c.toNat / 64 % 32 + 0xC0), UInt8.ofNat (c.toNat % 64 + 0x80)]
      else if c.toNat ≤ 0xFFFF then
        [UInt8.ofNat (c.toNat / 4096 % 16 + 0xE0), UInt8.ofNat (c.toNat / 64 % 64 + 0x80),
          UInt8.ofNat (c.toNat % 64 + 0x80)]
      else
        [UInt8.ofNat (c.toNat / 262144 % 8 + 0xF0), UInt8.ofNat (c.toNat / 4096 % 64 + 0x80),
          UInt8.ofNat (c.toNat / 64 % 64 + 0x80), UInt8.ofNat (c.toNat % 64 + 0x80)] := rfl

/-- The octets of a character are read as this character. -/
theorem unitsFrom_encodeChar (c : Char) (read : List (Option Char)) (bs : Bytes) :
    unitsFrom none read (String.utf8EncodeChar c ++ bs) = unitsFrom none (some c :: read) bs := by
  have hscalar := scalar_toNat c
  have hback : Char.ofNat c.toNat = c := Char.ofNat_toNat c
  rw [encodeChar_eq]
  generalize c.toNat = n at hscalar hback
  rw [← hback]
  split
  · exact unitsFrom_one ‹_› read bs
  · split
    · exact unitsFrom_two (by omega) (by omega) read bs
    · split
      · exact unitsFrom_three (by omega) (by omega) (by omega) read bs
      · exact unitsFrom_four (by omega) (by omega) read bs

theorem encode_cons (c : Char) (s : Text) :
    encode (c :: s) = String.utf8EncodeChar c ++ encode s :=
  List.flatMap_cons

theorem unitsFrom_encode (s : Text) (read : List (Option Char)) :
    unitsFrom none read (encode s) = read.reverse ++ s.map some := by
  induction s generalizing read with
  | nil => simp [encode, unitsFrom]
  | cons c s ih =>
      rw [encode_cons, unitsFrom_encodeChar, ih, List.reverse_cons, List.append_assoc,
        List.map_cons]
      rfl

theorem units_encode (s : Text) : units (encode s) = s.map some := unitsFrom_encode s []

/-- A text is read back from its octets. -/
theorem decodeLossy_encode (s : Text) : decodeLossy (encode s) = s := by
  rw [decodeLossy, units_encode, List.map_map]
  exact List.map_id s

theorem decode?_encode (s : Text) : decode? (encode s) = some s := by
  have hwhole : (s.map some).all Option.isSome = true :=
    List.all_map.trans (List.all_eq_true.mpr fun _ _ => rfl)
  rw [decode?, units_encode, hwhole, if_pos rfl, List.filterMap_map]
  exact congrArg some List.filterMap_some

/-! Octets of texts in ASCII -/

theorem encode_append (s t : Text) : encode (s ++ t) = encode s ++ encode t :=
  List.flatMap_append

theorem encodeChar_of_lt {c : Char} (h : c.toNat < 0x80) :
    String.utf8EncodeChar c = [UInt8.ofNat c.toNat] := by
  rw [encodeChar_eq, if_pos (Nat.le_of_lt_succ h)]

theorem encode_of_lt {s : Text} (h : ∀ c ∈ s, c.toNat < 0x80) :
    encode s = s.map fun c => UInt8.ofNat c.toNat := by
  induction s with
  | nil => rfl
  | cons c s ih =>
      have hs := ih fun d hd => h d (List.mem_cons_of_mem c hd)
      rw [encode_cons, encodeChar_of_lt (h c List.mem_cons_self), hs]
      rfl

end TenantScope.Utf8
