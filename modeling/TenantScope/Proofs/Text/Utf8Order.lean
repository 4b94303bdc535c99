/- Texts stand in the order of their code points exactly as their octets do. -/
import TenantScope.Proofs.Text.Utf8
import Mathlib.Data.List.Basic

namespace TenantScope.Utf8

/-! Octets of numbers -/

theorem ofNat_cons_lt_cons {a b : Nat} (ha : a < 256) (hb : b < 256) {u v : Bytes} :
    UInt8.ofNat a :: u < UInt8.ofNat b :: v ↔ a < b ∨ a = b ∧ u < v := by
  rw [List.cons_lt_cons_iff, UInt8.lt_iff_toNat_lt, ← UInt8.toNat_inj, toNat_ofNat ha,
    toNat_ofNat hb]

/-- The octets behind the first one of a character, which hold six bits each. -/
def trail : Nat → Nat → Bytes
  | 0, _ => []
  | k + 1, n => trail k (n / 64) ++ [UInt8.ofNat (n % 64 + 0x80)]

/-- How many octets stand behind the first one of a character. -/
def trailCount (n : Nat) : Nat :=
  if n ≤ 0x7F then 0 else if n ≤ 0x7FF then 1 else if n ≤ 0xFFFF then 2 else 3

theorem trailCount_cases (n : Nat) :
    n ≤ 0x7F ∧ trailCount n = 0 ∨ (0x7F < n ∧ n ≤ 0x7FF) ∧ trailCount n = 1 ∨
      (0x7FF < n ∧ n ≤ 0xFFFF) ∧ trailCount n = 2 ∨ 0xFFFF < n ∧ trailCount n = 3 := by
  unfold trailCount
  split
  · exact .inl ⟨‹_›, rfl⟩
  · split
    · exact .inr (.inl ⟨by omega, rfl⟩)
    · split
      · exact .inr (.inr (.inl ⟨by omega, rfl⟩))
      · exact .inr (.inr (.inr ⟨by omega, rfl⟩))

/-- What the first octet adds to its own bits to tell how many octets follow it. -/
def leadMark : Nat → Nat
  | 0 => 0
  | 1 => 0xC0
  | 2 => 0xE0
  | _ => 0xF0

/-- The first octet of a character. -/
def leadOctet (n : Nat) : Nat := n / 64 ^ trailCount n + leadMark (trailCount n)

theorem leadOctet_lt {n : Nat} (h : n < 0x110000) : leadOctet n < 256 := by
  unfold leadOctet
  rcases trailCount_cases n with ⟨hn, heq⟩ | ⟨hn, heq⟩ | ⟨hn, heq⟩ | ⟨hn, heq⟩ <;>
    simp only [heq, leadMark] <;> omega

theorem encodeChar_eq_cons (c : Char) :
    String.utf8EncodeChar c =
      UInt8.ofNat (leadOctet c.toNat) :: trail (trailCount c.toNat) c.toNat := by
  have hscalar := scalar_toNat c
  rw [encodeChar_eq]
  generalize c.toNat = n at hscalar
  unfold leadOctet trailCount
  split
  · simp only [leadMark, trail, Nat.pow_zero, Nat.div_one, Nat.add_zero]
  · split
    · have hfirst : n / 64 % 32 = n / 64 ^ 1 := by omega
      simp only [leadMark, trail, hfirst, List.nil_append]
    · split
      · have hfirst : n / 4096 % 16 = n / 64 ^ 2 := by omega
        simp only [leadMark, trail, hfirst, List.nil_append, List.singleton_append]
      · have hfirst : n / 262144 % 8 = n / 64 ^ 3 := by omega
        have hsecond : n / 4096 = n / 64 / 64 := by omega
        simp only [leadMark, trail, hfirst, hsecond, List.nil_append, List.cons_append]

/-! Characters -/

/-- Among numbers that begin alike, the octets behind the first decide. -/
theorem trail_append_lt {k m n : Nat} (h : m < n) (hfront : m / 64 ^ k = n / 64 ^ k) (u v : Bytes) :
    trail k m ++ u < trail k n ++ v := by
  induction k generalizing m n u v with
  | zero =>
      rw [Nat.pow_zero, Nat.div_one, Nat.div_one] at hfront
      omega
  | succ k ih =>
      rw [Nat.pow_succ', ← Nat.div_div_eq_div_mul, ← Nat.div_div_eq_div_mul] at hfront
      rw [trail, trail, List.append_assoc, List.append_assoc]
      by_cases hlt : m / 64 < n / 64
      · exact ih hlt hfront _ _
      · have heq : m / 64 = n / 64 := by omega
        have hlast : m % 64 + 0x80 < n % 64 + 0x80 := by omega
        rw [heq]
        refine List.append_left_lt ?_
        exact (ofNat_cons_lt_cons (by omega) (by omega)).mpr (.inl hlast)

/-- A first octet is smaller than every one that says that more octets follow. -/
theorem leadOctet_lt_leadMark {m n : Nat} (h : trailCount m < trailCount n) :
    leadOctet m < leadMark (trailCount n) := by
  unfold leadOctet
  rcases trailCount_cases m with ⟨hm, em⟩ | ⟨hm, em⟩ | ⟨hm, em⟩ | ⟨hm, em⟩ <;>
    rcases trailCount_cases n with ⟨hn, en⟩ | ⟨hn, en⟩ | ⟨hn, en⟩ | ⟨hn, en⟩ <;>
    simp only [em, en, leadMark] at h ⊢ <;> omega

theorem trailCount_le_trailCount {m n : Nat} (h : m ≤ n) : trailCount m ≤ trailCount n := by
  rcases trailCount_cases m with ⟨hm, em⟩ | ⟨hm, em⟩ | ⟨hm, em⟩ | ⟨hm, em⟩ <;>
    rcases trailCount_cases n with ⟨hn, en⟩ | ⟨hn, en⟩ | ⟨hn, en⟩ | ⟨hn, en⟩ <;> omega

/-- The first octets of two characters stand in their order, or else say that as many octets
follow. -/
theorem leadOctet_lt_or {m n : Nat} (h : m < n) : leadOctet m < leadOctet n ∨
    leadOctet m = leadOctet n ∧ trailCount m = trailCount n ∧
      m / 64 ^ trailCount n = n / 64 ^ trailCount n := by
  rcases Nat.lt_or_eq_of_le (trailCount_le_trailCount (Nat.le_of_lt h)) with hcount | hcount
  · exact .inl (Nat.lt_of_lt_of_le (leadOctet_lt_leadMark hcount) (Nat.le_add_left _ _))
  · have hle : m / 64 ^ trailCount n ≤ n / 64 ^ trailCount n :=
      Nat.div_le_div_right (Nat.le_of_lt h)
    unfold leadOctet
    rw [hcount]
    rcases Nat.lt_or_eq_of_le hle with hlt | heq
    · exact .inl (Nat.add_lt_add_right hlt _)
    · exact .inr ⟨by rw [heq], rfl, heq⟩

theorem encodeChar_append_lt {c d : Char} (h : c.toNat < d.toNat) (u v : Bytes) :
    String.utf8EncodeChar c ++ u < String.utf8EncodeChar d ++ v := by
  have hc := scalar_toNat c
  have hd := scalar_toNat d
  rw [encodeChar_eq_cons, encodeChar_eq_cons, List.cons_append, List.cons_append,
    ofNat_cons_lt_cons (leadOctet_lt (by omega)) (leadOctet_lt (by omega))]
  rcases leadOctet_lt_or h with hlt | ⟨heq, hcount, hfront⟩
  · exact .inl hlt
  · exact .inr ⟨heq, hcount ▸ trail_append_lt h hfront u v⟩

/-! Texts -/

theorem encode_lt_encode {s t : Text} (h : s < t) : encode s < encode t := by
  induction s generalizing t with
  | nil =>
      cases t with
      | nil => exact absurd h (List.lt_irrefl _)
      | cons d t =>
          rw [encode_cons, encodeChar_eq_cons]
          exact List.nil_lt_cons _ _
  | cons c s ih =>
      cases t with
      | nil => exact absurd h (List.not_lt_nil _)
      | cons d t =>
          rw [encode_cons, encode_cons]
          rcases List.cons_lt_cons_iff.mp h with hlt | ⟨rfl, hlt⟩
          · exact encodeChar_append_lt hlt _ _
          · exact List.append_left_lt (ih hlt)

theorem encode_lt_encode_iff {s t : Text} : encode s < encode t ↔ s < t := by
  refine ⟨fun h => ?_, encode_lt_encode⟩
  by_contra hnot
  rcases List.le_iff_lt_or_eq.mp (List.not_lt.mp hnot) with hlt | rfl
  · exact List.lt_asymm h (encode_lt_encode hlt)
  · exact List.lt_irrefl _ h

end TenantScope.Utf8
