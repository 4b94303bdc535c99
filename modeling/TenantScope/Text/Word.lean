/- Word characters, which decide where a keyword of the query language ends. -/
import TenantScope.Text.Basic
import TenantScope.Text.WordRanges

namespace TenantScope.Text

/-- Whether a number lies in one of the closed ranges. -/
def inRanges (ranges : List (Nat × Nat)) (n : Nat) : Bool :=
  ranges.any fun r => r.1 ≤ n && n ≤ r.2

/-- Whether a character is an underscore or has the property Alphabetic or Numeric. -/
def isWordChar (c : Char) : Bool :=
  if c.toNat < 0x80 then c.isAlphanum || c == '_' else inRanges wordRanges c.toNat

/-- Whether a word may end in front of this text. -/
def atBoundary : Text → Bool
  | [] => true
  | c :: _ => !isWordChar c

/-- Drops a whole word, given in lower case, from the front of a text whatever its ASCII case. -/
def dropKeyword? (word s : Text) : Option Text :=
  (dropWord? word s).filter atBoundary

/-! Letters and digits by their codes -/

theorem isUpper_iff_toNat {c : Char} : c.isUpper = true ↔ 65 ≤ c.toNat ∧ c.toNat ≤ 90 :=
  decide_eq_true_iff

theorem isLower_iff_toNat {c : Char} : c.isLower = true ↔ 97 ≤ c.toNat ∧ c.toNat ≤ 122 := by
  change (decide (97 ≤ c.toNat) && decide (c.toNat ≤ 122)) = true ↔ _
  rw [Bool.and_eq_true, decide_eq_true_eq, decide_eq_true_eq]

theorem isAlpha_iff_toNat {c : Char} : c.isAlpha = true ↔
    65 ≤ c.toNat ∧ c.toNat ≤ 90 ∨ 97 ≤ c.toNat ∧ c.toNat ≤ 122 := by
  rw [← isUpper_iff_toNat, ← isLower_iff_toNat]
  exact Bool.or_eq_true_iff

theorem toNat_of_isAlphanum {c : Char} (h : c.isAlphanum = true) :
    0x30 ≤ c.toNat ∧ c.toNat ≤ 0x7A := by
  rw [Char.isAlphanum, Bool.or_eq_true, isAlpha_iff_toNat] at h
  rcases h with h | h
  · omega
  · obtain ⟨hlow, hhigh⟩ := Char.isDigit_iff_toNat.mp h
    exact ⟨hlow, Nat.le_trans hhigh (by decide)⟩

theorem toLower_of_not_isUpper {c : Char} (h : c.isUpper = false) : c.toLower = c :=
  dif_neg (of_decide_eq_false h)

theorem toNat_toLower_of_isUpper {c : Char} (h : c.isUpper = true) :
    c.toLower.toNat = c.toNat + 32 := by
  have hrange := isUpper_iff_toNat.mp h
  have hval : c.toLower.val = c.val + 32 := congrArg Char.val (dif_pos (of_decide_eq_true h))
  rw [Char.toNat, hval, UInt32.toNat_add]
  change (c.toNat + 32) % _ = _
  omega

theorem isWordChar_of_isAlphanum {c : Char} (h : c.isAlphanum) : isWordChar c := by
  have hc : c.toNat < 0x80 := Nat.lt_of_le_of_lt (toNat_of_isAlphanum h).2 (by decide)
  simp only [isWordChar, hc, if_true, h, Bool.true_or]

end TenantScope.Text
