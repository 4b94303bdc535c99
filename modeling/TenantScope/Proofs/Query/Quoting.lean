/- A quoted text is read back whatever it holds and whatever follows it. -/
import TenantScope.Proofs.Text.Digits
import TenantScope.Query.Printer

namespace TenantScope.Query

/-! Escapes by code point -/

/-- A digit that is not the last one of an escape. -/
theorem quotedFrom_digit {value k : Nat} (owed : Nat) (hk : k < 16) (read s : Text) :
    quotedFrom '"' (.code ⟨16, owed + 2, value⟩) read (Nat.digitChar k :: s) =
      quotedFrom '"' (.code ⟨16, owed + 1, value * 16 + k⟩) read s := by
  simp only [quotedFrom, Text.digit?_digitChar k hk, Nat.add_succ_sub_one, Nat.zero_lt_succ,
    if_true]

/-- The last digit of an escape finishes its character. -/
theorem quotedFrom_lastDigit {value k : Nat} {c : Char} (hk : k < 16)
    (hc : value * 16 + k = c.toNat) (read s : Text) :
    quotedFrom '"' (.code ⟨16, 1, value⟩) read (Nat.digitChar k :: s) =
      quotedFrom '"' .plain (c :: read) s := by
  have hchar : CodeEscape.char? ⟨16, 0, value * 16 + k⟩ = some c := by
    simp only [CodeEscape.char?, hc, Char.ofNat_toNat]
    have hvalid : c.toNat.isValidChar := c.valid
    simp only [Nat.reduceEqDiff, false_and, if_false, hvalid, if_true]
  simp only [quotedFrom, Text.digit?_digitChar k hk, Nat.sub_self, Nat.lt_irrefl, if_false, hchar]

theorem quotedFrom_hex {c : Char} (hc : c.toNat < 256) (read s : Text) :
    quotedFrom '"' .plain read (['\\', 'x'] ++ Text.padZeros 2 (Text.hex c.toNat) ++ s) =
      quotedFrom '"' .plain (c :: read) s := by
  have hhigh : c.toNat / 16 < 16 := by omega
  have hlow : c.toNat % 16 < 16 := by omega
  rw [Text.padZeros_hex 0 hc]
  change quotedFrom '"' (.code ⟨16, 2, 0⟩) read
    (Nat.digitChar (c.toNat / 16) :: Nat.digitChar (c.toNat % 16) :: s) = _
  rw [quotedFrom_digit 0 hhigh, quotedFrom_lastDigit (c := c) hlow (by omega)]

theorem quotedFrom_unicode {c : Char} (hc : c.toNat < 256) (read s : Text) :
    quotedFrom '"' .plain read (['\\', 'u'] ++ Text.padZeros 4 (Text.hex c.toNat) ++ s) =
      quotedFrom '"' .plain (c :: read) s := by
  have hhigh : c.toNat / 16 < 16 := by omega
  have hlow : c.toNat % 16 < 16 := by omega
  rw [Text.padZeros_hex 2 hc]
  change quotedFrom '"' (.code ⟨16, 2, 0⟩) read
    (Nat.digitChar (c.toNat / 16) :: Nat.digitChar (c.toNat % 16) :: s) = _
  rw [quotedFrom_digit 0 hhigh, quotedFrom_lastDigit (c := c) hlow (by omega)]

/-! Characters as they are printed -/

/-- Whether a character is one of Unicode's control characters. -/
def isControl (c : Char) : Bool := c.toNat < 0x20 || (0x7F ≤ c.toNat && c.toNat < 0xA0)

/-- The characters that are printed as a backslash and one more character. -/
def shortEscaped : List Char := ['"', '\\', '\x07', '\x08', '\x0c', '\n', '\r', '\t', '\x0b']

/-- A character is printed by one of four rules: a backslash and one more character, its code point
in two or in four digits, or the character itself. -/
theorem quoteChar_cases (c : Char) :
    c ∈ shortEscaped ∨
      (c.toNat < 256 ∧ quoteChar c = ['\\', 'x'] ++ Text.padZeros 2 (Text.hex c.toNat)) ∨
      (c.toNat < 256 ∧ quoteChar c = ['\\', 'u'] ++ Text.padZeros 4 (Text.hex c.toNat)) ∨
      (c ∉ shortEscaped ∧ isControl c = false ∧ quoteChar c = [c]) := by
  by_cases hshort : c ∈ shortEscaped
  · exact .inl hshort
  · have hlong := hshort
    simp only [shortEscaped, List.mem_cons, List.not_mem_nil, or_false, not_or] at hlong
    obtain ⟨hquote, hbackslash, hbell, hback, hform, hfeed, hreturn, htab, hvertical⟩ := hlong
    rw [quoteChar, if_neg hquote, if_neg hbackslash, if_neg hbell, if_neg hback, if_neg hform,
      if_neg hfeed, if_neg hreturn, if_neg htab, if_neg hvertical]
    split
    · next h => exact .inr (.inl ⟨by omega, rfl⟩)
    split
    · next h => exact .inr (.inr (.inl ⟨by omega, rfl⟩))
    · next hlow hhigh =>
      have hplain : isControl c = false := by
        simp only [isControl, Bool.or_eq_false_iff, Bool.and_eq_false_iff, decide_eq_false_iff_not]
        omega
      exact .inr (.inr (.inr ⟨hshort, hplain, rfl⟩))

/-- Whatever a character is printed as, the reader of literals makes it that character again. -/
theorem quotedFrom_quoteChar (c : Char) (read s : Text) :
    quotedFrom '"' .plain read (quoteChar c ++ s) = quotedFrom '"' .plain (c :: read) s := by
  rcases quoteChar_cases c with hshort | ⟨hc, hquote⟩ | ⟨hc, hquote⟩ | ⟨hlong, -, hquote⟩
  · simp only [shortEscaped, List.mem_cons, List.not_mem_nil, or_false] at hshort
    rcases hshort with rfl | rfl | rfl | rfl | rfl | rfl | rfl | rfl | rfl <;> rfl
  · rw [hquote]
    exact quotedFrom_hex hc read s
  · rw [hquote]
    exact quotedFrom_unicode hc read s
  · have hne : ∀ d ∈ shortEscaped, c ≠ d := fun d hd h => hlong (h ▸ hd)
    rw [hquote, List.singleton_append, quotedFrom, if_neg (hne '"' (by decide)),
      if_neg (hne '\\' (by decide)), if_neg (hne '\n' (by decide))]

theorem isControl_digitChar : ∀ k, k < 16 → isControl (Nat.digitChar k) = false := by decide

theorem isControl_of_mem_escape {letter : Char} (hletter : isControl letter = false)
    (width : Nat) {n : Nat} (hn : n < 256) :
    ∀ d ∈ ['\\', letter] ++ Text.padZeros (width + 2) (Text.hex n), isControl d = false := by
  intro d hd
  rw [Text.padZeros_hex width hn] at hd
  simp only [List.mem_append, List.mem_cons, List.not_mem_nil, or_false, List.mem_replicate] at hd
  rcases hd with (rfl | rfl) | ⟨-, rfl⟩ | rfl | rfl
  · rfl
  · exact hletter
  · rfl
  · exact isControl_digitChar _ (by omega)
  · exact isControl_digitChar _ (by omega)

theorem isControl_of_mem_quoteChar (c : Char) : ∀ d ∈ quoteChar c, isControl d = false := by
  rcases quoteChar_cases c with hshort | ⟨hc, hquote⟩ | ⟨hc, hquote⟩ | ⟨-, hplain, hquote⟩
  · have hnone : (shortEscaped.flatMap quoteChar).any isControl = false := by decide
    intro d hd
    have hmem : d ∈ shortEscaped.flatMap quoteChar := List.mem_flatMap.mpr ⟨c, hshort, hd⟩
    exact Bool.eq_false_iff.mpr (List.any_eq_false.mp hnone d hmem)
  · rw [hquote]
    exact isControl_of_mem_escape rfl 0 hc
  · rw [hquote]
    exact isControl_of_mem_escape rfl 2 hc
  · intro d hd
    rw [hquote] at hd
    rw [List.mem_singleton.mp hd]
    exact hplain

/-! Whole literals -/

theorem quotedFrom_flatMap (v read s : Text) :
    quotedFrom '"' .plain read (v.flatMap quoteChar ++ s) =
      quotedFrom '"' .plain (v.reverse ++ read) s := by
  induction v generalizing read with
  | nil => rfl
  | cons c v ih =>
      rw [List.flatMap_cons, List.append_assoc, quotedFrom_quoteChar, ih, List.reverse_cons,
        List.append_assoc, List.singleton_append]

/-- A quoted text is read back, and nothing of what follows it is taken. -/
theorem stringLiteral?_quote_append (v s : Text) :
    stringLiteral? (quote v ++ s) = some (v, s) := by
  change quotedFrom '"' .plain [] (v.flatMap quoteChar ++ ['"'] ++ s) = some (v, s)
  rw [List.append_assoc, quotedFrom_flatMap, List.append_nil]
  change some (v.reverse.reverse, s) = some (v, s)
  rw [List.reverse_reverse]

/-- A quoted text is read back as it was, whatever follows it, and holds no control character. -/
theorem quote_selfDelimiting (v s : Text) :
    stringLiteral? (quote v ++ s) = some (v, s) ∧ ∀ c ∈ quote v, isControl c = false := by
  refine ⟨stringLiteral?_quote_append v s, ?_⟩
  intro c hc
  simp only [quote, List.mem_append, List.mem_cons, List.mem_flatMap, List.not_mem_nil,
    or_false] at hc
  rcases hc with (rfl | ⟨d, -, hd⟩) | rfl
  · rfl
  · exact isControl_of_mem_quoteChar d c hd
  · rfl

end TenantScope.Query
