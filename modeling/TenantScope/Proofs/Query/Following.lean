/- What stands behind the parts of a printed query, and what is not read there. -/
import TenantScope.Proofs.Query.Durations
import TenantScope.Proofs.Query.Instants
import TenantScope.Query.Reader

namespace TenantScope.Query

/-- The places of an expression: a whole chain of operands, an operand with its signs and subquery
ranges, and an operand without them. -/
inductive Place
  | chain | operand | primary
  deriving DecidableEq

/-- The texts that follow an expression at a place of a printed query. -/
inductive Follows : Place → Text → Prop
  | nil {p : Place} : Follows p []
  | close {p : Place} (s : Text) : Follows p (')' :: s)
  | comma {p : Place} (s : Text) : Follows p (',' :: s)
  | operator {p : Place} (hp : p ≠ .chain) (op : BinaryOp) (s : Text) :
      Follows p (' ' :: op.text ++ ' ' :: s)
  | range {ms : Nat} (hms : ms ≤ maxInteger) (s : Text) :
      Follows .primary ('[' :: durationText ms ++ ':' :: s)

namespace Follows

variable {p : Place} {s : Text}

theorem operand (h : Follows .chain s) : Follows .operand s := by
  cases h with
  | nil => exact .nil
  | close s => exact .close s
  | comma s => exact .comma s
  | operator hp => exact absurd rfl hp

theorem primary (h : Follows .operand s) : Follows .primary s := by
  cases h with
  | nil => exact .nil
  | close s => exact .close s
  | comma s => exact .comma s
  | operator hp op s => exact .operator (by decide) op s

theorem delimited (h : Follows p s) : Delimited s := by
  cases h with
  | nil => exact .nil
  | close s => exact .cons (by decide)
  | comma s => exact .cons (by decide)
  | operator hp op s => exact .cons (by decide)
  | range hms s => exact .cons (by decide)

theorem binaryOp?_skip (h : Follows .chain s) : binaryOp? (skip s) = none := by
  cases h with
  | nil => rfl
  | close s => rfl
  | comma s => rfl
  | operator hp => exact absurd rfl hp

theorem instant?_eq_none (h : Follows p s) : instant? s = none := by
  cases h with
  | nil => rfl
  | close s => rfl
  | comma s => rfl
  | operator hp op s => cases op <;> rfl
  | range hms s => rfl

theorem offset?_eq_none (h : Follows p s) : offset? s = none := by
  cases h with
  | nil => rfl
  | close s => rfl
  | comma s => rfl
  | operator hp op s => cases op <;> rfl
  | range hms s => rfl

theorem grouping?_skip (h : Follows p s) : grouping? (skip s) = none := by
  cases h with
  | nil => rfl
  | close s => rfl
  | comma s => rfl
  | operator hp op s => cases op <;> rfl
  | range hms s => rfl

theorem atSubquery_skip (h : Follows .operand s) : atSubquery (skip s) = false := by
  cases h with
  | nil => rfl
  | close s => rfl
  | comma s => rfl
  | operator hp op s => cases op <;> rfl

end Follows

/-! Modifiers -/

/-- Modifiers as the reader makes them, with timestamps and offsets in range. -/
structure Modifiers.InRange (m : Modifiers) : Prop where
  instant : ∀ i ∈ m.instant, i.InRange
  offset : ∀ ms ∈ m.offset, ms.natAbs ≤ maxInteger

/-- The modifiers that are read from the text of modifiers. -/
def Modifiers.reread (m : Modifiers) : Modifiers := ⟨m.instant.map Instant.reread, m.offset⟩

theorem offset?_append {ms : Int} (hms : ms.natAbs ≤ maxInteger) {s : Text} (hs : Delimited s) :
    offset? (" offset ".toList ++ offsetText ms ++ s) = some (ms, s) := by
  obtain ⟨c, w, hw, hc⟩ : ∃ c w, offsetText ms = c :: w ∧ isInk c = true := by
    obtain ⟨c, w, hw, hc⟩ := durationText_cons ms.natAbs
    rw [offsetText, hw]
    split
    · exact ⟨'-', c :: w, rfl, by decide⟩
    · exact ⟨c, w, rfl, isInk_of_isDigit hc⟩
  have hskip : skip (' ' :: (offsetText ms ++ s)) = offsetText ms ++ s := by
    rw [skip_space, hw, List.cons_append, skip_of_isInk hc]
  have hword : wordOf? id offsetWords (skip (" offset ".toList ++ offsetText ms ++ s)) =
      some ("offset".toList, ' ' :: (offsetText ms ++ s)) := rfl
  simp only [offset?, hword, Option.bind_eq_bind, Option.bind_some, hskip,
    signedDuration?_offsetText_append hms hs.endsDuration]

theorem modifiersFrom_of_follows {p : Place} {s : Text} (hs : Follows p s) (fuel : Nat)
    (m : Modifiers) : modifiersFrom fuel m s = .ok (m, s) := by
  cases fuel with
  | zero => rfl
  | succ fuel => rw [modifiersFrom, hs.instant?_eq_none, hs.offset?_eq_none]

/-- Printed modifiers are read, and nothing of what follows them. -/
theorem modifiers_print_append {m : Modifiers} (hm : m.InRange) {p : Place} {s : Text}
    (hs : Follows p s) : modifiers (m.print ++ s) = .ok (m.reread, s) := by
  have hoffset : ∀ (fuel : Nat) (instant : Option Instant) (ms : Int), ms.natAbs ≤ maxInteger →
      modifiersFrom (fuel + 1) ⟨instant, none⟩ (" offset ".toList ++ offsetText ms ++ s) =
        .ok (⟨instant, some ms⟩, s) := by
    intro fuel instant ms hms
    have hnone : instant? (" offset ".toList ++ offsetText ms ++ s) = none := rfl
    rw [modifiersFrom, hnone, offset?_append hms hs.delimited]
    exact modifiersFrom_of_follows hs fuel _
  obtain ⟨instant, offset⟩ := m
  cases instant with
  | none =>
      cases offset with
      | none => exact modifiersFrom_of_follows hs 3 .empty
      | some ms => exact hoffset 2 none ms (hm.offset ms rfl)
  | some i =>
      have hi := hm.instant i rfl
      cases offset with
      | none =>
          have hread := instant?_append hi hs.delimited
          rw [Modifiers.print, List.append_nil, modifiers, modifiersFrom, hread]
          exact modifiersFrom_of_follows hs 2 _
      | some ms =>
          have hread := instant?_append hi (s := " offset ".toList ++ offsetText ms ++ s)
            (.cons (by decide))
          rw [Modifiers.print, List.append_assoc, modifiers, modifiersFrom, hread]
          exact hoffset 1 (some i.reread) ms (hm.offset ms rfl)

end TenantScope.Query
