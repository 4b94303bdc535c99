/- A printed duration is read back as the same number of milliseconds. -/
import TenantScope.Proofs.Text.Digits
import TenantScope.Query.Printer

namespace TenantScope.Query

/-- What may stand behind a duration: neither another part nor the second letter of a unit. -/
def EndsDuration (s : Text) : Prop := Text.StopsAt (fun c => c.isDigit || c == 's') s

theorem EndsDuration.digits {s : Text} (hs : EndsDuration s) : Text.StopsAt Char.isDigit s :=
  fun c hc => (Bool.or_eq_false_iff.mp (hs c hc)).1

theorem Delimited.endsDuration {s : Text} (hs : Delimited s) : EndsDuration s :=
  hs.stopsAt (by decide)

theorem durationPart_of_ends {s : Text} (hs : EndsDuration s) :
    durationPart s = .error ⟨s, .digit⟩ := by
  have hdigits : Text.StopsAt (Text.isDigitIn 10) s := Text.isDigitIn_ten ▸ hs.digits
  rw [durationPart, digits?_eq_none hdigits]

theorem durationParts_of_ends {s : Text} (hs : EndsDuration s) (fuel : Nat) :
    durationParts fuel s = (0, s) := by
  cases fuel with
  | zero => rfl
  | succ fuel => rw [durationParts, durationPart_of_ends hs]

/-- The units from the smallest on, each told apart from the longer words before it. -/
theorem wordOf?_unit {u : Text × Nat} (hu : u ∈ durationUnits) {s : Text}
    (hs : s.head? ≠ some 's') :
    wordOf? Prod.fst durationUnits (u.1 ++ s) = some (u, s) := by
  simp only [durationUnits, List.mem_cons, List.not_mem_nil, or_false] at hu
  rcases hu with rfl | rfl | rfl | rfl | rfl | rfl | rfl
  · rfl
  · rfl
  · -- minutes are not milliseconds, since no `s` follows
    cases s with
    | nil => rfl
    | cons c s =>
        have hc : c ≠ 's' := fun h => hs (congrArg some h)
        simp [wordOf?, durationUnits, Text.dropLead?, hc]
  · rfl
  · rfl
  · rfl
  · rfl

theorem durationPart_append {u : Text × Nat} (hu : u ∈ durationUnits) {n : Nat}
    (hn : n ≤ maxInteger) {s : Text} (hs : s.head? ≠ some 's') :
    durationPart (Text.ofNat n ++ u.1 ++ s) = .ok (n * u.2, s) := by
  have hunit : Text.StopsAt Char.isDigit (u.1 ++ s) := by
    simp only [durationUnits, List.mem_cons, List.not_mem_nil, or_false] at hu
    rcases hu with rfl | rfl | rfl | rfl | rfl | rfl | rfl <;> exact .cons rfl
  rw [durationPart, List.append_assoc, digits?_ofNat_append n hunit]
  simp only [Text.toNat_ofNat, if_neg (Nat.not_lt.mpr hn), wordOf?_unit hu hs]

/-- What is left of a number of milliseconds behind as many of each unit as fit. -/
def remainder (units : List (Text × Nat)) (ms : Nat) : Nat := units.foldl (fun ms u => ms % u.2) ms

theorem head?_durationIn_append (units : List (Text × Nat)) (ms : Nat) {s : Text}
    (hs : EndsDuration s) : (durationIn units ms ++ s).head? ≠ some 's' := by
  induction units generalizing ms with
  | nil =>
      intro h
      have := hs 's' h
      cases this
  | cons u units ih =>
      rw [durationIn]
      by_cases h : ms / u.2 = 0
      · rw [if_pos h]
        exact ih (ms % u.2)
      · rw [if_neg h]
        obtain ⟨c, w, hw, hc, -⟩ := Text.ofNat_cons (ms / u.2)
        rw [hw]
        intro hhead
        cases hhead
        cases hc

section

variable {units : List (Text × Nat)} (hunits : ∀ u ∈ units, u ∈ durationUnits)
include hunits

/-- The parts of a printed duration are read one by one. -/
theorem durationParts_durationIn {ms fuel : Nat} {s : Text} (hms : ms ≤ maxInteger)
    (hs : EndsDuration s) (hfuel : (durationIn units ms).length ≤ fuel) :
    ∃ total, durationParts fuel (durationIn units ms ++ s) = (total, s) ∧
      total + remainder units ms = ms := by
  induction units generalizing ms fuel with
  | nil => exact ⟨0, durationParts_of_ends hs fuel, Nat.zero_add ms⟩
  | cons u units ih =>
      have hu := hunits u List.mem_cons_self
      have hrest := fun v hv => hunits v (List.mem_cons_of_mem u hv)
      have hmod : ms % u.2 ≤ maxInteger := Nat.le_trans (Nat.mod_le _ _) hms
      rw [durationIn] at hfuel ⊢
      by_cases h : ms / u.2 = 0
      · rw [if_pos h, List.nil_append] at hfuel ⊢
        obtain ⟨total, hread, htotal⟩ := ih hrest hmod hfuel
        refine ⟨total, hread, ?_⟩
        have hsplit := Nat.div_add_mod ms u.2
        rw [h] at hsplit
        rw [remainder, List.foldl_cons, ← remainder]
        omega
      · rw [if_neg h] at hfuel ⊢
        have hpart := durationPart_append hu (Nat.le_trans (Nat.div_le_self ms u.2) hms)
          (head?_durationIn_append units (ms % u.2) hs)
        cases fuel with
        | zero =>
            simp only [Nat.le_zero_eq, List.length_eq_zero_iff, List.append_eq_nil_iff] at hfuel
            exact absurd hfuel.1.1 (Text.ofNat_ne_nil _)
        | succ fuel =>
            have hlength : (durationIn units (ms % u.2)).length ≤ fuel := by
              have := List.length_pos_iff.mpr (Text.ofNat_ne_nil (ms / u.2))
              simp only [List.length_append] at hfuel
              omega
            obtain ⟨total, hread, htotal⟩ := ih hrest hmod hlength
            refine ⟨ms / u.2 * u.2 + total, ?_, ?_⟩
            · rw [durationParts, List.append_assoc, hpart]
              simp only [hread]
            · have hsplit := Nat.div_add_mod ms u.2
              rw [Nat.mul_comm] at hsplit
              rw [remainder, List.foldl_cons, ← remainder]
              omega

/-- A printed duration with at least one part is read as far as its units reach. -/
theorem duration_durationIn {ms : Nat} {s : Text} (hms : ms ≤ maxInteger)
    (hs : EndsDuration s) (hparts : durationIn units ms ≠ []) :
    ∃ total, duration (durationIn units ms ++ s) = .ok (total, s) ∧
      total + remainder units ms = ms := by
  induction units generalizing ms with
  | nil => exact absurd rfl hparts
  | cons u units ih =>
      have hu := hunits u List.mem_cons_self
      have hrest := fun v hv => hunits v (List.mem_cons_of_mem u hv)
      have hmod : ms % u.2 ≤ maxInteger := Nat.le_trans (Nat.mod_le _ _) hms
      have hsplit := Nat.div_add_mod ms u.2
      rw [durationIn] at hparts ⊢
      rw [remainder, List.foldl_cons, ← remainder]
      by_cases h : ms / u.2 = 0
      · rw [if_pos h, List.nil_append] at hparts ⊢
        obtain ⟨total, hread, htotal⟩ := ih hrest hmod hparts
        rw [h] at hsplit
        exact ⟨total, hread, by omega⟩
      · rw [if_neg h]
        have hpart := durationPart_append hu (Nat.le_trans (Nat.div_le_self ms u.2) hms)
          (head?_durationIn_append units (ms % u.2) hs)
        have hfuel : (durationIn units (ms % u.2)).length ≤
            (durationIn units (ms % u.2) ++ s).length := by rw [List.length_append]; omega
        obtain ⟨total, hread, htotal⟩ := durationParts_durationIn hrest hmod hs hfuel
        rw [Nat.mul_comm] at hsplit
        have hbound : ¬ maxInteger < ms / u.2 * u.2 + total := by omega
        refine ⟨ms / u.2 * u.2 + total, ?_, by omega⟩
        rw [duration, List.append_assoc, hpart]
        simp only [bind, Except.bind, hread, if_neg hbound]

end

theorem mem_durationUnits_of_printed : ∀ u ∈ printedUnits, u ∈ durationUnits := by decide

theorem remainder_printedUnits (ms : Nat) : remainder printedUnits ms = 0 := by
  simp only [remainder, printedUnits, List.foldl_cons, List.foldl_nil, Nat.mod_one]

theorem durationIn_printedUnits_ne_nil {ms : Nat} (h : ms ≠ 0) :
    durationIn printedUnits ms ≠ [] := by
  have hnil : ∀ (units : List (Text × Nat)) (ms : Nat), durationIn units ms = [] →
      remainder units ms = ms := by
    intro units
    induction units with
    | nil => exact fun _ _ => rfl
    | cons u units ih =>
        intro ms hnil
        rw [durationIn] at hnil
        obtain ⟨hfirst, hrest⟩ := List.append_eq_nil_iff.mp hnil
        have hdiv : ms / u.2 = 0 := by
          by_contra hdiv
          rw [if_neg hdiv] at hfirst
          exact Text.ofNat_ne_nil _ (List.append_eq_nil_iff.mp hfirst).1
        have hsplit := Nat.div_add_mod ms u.2
        rw [hdiv, Nat.mul_zero, Nat.zero_add] at hsplit
        have := ih (ms % u.2) hrest
        rw [hsplit] at this
        rw [remainder, List.foldl_cons, hsplit, ← remainder, this]
  intro hempty
  have := hnil printedUnits ms hempty
  rw [remainder_printedUnits] at this
  exact h this.symm

/-- Every duration within the bound is read back. -/
theorem duration_durationText_append {ms : Nat} {s : Text} (hms : ms ≤ maxInteger)
    (hs : EndsDuration s) : duration (durationText ms ++ s) = .ok (ms, s) := by
  rw [durationText]
  by_cases h : ms = 0
  · rw [if_pos h, h]
    have hzero := durationPart_append (u := ("s".toList, 1000)) (by decide) (n := 0)
      (Nat.zero_le _) (s := s) (fun hhead => by cases hs 's' hhead)
    have hpart : durationPart ("0s".toList ++ s) = .ok (0, s) := hzero
    rw [duration, hpart]
    simp only [bind, Except.bind, durationParts_of_ends hs, Nat.add_zero, Nat.not_lt_zero,
      if_false]
  · rw [if_neg h]
    obtain ⟨total, hread, htotal⟩ := duration_durationIn mem_durationUnits_of_printed hms hs
      (durationIn_printedUnits_ne_nil h)
    rw [remainder_printedUnits, Nat.add_zero] at htotal
    rw [hread, htotal]

/-- A duration begins with a digit. -/
theorem durationText_cons (ms : Nat) :
    ∃ c w, durationText ms = c :: w ∧ c.isDigit = true := by
  have hparts : ∀ (units : List (Text × Nat)) (ms : Nat), durationIn units ms ≠ [] →
      ∃ c w, durationIn units ms = c :: w ∧ c.isDigit = true := by
    intro units
    induction units with
    | nil => exact fun _ h => absurd rfl h
    | cons u units ih =>
        intro ms h
        rw [durationIn] at h ⊢
        by_cases hdiv : ms / u.2 = 0
        · rw [if_pos hdiv, List.nil_append] at h ⊢
          exact ih _ h
        · rw [if_neg hdiv]
          obtain ⟨c, w, hw, hc, -⟩ := Text.ofNat_cons (ms / u.2)
          exact ⟨c, w ++ u.1 ++ durationIn units (ms % u.2), by rw [hw]; rfl, hc⟩
  rw [durationText]
  by_cases h : ms = 0
  · rw [if_pos h]
    exact ⟨'0', ['s'], rfl, rfl⟩
  · rw [if_neg h]
    exact hparts printedUnits ms (durationIn_printedUnits_ne_nil h)

/-- A duration with its sign is read back, whatever its sign. -/
theorem signedDuration?_offsetText_append {ms : Int} {s : Text} (hms : ms.natAbs ≤ maxInteger)
    (hs : EndsDuration s) : signedDuration? (offsetText ms ++ s) = some (ms, s) := by
  have hread := duration_durationText_append hms hs
  rw [offsetText]
  by_cases h : ms < 0
  · have hneg : -((ms.natAbs : Nat) : Int) = ms := by omega
    rw [if_pos h, List.singleton_append, List.cons_append, signedDuration?]
    simp only [hread, Except.toOption, Option.map_some, if_true, hneg]
  · have hpos : ((ms.natAbs : Nat) : Int) = ms := by omega
    obtain ⟨c, w, hw, hc⟩ := durationText_cons ms.natAbs
    rw [hw] at hread
    have hminus : c ≠ '-' := by rintro rfl; cases hc
    have hplus : c ≠ '+' := by rintro rfl; cases hc
    rw [if_neg h, List.nil_append, hw, List.cons_append, signedDuration?]
    · rw [List.cons_append] at hread
      simp only [hread, Except.toOption, Option.map_some, Bool.false_eq_true, if_false, hpos]
    · exact fun t ht => hminus (List.cons.inj ht).1
    · exact fun t ht => hplus (List.cons.inj ht).1

end TenantScope.Query
