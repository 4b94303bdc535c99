/- The values of a key: in headers, among the pairs of a form, and in the form that they make. -/
import TenantScope.Http.Form
import TenantScope.Http.Headers
import Mathlib.Data.List.Sort

namespace TenantScope

/-! Values of keys -/

/-- The values that stand with a key, in their order. -/
def valuesOf (key : Text) (pairs : List (Text × Text)) : List Text :=
  (pairs.filter fun p => p.1 = key).map Prod.snd

theorem valuesOf_append (key : Text) (ps qs : List (Text × Text)) :
    valuesOf key (ps ++ qs) = valuesOf key ps ++ valuesOf key qs := by
  simp only [valuesOf, List.filter_append, List.map_append]

theorem valuesOf_eq_nil {key : Text} {ps : List (Text × Text)} (h : ∀ p ∈ ps, p.1 ≠ key) :
    valuesOf key ps = [] := by
  rw [valuesOf, List.map_eq_nil_iff, List.filter_eq_nil_iff]
  exact fun p hp heq => h p hp (of_decide_eq_true heq)

theorem mem_valuesOf {ps : List (Text × Text)} {p : Text × Text} (h : p ∈ ps) :
    p.2 ∈ valuesOf p.1 ps :=
  List.mem_map_of_mem (List.mem_filter.mpr ⟨h, decide_eq_true rfl⟩)

theorem length_valuesOf (key : Text) (ps : List (Text × Text)) :
    (valuesOf key ps).length = (ps.map Prod.fst).count key := by
  rw [valuesOf, List.length_map, ← List.countP_eq_length_filter, List.count, List.countP_map]
  refine List.countP_congr fun p _ => ?_
  rw [Function.comp_apply, beq_iff_eq, decide_eq_true_eq]

/-- Pairs of different keys may change places. -/
theorem valuesOf_append_comm {ps qs : List (Text × Text)} (h : ∀ p ∈ ps, ∀ q ∈ qs, p.1 ≠ q.1)
    (key : Text) : valuesOf key (ps ++ qs) = valuesOf key (qs ++ ps) := by
  rw [valuesOf_append, valuesOf_append]
  by_cases hkey : ∃ p ∈ ps, p.1 = key
  · obtain ⟨p, hp, rfl⟩ := hkey
    rw [valuesOf_eq_nil fun q hq heq => h p hp q hq heq.symm, List.append_nil, List.nil_append]
  · rw [valuesOf_eq_nil fun p hp heq => hkey ⟨p, hp, heq⟩, List.append_nil, List.nil_append]

/-! Headers -/

theorem Headers.get?_eq_head? (headers : Headers) (name : Text) :
    headers.get? name = (valuesOf name headers).head? := by
  rw [Headers.get?, valuesOf, List.head?_map, List.head?_filter]

/-- Without the length of the body, all other headers keep their values. -/
theorem Headers.valuesOf_withoutLength (headers : Headers) (name : Text) :
    valuesOf name headers.withoutLength =
      if name = Headers.lengthName then [] else valuesOf name headers := by
  split
  · next hlength =>
    refine valuesOf_eq_nil fun h hmem heq => ?_
    have hkept := (List.mem_filter.mp hmem).2
    exact of_decide_eq_true hkept (heq.trans hlength)
  · next hlength =>
    rw [valuesOf, Headers.withoutLength, List.filter_filter]
    refine congrArg (List.map Prod.snd) (List.filter_congr fun h _ => ?_)
    rw [Bool.and_eq_left_iff_imp, decide_eq_true_eq, decide_eq_true_eq]
    exact fun heq hname => hlength (heq ▸ hname)

/-! Forms -/

namespace Form

/-- The keys of a form stand in their order, each of them once. -/
abbrev Sorted (form : Form) : Prop := (form.map Prod.fst).Pairwise (· < ·)

/-- A form as forms are made: each key stands once and in its order, and has some value. -/
structure WellFormed (form : Form) : Prop where
  sorted : (form.map Prod.fst).Pairwise (· < ·)
  full : ∀ e ∈ form, e.2 ≠ []

theorem hasKey_eq_true {form : Form} {key : Text} :
    form.hasKey key = true ↔ key ∈ form.map Prod.fst := by
  simp only [hasKey, List.any_eq_true, decide_eq_true_eq, List.mem_map]

theorem WellFormed.nodup {form : Form} (h : form.WellFormed) :
    (form.map Prod.fst).Nodup :=
  h.sorted.imp fun {a b} hlt (heq : a = b) => List.lt_irrefl b (heq ▸ hlt)

theorem mem_keys_addFirst {key value k : Text} {form : Form} :
    k ∈ (addFirst key value form).map Prod.fst ↔ k = key ∨ k ∈ form.map Prod.fst := by
  induction form with
  | nil => simp only [addFirst, List.map_cons, List.map_nil, List.mem_cons]
  | cons e rest ih =>
      obtain ⟨k', values⟩ := e
      simp only [addFirst]
      split
      · next heq =>
        subst heq
        simp only [List.map_cons, List.mem_cons, or_self_left]
      · split
        · simp only [List.map_cons, List.mem_cons]
        · simp only [List.map_cons, List.mem_cons, ih]
          exact or_left_comm

theorem sorted_addFirst (key value : Text) {form : Form}
    (h : (form.map Prod.fst).Pairwise (· < ·)) :
    ((addFirst key value form).map Prod.fst).Pairwise (· < ·) := by
  induction form with
  | nil => exact List.pairwise_singleton _ _
  | cons e rest ih =>
      obtain ⟨k, values⟩ := e
      obtain ⟨hfirst, hrest⟩ := List.pairwise_cons.mp h
      simp only [addFirst]
      split
      · exact h
      · next hne =>
        split
        · next hlt =>
          refine List.pairwise_cons.mpr ⟨?_, h⟩
          intro k' hk'
          rcases List.mem_cons.mp hk' with rfl | hk'
          · exact hlt
          · exact List.lt_trans hlt (hfirst k' hk')
        · next hnot =>
          have hlt : k < key := by
            rcases List.le_iff_lt_or_eq.mp (List.not_lt.mp hnot) with hlt | heq
            · exact hlt
            · exact absurd heq.symm hne
          refine List.pairwise_cons.mpr ⟨?_, ih hrest⟩
          intro k' hk'
          rcases mem_keys_addFirst.mp hk' with rfl | hk'
          · exact hlt
          · exact hfirst k' hk'

theorem full_addFirst (key value : Text) {form : Form} (h : ∀ e ∈ form, e.2 ≠ []) :
    ∀ e ∈ addFirst key value form, e.2 ≠ [] := by
  induction form with
  | nil => exact List.forall_mem_singleton.mpr (List.cons_ne_nil _ _)
  | cons e rest ih =>
      obtain ⟨hfirst, hrest⟩ := List.forall_mem_cons.mp h
      simp only [addFirst]
      split
      · exact List.forall_mem_cons.mpr ⟨List.cons_ne_nil _ _, hrest⟩
      · split
        · exact List.forall_mem_cons.mpr ⟨List.cons_ne_nil _ _, h⟩
        · exact List.forall_mem_cons.mpr ⟨hfirst, ih hrest⟩

theorem WellFormed.addFirst (key value : Text) {form : Form} (h : form.WellFormed) :
    (addFirst key value form).WellFormed :=
  ⟨sorted_addFirst key value h.sorted, full_addFirst key value h.full⟩

theorem wellFormed_ofPairs (ps : List (Text × Text)) : (ofPairs ps).WellFormed := by
  induction ps with
  | nil => exact ⟨List.Pairwise.nil, fun e he => nomatch he⟩
  | cons p ps ih => exact ih.addFirst p.1 p.2

section

variable {form : Form} {key : Text} {values : List Text}

theorem Sorted.mem_before_iff {before after : Form} {e : Text × List Text}
    (h : Sorted (before ++ (key, values) :: after)) (he : e ∈ before ++ (key, values) :: after) :
    e ∈ before ↔ e.1 < key := by
  obtain ⟨-, hback, hcross⟩ := List.pairwise_append.mp (List.pairwise_map.mp h)
  obtain ⟨hafter, -⟩ := List.pairwise_cons.mp hback
  constructor
  · intro hbefore
    exact hcross e hbefore (key, values) List.mem_cons_self
  · intro hlt
    rcases List.mem_append.mp he with hbefore | he
    · exact hbefore
    · rcases List.mem_cons.mp he with rfl | he
      · exact absurd hlt (List.lt_irrefl key)
      · exact absurd hlt (List.lt_asymm (hafter e he))

theorem Sorted.lookup_eq_some_iff (h : form.Sorted) :
    form.lookup key = some values ↔ (key, values) ∈ form := by
  constructor
  · intro hlookup
    obtain ⟨front, back, rfl, -⟩ := List.lookup_eq_some_iff.mp hlookup
    exact List.mem_append_right _ List.mem_cons_self
  · intro hmem
    obtain ⟨front, back, rfl⟩ := List.append_of_mem hmem
    refine List.lookup_eq_some_iff.mpr ⟨front, back, rfl, fun p hp => ?_⟩
    have hlt : p.1 < key := (h.mem_before_iff (List.mem_append_left _ hp)).mp hp
    rw [bne_iff_ne]
    intro heq
    exact List.lt_irrefl p.1 (heq ▸ hlt)

theorem lookup_eq_none_iff : form.lookup key = none ↔ form.hasKey key = false := by
  simp only [List.lookup_eq_none_iff, hasKey, List.any_eq_false, bne_iff_ne, decide_eq_true_eq]
  exact forall₂_congr fun p _ => ne_comm

theorem lookup_cons_of_ne {e : Text × List Text} (h : key ≠ e.1) :
    List.lookup key (e :: form) = form.lookup key := by
  rw [List.lookup_cons, beq_eq_false_iff_ne.mpr h]

/-- A value put in front of a new key is the only one of the key, and no other key changes. -/
theorem lookup_addFirst {value : Text} (h : key ∉ form.map Prod.fst) (k : Text) :
    (addFirst key value form).lookup k = if k = key then some [value] else form.lookup k := by
  have hfresh : ∀ rest : Form, List.lookup k ((key, [value]) :: rest) =
      if k = key then some [value] else rest.lookup k := by
    intro rest
    split
    · next heq => rw [heq, List.lookup_cons_self]
    · next hne => rw [lookup_cons_of_ne hne]
  induction form with
  | nil => exact hfresh []
  | cons e rest ih =>
      obtain ⟨l, values⟩ := e
      obtain ⟨hne, hrest⟩ := not_or.mp (List.mem_cons.not.mp h)
      rw [addFirst, if_neg hne]
      split
      · exact hfresh _
      · by_cases heq : k = l
        · rw [heq, List.lookup_cons_self, List.lookup_cons_self, if_neg (Ne.symm hne)]
        · rw [lookup_cons_of_ne heq, lookup_cons_of_ne heq, ih hrest]

end

/-! The values in a form -/

/-- The pairs of a form. -/
def toPairs (form : Form) : List (Text × Text) := form.flatMap fun e => e.2.map (e.1, ·)

theorem key_of_mem_map {k : Text} {values : List Text} {p : Text × Text}
    (h : p ∈ values.map (k, ·)) : p.1 = k := by
  obtain ⟨value, -, rfl⟩ := List.mem_map.mp h
  rfl

theorem valuesOf_map_mk (key : Text) (values : List Text) :
    valuesOf key (values.map (key, ·)) = values := by
  have hall : ∀ p ∈ values.map (key, ·), decide (p.1 = key) = true :=
    fun p hp => decide_eq_true (key_of_mem_map hp)
  rw [valuesOf, List.filter_eq_self.mpr hall, List.map_map]
  exact List.map_id values

theorem toPairs_append (form form' : Form) :
    (form ++ form').toPairs = form.toPairs ++ form'.toPairs := List.flatMap_append

theorem valuesOf_toPairs_of_not_mem {key : Text} {form : Form} (h : key ∉ form.map Prod.fst) :
    valuesOf key form.toPairs = [] := by
  refine valuesOf_eq_nil fun p hp heq => h ?_
  obtain ⟨e, he, hp⟩ := List.mem_flatMap.mp hp
  rw [← heq, key_of_mem_map hp]
  exact List.mem_map_of_mem he

/-- A value put in front of a form is the first of its key. -/
theorem valuesOf_toPairs_addFirst (key k value : Text) (form : Form) :
    valuesOf key (addFirst k value form).toPairs = valuesOf key ((k, value) :: form.toPairs) := by
  induction form with
  | nil => rfl
  | cons e rest ih =>
      obtain ⟨l, values⟩ := e
      simp only [addFirst]
      split
      · next heq => subst heq; rfl
      · next hne =>
        split
        · rfl
        · have hdiffer : ∀ p ∈ values.map (l, ·), ∀ q ∈ [(k, value)], p.1 ≠ q.1 := by
            intro p hp q hq
            rw [key_of_mem_map hp, List.mem_singleton.mp hq]
            exact Ne.symm hne
          calc
            valuesOf key (toPairs ((l, values) :: addFirst k value rest))
              = valuesOf key (values.map (l, ·)) ++ valuesOf key (addFirst k value rest).toPairs :=
                valuesOf_append _ _ _
            _ = valuesOf key (values.map (l, ·) ++ [(k, value)]) ++
                  valuesOf key (toPairs rest) := by
                rw [ih, ← List.singleton_append, valuesOf_append, valuesOf_append,
                  List.append_assoc]
            _ = valuesOf key ((k, value) :: toPairs ((l, values) :: rest)) := by
                rw [valuesOf_append_comm hdiffer, ← valuesOf_append]
                rfl

/-- The form of some pairs has the values of their keys. -/
theorem valuesOf_toPairs_ofPairs (key : Text) (ps : List (Text × Text)) :
    valuesOf key (ofPairs ps).toPairs = valuesOf key ps := by
  induction ps with
  | nil => rfl
  | cons p ps ih =>
      calc
        valuesOf key (ofPairs (p :: ps)).toPairs
          = valuesOf key ([p] ++ (ofPairs ps).toPairs) := valuesOf_toPairs_addFirst key p.1 p.2 _
        _ = valuesOf key ([p] ++ ps) := by rw [valuesOf_append, ih, ← valuesOf_append]

namespace WellFormed

variable {form form' : Form}

theorem valuesOf_toPairs (h : form.WellFormed) {e : Text × List Text} (he : e ∈ form) :
    valuesOf e.1 form.toPairs = e.2 := by
  obtain ⟨front, back, rfl⟩ := List.append_of_mem he
  have hnodup := h.nodup
  rw [List.map_append, List.map_cons, List.nodup_middle, List.nodup_cons, List.mem_append,
    not_or] at hnodup
  have hback : valuesOf e.1 (toPairs (e :: back)) = e.2 := by
    rw [← List.singleton_append, toPairs_append, valuesOf_append,
      valuesOf_toPairs_of_not_mem hnodup.1.2, List.append_nil]
    exact (congrArg _ (List.append_nil _)).trans (valuesOf_map_mk e.1 e.2)
  rw [toPairs_append, valuesOf_append, valuesOf_toPairs_of_not_mem hnodup.1.1, hback,
    List.nil_append]

theorem mem_keys_iff (h : form.WellFormed) {key : Text} :
    key ∈ form.map Prod.fst ↔ valuesOf key form.toPairs ≠ [] := by
  constructor
  · intro hkey
    obtain ⟨e, he, rfl⟩ := List.mem_map.mp hkey
    rw [h.valuesOf_toPairs he]
    exact h.full e he
  · intro hne
    by_contra hkey
    exact hne (valuesOf_toPairs_of_not_mem hkey)

/-- A form consists of its keys with their values. -/
theorem map_keys (h : form.WellFormed) :
    (form.map Prod.fst).map (fun key => (key, valuesOf key form.toPairs)) = form := by
  rw [List.map_map]
  refine (List.map_congr_left fun e he => ?_).trans (List.map_id form)
  exact Prod.ext rfl (h.valuesOf_toPairs he)

/-- A form is determined by the values of its keys. -/
theorem ext_values (h : form.WellFormed) (h' : form'.WellFormed)
    (hvalues : ∀ key, valuesOf key form.toPairs = valuesOf key form'.toPairs) : form = form' := by
  have hkeys : form.map Prod.fst = form'.map Prod.fst := by
    refine h.sorted.eq_of_mem_iff h'.sorted fun key => ?_
    rw [h.mem_keys_iff, h'.mem_keys_iff, hvalues]
  rw [← h.map_keys, ← h'.map_keys, hkeys]
  exact List.map_congr_left fun key _ => congrArg (Prod.mk key) (hvalues key)

end WellFormed

/-- Which form some pairs make depends on the values of each key only. -/
theorem ofPairs_congr {ps qs : List (Text × Text)}
    (h : ∀ key, valuesOf key ps = valuesOf key qs) : ofPairs ps = ofPairs qs := by
  refine (wellFormed_ofPairs ps).ext_values (wellFormed_ofPairs qs) fun key => ?_
  rw [valuesOf_toPairs_ofPairs, valuesOf_toPairs_ofPairs, h]

end Form
end TenantScope
