/- The form of a body and a query string has what their parts say, and nothing else. -/
import TenantScope.Proofs.Http.Arrangement
import TenantScope.Proofs.Text.Utf8Order

namespace TenantScope.Form

/-! Parts between ampersands -/

/-- Octets are cut into the parts between ampersands. -/
structure Cut (bs : Bytes) (parts : List Bytes) : Prop where
  joined : [0x26].intercalate parts = bs
  nonempty : parts ≠ []
  apart : ∀ part ∈ parts, 0x26 ∉ part

/-- Octets are cut in one way only. -/
theorem cut_iff {bs : Bytes} {xs : List Bytes} : Cut bs xs ↔ parts bs = xs := by
  constructor
  · intro h
    rw [← h.joined]
    exact splitAll_intercalate h.nonempty h.apart
  · rintro rfl
    refine ⟨intercalate_splitAll 0x26 bs, splitAll_ne_nil _ bs, ?_⟩
    intro part hpart hamp
    cases not_isSep_of_mem_splitAll hpart 0x26 hamp

theorem parts_append_amp (xs ys : Bytes) : parts (xs ++ 0x26 :: ys) = parts xs ++ parts ys :=
  splitAll_append_sep xs ys rfl

/-! What a form has of its parts -/

theorem mem_pairsOf {parts : List Bytes} {p : Text × Text} :
    p ∈ pairsOf parts ↔ ∃ part ∈ parts, part ≠ [] ∧ pairOf part = p := by
  simp only [pairsOf, List.mem_map, List.mem_filter, Bool.not_eq_true', List.isEmpty_eq_false_iff,
    and_assoc]

theorem valuesOf_pairsOf_ne_nil {parts : List Bytes} {key : Text} :
    valuesOf key (pairsOf parts) ≠ [] ↔ ∃ part ∈ parts, part ≠ [] ∧ (pairOf part).1 = key := by
  constructor
  · intro hne
    by_contra hnone
    refine hne (valuesOf_eq_nil fun p hp heq => hnone ?_)
    obtain ⟨part, hpart, hfull, rfl⟩ := mem_pairsOf.mp hp
    exact ⟨part, hpart, hfull, heq⟩
  · rintro ⟨part, hpart, hfull, rfl⟩
    exact List.ne_nil_of_mem (mem_valuesOf (mem_pairsOf.mpr ⟨part, hpart, hfull, rfl⟩))

/-- A form has what some parts say: the keys of those that are not empty, each once and in the order
of their octets, and with each key the values of its parts in the order of these. -/
structure Merges (parts : List Bytes) (form : Form) : Prop where
  keys : ∀ key, key ∈ form.map Prod.fst ↔ ∃ part ∈ parts, part ≠ [] ∧ (pairOf part).1 = key
  ascending : (form.map fun e => Utf8.encode e.1).Pairwise (· < ·)
  full : ∀ e ∈ form, e.2 ≠ []
  values : ∀ e ∈ form, e.2 = valuesOf e.1 (pairsOf parts)

theorem ascending_iff {form : Form} :
    (form.map fun e => Utf8.encode e.1).Pairwise (· < ·) ↔ form.Sorted := by
  rw [Sorted, List.pairwise_map, List.pairwise_map]
  simp only [Utf8.encode_lt_encode_iff]

theorem merges_ofPairs (parts : List Bytes) : Merges parts (ofPairs (pairsOf parts)) where
  keys key := by
    rw [(wellFormed_ofPairs _).mem_keys_iff, valuesOf_toPairs_ofPairs, valuesOf_pairsOf_ne_nil]
  ascending := ascending_iff.mpr (wellFormed_ofPairs _).sorted
  full := (wellFormed_ofPairs _).full
  values e he := by
    rw [← valuesOf_toPairs_ofPairs, (wellFormed_ofPairs _).valuesOf_toPairs he]

namespace Merges

variable {parts : List Bytes} {form : Form}

theorem wellFormed (h : Merges parts form) : form.WellFormed :=
  ⟨ascending_iff.mp h.ascending, h.full⟩

theorem valuesOf_toPairs (h : Merges parts form) (key : Text) :
    valuesOf key form.toPairs = valuesOf key (pairsOf parts) := by
  by_cases hkey : key ∈ form.map Prod.fst
  · obtain ⟨e, he, rfl⟩ := List.mem_map.mp hkey
    rw [h.wellFormed.valuesOf_toPairs he, h.values e he]
  · have hnone : valuesOf key (pairsOf parts) = [] := by
      by_contra hne
      exact hkey ((h.keys key).mpr (valuesOf_pairsOf_ne_nil.mp hne))
    rw [valuesOf_toPairs_of_not_mem hkey, hnone]

/-- What the parts say leaves one form. -/
theorem eq_ofPairs (h : Merges parts form) : ofPairs (pairsOf parts) = form := by
  refine (wellFormed_ofPairs _).ext_values h.wellFormed fun key => ?_
  rw [valuesOf_toPairs_ofPairs, h.valuesOf_toPairs]

end Merges

theorem ofPairs_eq_iff {parts : List Bytes} {form : Form} :
    ofPairs (pairsOf parts) = form ↔ Merges parts form := by
  constructor
  · rintro rfl
    exact merges_ofPairs parts
  · exact Merges.eq_ofPairs

/-! Bodies and query strings -/

theorem ofParts_eq_ofPairs (body : Bytes) (query : Option Text) :
    ofParts body query =
      ofPairs (pairsOf (parts body ++ parts (Utf8.encode (query.getD [])))) :=
  congrArg ofPairs (sent_eq body query)

/-- A query string may as well stand behind the body. -/
theorem ofParts_some (body : Bytes) (query : Text) :
    ofParts body (some query) = ofParts (body ++ 0x26 :: Utf8.encode query) none := by
  have hblank : pairsOf (parts (body ++ 0x26 :: Utf8.encode query) ++ [[]]) =
      pairsOf (parts body ++ parts (Utf8.encode query)) := by
    rw [parts_append_amp, pairsOf_append]
    exact List.append_nil _
  rw [ofParts_eq_ofPairs, ofParts_eq_ofPairs]
  exact congrArg ofPairs hblank.symm

/-- The form of a body and a query string is the one that has what the parts of the body and then
those of the query string say, and nothing else. It is also the form of the query string put behind
the body with an ampersand. -/
theorem ofParts_exact (body : Bytes) (query : Option Text) :
    (∃ xs ys, Cut body xs ∧ Cut (Utf8.encode (query.getD [])) ys ∧
        ∀ form, ofParts body query = form ↔ Merges (xs ++ ys) form) ∧
      ∀ q, ofParts body (some q) = ofParts (body ++ 0x26 :: Utf8.encode q) none := by
  refine ⟨⟨parts body, parts (Utf8.encode (query.getD [])), cut_iff.mpr rfl,
    cut_iff.mpr rfl, ?_⟩, ?_⟩
  · intro form
    rw [ofParts_eq_ofPairs, ofPairs_eq_iff]
  · exact ofParts_some body

/-- Keys that are encoded in different ways are the same, and empty parts say nothing. -/
example : ofParts (Utf8.encode "b=2&&%61=1".toList) (some "a=3&é".toList) =
    [("a".toList, ["1".toList, "3".toList]), ("b".toList, ["2".toList]),
      ("é".toList, [[]])] := by decide

end TenantScope.Form
