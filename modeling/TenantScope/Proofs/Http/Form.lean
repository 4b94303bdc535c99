/- An encoded form is decoded to the pairs that it was made of. -/
import TenantScope.Http.Form
import TenantScope.Proofs.Text.Percent
import TenantScope.Proofs.Text.Scan
import TenantScope.Proofs.Text.Split

namespace TenantScope.Form

/-! Characters of encoded keys and values -/

/-- The characters that an encoded key or value is made of. -/
def isPartChar (c : Char) : Bool := isPlainChar c || c == '+' || c == '%'

theorem toNat_lt_of_isPlainChar {c : Char} (h : isPlainChar c = true) : c.toNat < 0x80 := by
  rw [isPlainChar, Bool.or_eq_true] at h
  rcases h with h | h
  · exact Nat.lt_of_le_of_lt (Text.toNat_of_isAlphanum h).2 (by decide)
  · simp only [List.contains_iff_mem, List.mem_cons, List.not_mem_nil, or_false] at h
    rcases h with rfl | rfl | rfl | rfl <;> decide

theorem toNat_lt_of_isPartChar {c : Char} (h : isPartChar c = true) : c.toNat < 0x80 := by
  simp only [isPartChar, Bool.or_eq_true, beq_iff_eq] at h
  rcases h with (h | rfl) | rfl
  · exact toNat_lt_of_isPlainChar h
  · decide
  · decide

theorem isPartChar_of_mem_encodeByte {b : UInt8} {c : Char} (h : c ∈ Percent.encodeByte b) :
    isPartChar c = true := by
  have hb := b.toNat_lt
  have hdigit : ∀ n < 16, isPartChar (Percent.hexDigit n) = true := by
    intro n hn
    rw [isPartChar, isPlainChar, Percent.hexDigit_isAlphanum hn]
    rfl
  simp only [Percent.encodeByte, List.mem_cons, List.not_mem_nil, or_false] at h
  rcases h with rfl | rfl | rfl
  · decide
  · exact hdigit _ (by omega)
  · exact hdigit _ (by omega)

theorem isPartChar_of_mem_encodePart {s : Text} {c : Char} (h : c ∈ encodePart s) :
    isPartChar c = true := by
  obtain ⟨d, -, hd⟩ := List.mem_flatMap.mp h
  unfold encodeChar at hd
  split at hd
  · next hplain =>
    rw [List.mem_singleton.mp hd, isPartChar, hplain]
    rfl
  · split at hd
    · rw [List.mem_singleton.mp hd]
      decide
    · obtain ⟨b, -, hb⟩ := List.mem_flatMap.mp hd
      exact isPartChar_of_mem_encodeByte hb

/-! Keys and values -/

/-- The octet of a character of ASCII. -/
def octet (c : Char) : UInt8 := UInt8.ofNat c.toNat

theorem octet_inj {c d : Char} (hc : c.toNat < 0x80) (hd : d.toNat < 0x80)
    (h : octet c = octet d) : c = d := by
  have hnat : (octet c).toNat = (octet d).toNat := congrArg UInt8.toNat h
  rw [octet, octet, Utf8.toNat_ofNat (by omega), Utf8.toNat_ofNat (by omega)] at hnat
  rw [← Char.ofNat_toNat c, hnat, Char.ofNat_toNat]

/-- A character that does not stand in a text of ASCII does not stand in its octets. -/
theorem octet_not_mem_encode {c : Char} (hc : c.toNat < 0x80) {s : Text}
    (hs : ∀ d ∈ s, d.toNat < 0x80) (h : c ∉ s) : octet c ∉ Utf8.encode s := by
  rw [Utf8.encode_of_lt hs]
  intro hmem
  obtain ⟨d, hd, heq⟩ := List.mem_map.mp hmem
  exact h (octet_inj (hs d hd) hc heq ▸ hd)

/-- The octets of an encoded key or value. -/
def partBytes (s : Text) : Bytes := Utf8.encode (encodePart s)

/-- Whatever is encoded, no separator stands in its octets. -/
theorem not_mem_partBytes {c : Char} (hc : c.toNat < 0x80) (hpart : isPartChar c = false)
    (s : Text) : octet c ∉ partBytes s := by
  refine octet_not_mem_encode hc ?_ fun hmem => ?_
  · exact fun d hd => toNat_lt_of_isPartChar (isPartChar_of_mem_encodePart hd)
  · rw [isPartChar_of_mem_encodePart hmem] at hpart
    cases hpart

/-- The blank that a plus sign stands for; other octets stand for themselves. -/
def blankOfPlus (b : UInt8) : UInt8 := if b = 0x2B then 0x20 else b

theorem map_blankOfPlus {bs : Bytes} (h : (0x2B : UInt8) ∉ bs) : bs.map blankOfPlus = bs := by
  refine (List.map_congr_left fun b hb => ?_).trans (List.map_id bs)
  exact if_neg fun heq : b = 0x2B => h (heq ▸ hb)

theorem plus_not_mem_encodeByte (b : UInt8) : octet '+' ∉ Utf8.encode (Percent.encodeByte b) := by
  have hb := b.toNat_lt
  have hdigit : ∀ n < 16, '+' ≠ Percent.hexDigit n := by
    intro n hn heq
    have halphanum := Percent.hexDigit_isAlphanum hn
    rw [← heq] at halphanum
    cases halphanum
  refine octet_not_mem_encode (by decide) ?_ ?_
  · exact fun d hd => toNat_lt_of_isPartChar (isPartChar_of_mem_encodeByte hd)
  · simp only [Percent.encodeByte, List.mem_cons, List.not_mem_nil, or_false, not_or]
    exact ⟨by decide, hdigit _ (by omega), hdigit _ (by omega)⟩

/-- An encoded character stands for its octets. -/
theorem decodesTo_encodeChar (c : Char) :
    Percent.DecodesTo ((Utf8.encode (encodeChar c)).map blankOfPlus) (String.utf8EncodeChar c) := by
  unfold encodeChar
  split
  · next hplain =>
    have hlt := toNat_lt_of_isPlainChar hplain
    have hne : ∀ d : Char, d.toNat < 0x80 → isPlainChar d = false → octet c ≠ octet d := by
      intro d hd hplain' heq
      rw [octet_inj hlt hd heq, hplain'] at hplain
      cases hplain
    have hself : Utf8.encode [c] = [octet c] := by
      rw [Utf8.encode, List.flatMap_singleton, Utf8.encodeChar_of_lt hlt]
      rfl
    have hplus : blankOfPlus (octet c) = octet c := if_neg (hne '+' (by decide) (by decide))
    rw [hself, List.map_singleton, Utf8.encodeChar_of_lt hlt, hplus]
    exact Percent.decodesTo_self (hne '%' (by decide) (by decide))
  · split
    · next hblank =>
      rw [hblank]
      exact Percent.decodesTo_self (by decide)
    · rw [Percent.encodeChar, Percent.encode_flatMap_encodeByte, List.map_flatMap]
      have hoctets := Percent.DecodesTo.flatMap (String.utf8EncodeChar c) fun b _ =>
        Percent.decodesTo_encodeByte b
      rw [List.flatMap_singleton'] at hoctets
      simp only [map_blankOfPlus (plus_not_mem_encodeByte _)]
      exact hoctets

/-- An encoded key or value is read back. -/
theorem decodePart_partBytes (s : Text) : decodePart (partBytes s) = s := by
  have hbytes : (partBytes s).map blankOfPlus =
      s.flatMap fun c => (Utf8.encode (encodeChar c)).map blankOfPlus := by
    rw [partBytes, encodePart, Utf8.encode, List.flatMap_assoc, List.map_flatMap]
    rfl
  have hdecode : Percent.decode ((partBytes s).map blankOfPlus) = Utf8.encode s := by
    rw [hbytes]
    exact (Percent.DecodesTo.flatMap s fun c _ => decodesTo_encodeChar c).decode_eq
  change Utf8.decodeLossy (Percent.decode ((partBytes s).map blankOfPlus)) = s
  rw [hdecode, Utf8.decodeLossy_encode]

/-! Whole forms -/

/-- The octets of an encoded key with its value. -/
def pairBytes (p : Text × Text) : Bytes := partBytes p.1 ++ octet '=' :: partBytes p.2

theorem encode_encodePair (p : Text × Text) : Utf8.encode (encodePair p) = pairBytes p := by
  rw [encodePair, Utf8.encode_append]
  rfl

theorem pairOf_pairBytes (p : Text × Text) : pairOf (pairBytes p) = p := by
  have hkey : ∀ b ∈ partBytes p.1, (b == octet '=') = false := by
    intro b hb
    rw [beq_eq_false_iff_ne]
    rintro rfl
    exact not_mem_partBytes (by decide) (by decide) p.1 hb
  have hsplit : splitFirst (· == 0x3D) (pairBytes p) = (partBytes p.1, some (partBytes p.2)) :=
    splitFirst_append_cons hkey rfl _
  rw [pairOf, hsplit]
  simp only [Option.getD_some, decodePart_partBytes]

theorem amp_not_mem_pairBytes (p : Text × Text) : octet '&' ∉ pairBytes p := by
  intro hmem
  rcases List.mem_append.mp hmem with h | h
  · exact not_mem_partBytes (by decide) (by decide) p.1 h
  · rcases List.mem_cons.mp h with h | h
    · exact absurd h (by decide)
    · exact not_mem_partBytes (by decide) (by decide) p.2 h

theorem encode_join (parts : List Text) :
    Utf8.encode (Text.join ['&'] parts) = [octet '&'].intercalate (parts.map Utf8.encode) := by
  induction parts with
  | nil => rfl
  | cons part parts ih =>
      cases parts with
      | nil => rw [Text.join_singleton, List.map_singleton, List.intercalate_singleton]
      | cons next parts =>
          rw [Text.join_cons_cons, Utf8.encode_append, Utf8.encode_append, ih]
          simp only [List.map_cons, List.intercalate_cons_cons, List.append_assoc]
          rfl

/-- An encoded form is decoded to the keys and values that it was made of. -/
theorem pairs_encode (ps : List (Text × Text)) : pairs (Utf8.encode (encode ps)) = ps := by
  by_cases hps : ps = []
  · rw [hps]
    rfl
  · have hjoin : Utf8.encode (encode ps) = [octet '&'].intercalate (ps.map pairBytes) := by
      rw [encode, encode_join, List.map_map]
      congr 1
      exact List.map_congr_left fun p _ => encode_encodePair p
    have hsplit : splitAll (· == 0x26) (Utf8.encode (encode ps)) = ps.map pairBytes := by
      rw [hjoin]
      refine splitAll_intercalate (x := octet '&') (fun h => hps (List.map_eq_nil_iff.mp h)) ?_
      intro part hpart
      obtain ⟨p, -, rfl⟩ := List.mem_map.mp hpart
      exact amp_not_mem_pairBytes p
    have hfull : (ps.map pairBytes).filter (!·.isEmpty) = ps.map pairBytes := by
      refine List.filter_eq_self.mpr fun part hpart => ?_
      obtain ⟨p, -, rfl⟩ := List.mem_map.mp hpart
      rw [pairBytes]
      cases partBytes p.1 <;> rfl
    rw [pairs, pieces, hsplit, hfull, List.map_map]
    exact (List.map_congr_left fun p _ => pairOf_pairBytes p).trans (List.map_id ps)

end TenantScope.Form
