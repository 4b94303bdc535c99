/- Octets that are percent-encoded are decoded to what they were. -/
import TenantScope.Proofs.Text.Utf8
import TenantScope.Text.Percent

namespace TenantScope.Percent

/-! Hexadecimal digits -/

theorem hexDigit_lt {n : Nat} (h : n < 16) : (hexDigit n).toNat < 0x80 := by
  have hall : ∀ m : Fin 16, (hexDigit m).toNat < 0x80 := by decide
  exact hall ⟨n, h⟩

theorem hexValue?_hexDigit {n : Nat} (h : n < 16) :
    hexValue? (UInt8.ofNat (hexDigit n).toNat) = some n := by
  have hall : ∀ m : Fin 16, hexValue? (UInt8.ofNat (hexDigit m).toNat) = some m.val := by decide
  exact hall ⟨n, h⟩

theorem hexDigit_isAlphanum {n : Nat} (h : n < 16) : (hexDigit n).isAlphanum = true := by
  have hall : ∀ m : Fin 16, (hexDigit m).isAlphanum = true := by decide
  exact hall ⟨n, h⟩

/-- The octets of the text that an octet is percent-encoded as. -/
theorem encode_encodeByte (b : UInt8) :
    Utf8.encode (encodeByte b) =
      [0x25, UInt8.ofNat (hexDigit (b.toNat / 16)).toNat,
        UInt8.ofNat (hexDigit (b.toNat % 16)).toNat] := by
  have hb := b.toNat_lt
  refine Utf8.encode_of_lt fun c hc => ?_
  simp only [encodeByte, List.mem_cons, List.not_mem_nil, or_false] at hc
  rcases hc with rfl | rfl | rfl
  · decide
  · exact hexDigit_lt (by omega)
  · exact hexDigit_lt (by omega)

/-! Decoding -/

/-- The octets `w` decode to `v`, whatever stands around them. -/
def DecodesTo (w v : Bytes) : Prop :=
  ∀ read bs, decodeFrom read (w ++ bs) = decodeFrom (v.reverse ++ read) bs

theorem DecodesTo.nil : DecodesTo [] [] := fun _ _ => rfl

theorem DecodesTo.append {w v w' v' : Bytes} (h : DecodesTo w v) (h' : DecodesTo w' v') :
    DecodesTo (w ++ w') (v ++ v') := by
  intro read bs
  rw [List.append_assoc, h, h', List.reverse_append, List.append_assoc]

theorem DecodesTo.flatMap {α : Type} {w v : α → Bytes} (xs : List α)
    (h : ∀ x ∈ xs, DecodesTo (w x) (v x)) : DecodesTo (xs.flatMap w) (xs.flatMap v) := by
  induction xs with
  | nil => exact .nil
  | cons x xs ih =>
      rw [List.flatMap_cons, List.flatMap_cons]
      exact (h x List.mem_cons_self).append (ih fun y hy => h y (List.mem_cons_of_mem x hy))

theorem DecodesTo.decode_eq {w v : Bytes} (h : DecodesTo w v) : decode w = v := by
  have hdecode := h [] []
  rw [List.append_nil, List.append_nil] at hdecode
  rw [decode, hdecode, decodeFrom, List.reverse_reverse]

/-- An octet other than a percent sign stands for itself. -/
theorem decodesTo_self {b : UInt8} (h : b ≠ 0x25) : DecodesTo [b] [b] := by
  intro read bs
  rw [List.singleton_append, List.reverse_singleton, List.singleton_append]
  cases bs with
  | nil => rfl
  | cons c bs =>
      cases bs with
      | nil => rfl
      | cons d bs => rw [decodeFrom, if_neg h]

/-- A percent-encoded octet stands for the octet. -/
theorem decodesTo_encodeByte (b : UInt8) : DecodesTo (Utf8.encode (encodeByte b)) [b] := by
  intro read bs
  have hb := b.toNat_lt
  have hvalue : UInt8.ofNat (b.toNat / 16 * 16 + b.toNat % 16) = b := by
    rw [Nat.div_add_mod' b.toNat 16]
    exact UInt8.ofNat_toNat
  have hhigh := hexValue?_hexDigit (n := b.toNat / 16) (by omega)
  have hlow := hexValue?_hexDigit (n := b.toNat % 16) (by omega)
  rw [encode_encodeByte, List.cons_append, List.cons_append, List.singleton_append, decodeFrom,
    if_pos rfl, hhigh, hlow]
  dsimp only
  rw [hvalue]
  rfl

/-! Texts -/

theorem encode_flatMap_encodeByte (bs : Bytes) :
    Utf8.encode (bs.flatMap encodeByte) = bs.flatMap fun b => Utf8.encode (encodeByte b) := by
  rw [Utf8.encode, List.flatMap_assoc]
  rfl

theorem decodesTo_encodeChar (c : Char) :
    DecodesTo (Utf8.encode (encodeChar c)) (String.utf8EncodeChar c) := by
  have hoctets := DecodesTo.flatMap (String.utf8EncodeChar c) fun b _ => decodesTo_encodeByte b
  rw [List.flatMap_singleton'] at hoctets
  rw [encodeChar, encode_flatMap_encodeByte]
  exact hoctets

/-- A character of ASCII other than a percent sign stands for itself. -/
theorem decodesTo_encode_singleton {c : Char} (hc : c.toNat < 0x80) (hne : c ≠ '%') :
    DecodesTo (Utf8.encode [c]) (String.utf8EncodeChar c) := by
  have hoctet : UInt8.ofNat c.toNat ≠ 0x25 := by
    intro heq
    have hnat := congrArg UInt8.toNat heq
    rw [Utf8.toNat_ofNat (by omega)] at hnat
    exact hne (Char.toNat_inj.mp hnat)
  rw [Utf8.encode, List.flatMap_singleton, Utf8.encodeChar_of_lt hc]
  exact decodesTo_self hoctet

/-- A text that holds no percent sign of its own is read back, if only characters of ASCII are kept
in it. -/
theorem decode_encode {keep : Char → Bool} (hkeep : ∀ c, keep c = true → c.toNat < 0x80) {s : Text}
    (hs : '%' ∉ s) : decode (Utf8.encode (encode keep s)) = Utf8.encode s := by
  have hoctets : Utf8.encode (encode keep s) =
      s.flatMap fun c => Utf8.encode (if keep c then [c] else encodeChar c) := List.flatMap_assoc
  rw [hoctets]
  refine (DecodesTo.flatMap s fun c hc => ?_).decode_eq
  split
  · next hkept =>
    exact decodesTo_encode_singleton (hkeep c hkept) fun heq => hs (heq ▸ hc)
  · exact decodesTo_encodeChar c

end TenantScope.Percent
