/- Percent encoding: an octet as a percent sign and two hexadecimal digits. -/
import TenantScope.Text.Utf8

namespace TenantScope.Percent

/-- The upper-case hexadecimal digit of a number below sixteen. -/
def hexDigit (n : Nat) : Char := (Nat.digitChar n).toUpper

/-- An octet written as a percent sign and two digits. -/
def encodeByte (b : UInt8) : Text := ['%', hexDigit (b.toNat / 16), hexDigit (b.toNat % 16)]

/-- The octets of a character, each percent-encoded. -/
def encodeChar (c : Char) : Text := (String.utf8EncodeChar c).flatMap encodeByte

/-- A text with the characters that `keep` refuses percent-encoded. -/
def encode (keep : Char → Bool) (s : Text) : Text :=
  s.flatMap fun c => if keep c then [c] else encodeChar c

/-- The value of an octet that stands for a hexadecimal digit. -/
def hexValue? (b : UInt8) : Option Nat := Text.digit? 16 (Char.ofNat b.toNat)

/-- Decodes the rest of the octets; `read` holds what was decoded, last first. -/
def decodeFrom (read : Bytes) : Bytes → Bytes
  | [] => read.reverse
  | [b] => (b :: read).reverse
  | [b, c] => (c :: b :: read).reverse
  | b :: h :: l :: bs =>
    match if b = 0x25 then hexValue? h else none, hexValue? l with
    | some high, some low => decodeFrom (UInt8.ofNat (high * 16 + low) :: read) bs
    | _, _ => decodeFrom (b :: read) (h :: l :: bs)

/-- Replaces every percent sign with two hexadecimal digits by the octet they write. -/
def decode (bs : Bytes) : Bytes := decodeFrom [] bs

end TenantScope.Percent
