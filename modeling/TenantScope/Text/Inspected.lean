/- Texts as error messages show them: in double quotes, with what does not print written out. -/
import TenantScope.Text.Word
import TenantScope.Text.EscapedRanges

namespace TenantScope.Text

/-- Whether a character is written as its code point when it is inspected. -/
def isHidden (c : Char) : Bool :=
  if c.toNat < 0x80 then c.toNat < 0x20 || c.toNat == 0x7F else inRanges escapedRanges c.toNat

/-- A character by its code point in lower-case hexadecimal between braces. -/
def codePoint (c : Char) : Text := ['\\', 'u', '{'] ++ hex c.toNat ++ ['}']

/-- One character of an inspected text. -/
def inspectChar (c : Char) : Text :=
  if c = '"' then ['\\', '"']
  else if c = '\\' then ['\\', '\\']
  else if c = '\x00' then ['\\', '0']
  else if c = '\t' then ['\\', 't']
  else if c = '\n' then ['\\', 'n']
  else if c = '\r' then ['\\', 'r']
  else if isHidden c then codePoint c
  else [c]

/-- The inspected text: quoted, with quotes, backslashes and hidden characters escaped. -/
def inspect (s : Text) : Text := '"' :: s.flatMap inspectChar ++ ['"']

end TenantScope.Text
