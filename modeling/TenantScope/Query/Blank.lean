/- Blanks and comments between the words of a query. -/
import TenantScope.Text.Basic

namespace TenantScope.Query

def isBlank (c : Char) : Bool := c == ' ' || c == '\t' || c == '\n' || c == '\r'

/-- Drops blanks but no comments. -/
def skipBlanks (s : Text) : Text := s.dropWhile isBlank

/-- Drops blanks and comments. Inside a comment, `hash` is the text from its hash sign on: a
comment that ends in a carriage return without a line feed is none and stays in place. -/
def skipFrom : (hash : Option Text) → Text → Text
  | _, [] => []
  | none, c :: s =>
    if isBlank c then skipFrom none s
    else if c = '#' then skipFrom (some (c :: s)) s
    else c :: s
  | some hash, c :: s =>
    if c = '\n' then skipFrom none s
    else if c = '\r' then if s.head? = some '\n' then skipFrom none s else hash
    else skipFrom (some hash) s

/-- Drops the blanks and comments at the front of a text. -/
def skip (s : Text) : Text := skipFrom none s

/-- Drops a comma with the blanks and comments around it. -/
def skipComma? (s : Text) : Option Text :=
  match skip s with
  | ',' :: rest => some (skip rest)
  | _ => none

end TenantScope.Query
