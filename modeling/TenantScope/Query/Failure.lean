/- Where and why a reader of query text stopped. -/
import TenantScope.Text.Inspected

namespace TenantScope.Query

/-- What a reader needed at the place where it stopped. -/
inductive Wanted
  | character | word | name | digit | rule | range | ending
  deriving DecidableEq, Repr

def Wanted.text : Wanted → Text
  | .character => "Char".toList
  | .word => "Tag".toList
  | .name => "TakeWhile1".toList
  | .digit => "Digit".toList
  | .rule => "Verify".toList
  | .range => "MapRes".toList
  | .ending => "Eof".toList

/-- The text that was left when a reader stopped, and what it needed there. -/
structure Failure where
  rest : Text
  wanted : Wanted
  deriving DecidableEq, Repr

/-- How many characters of the remaining text a message shows. -/
def shownLength : Nat := 32

/-- The message of a failure: the place by the text that follows it, and the need. -/
def Failure.message (f : Failure) : Text :=
  let place :=
    if f.rest.isEmpty then "unexpected end of input".toList
    else "unexpected input at ".toList ++ Text.inspect (f.rest.take shownLength)
  place ++ " (".toList ++ f.wanted.text ++ ")".toList

/-- A reader returns what it read and the text that follows, or the place where it stopped. -/
abbrev Reader (α : Type) := Text → Except Failure (α × Text)

/-- A reader whose failure is never shown. -/
abbrev Lexer (α : Type) := Text → Option (α × Text)

def expect (c : Char) : Text → Except Failure Text
  | d :: s => if d = c then .ok s else .error ⟨d :: s, .character⟩
  | [] => .error ⟨[], .character⟩

/-- Reads items as long as a separator and an item follow; a separator alone is not taken.
The fuel bounds the number of items. -/
def sepItems {α : Type} (sep : Text → Option Text) (item : Lexer α) : Nat → Text → List α × Text
  | 0, s => ([], s)
  | fuel + 1, s =>
    match (sep s).bind item with
    | none => ([], s)
    | some (a, rest) =>
      let more := sepItems sep item fuel rest
      (a :: more.1, more.2)

/-- Reads separated items, possibly none. -/
def sepList {α : Type} (sep : Text → Option Text) (item : Lexer α) (fuel : Nat) (s : Text) :
    List α × Text :=
  match item s with
  | none => ([], s)
  | some (a, rest) =>
    let more := sepItems sep item fuel rest
    (a :: more.1, more.2)

end TenantScope.Query
