/- Names, keywords, string literals, number literals and durations of query text. -/
import TenantScope.Query.Blank
import TenantScope.Query.Failure
import TenantScope.Query.Words
import TenantScope.Text.Word

namespace TenantScope.Query

def isLabelStart (c : Char) : Bool := c.isAlpha || c == '_'

def isLabelChar (c : Char) : Bool := c.isAlphanum || c == '_'

def isMetricStart (c : Char) : Bool := isLabelStart c || c == ':'

def isMetricChar (c : Char) : Bool := isLabelChar c || c == ':'

/-- Reads a word by the class of its first character and that of the others. -/
def word? (isStart isPart : Char → Bool) : Lexer Text
  | c :: s => if isStart c then some (c :: s.takeWhile isPart, s.dropWhile isPart) else none
  | [] => none

def labelName? : Lexer Text := word? isLabelStart isLabelChar

def metricName? : Lexer Text := word? isMetricStart isMetricChar

/-- Reads a label name that is no reserved word. -/
def clauseLabel? (s : Text) : Option (Text × Text) :=
  (labelName? s).filter fun r => Text.lower r.1 ∉ reservedWords

/-- Reads the first of the given words that stands in front, in exact case. -/
def wordOf? {α : Type} (text : α → Text) (words : List α) : Lexer α := fun s =>
  words.findSome? fun w => (Text.dropLead? (text w) s).map fun rest => (w, rest)

/-- Reads the first of the given whole words that stands in front, in any ASCII case. -/
def keywordOf? {α : Type} (text : α → Text) (words : List α) : Lexer α := fun s =>
  words.findSome? fun w => (Text.dropKeyword? (text w) s).map fun rest => (w, rest)

/-! String literals -/

/-- What the escape of a single character stands for. -/
def simpleEscape? : Char → Option Char
  | 'a' => some '\x07'
  | 'b' => some '\x08'
  | 'f' => some '\x0c'
  | 'n' => some '\n'
  | 'r' => some '\r'
  | 't' => some '\t'
  | 'v' => some '\x0b'
  | '\\' => some '\\'
  | '"' => some '"'
  | '\'' => some '\''
  | _ => none

/-- An escape by code point: its base, the digits still to come, and the value so far. -/
structure CodeEscape where
  base : Nat
  owed : Nat
  value : Nat
  deriving DecidableEq, Repr

/-- The escape by code point that a letter after the backslash begins. -/
def codeEscape? (c : Char) : Option CodeEscape :=
  if c = 'x' then some ⟨16, 2, 0⟩
  else if c = 'u' then some ⟨16, 4, 0⟩
  else if c = 'U' then some ⟨16, 8, 0⟩
  else (Text.digit? 8 c).map fun d => ⟨8, 2, d⟩

/-- The character of a finished escape: octal escapes end at 255, the others with Unicode. -/
def CodeEscape.char? (e : CodeEscape) : Option Char :=
  if e.base = 8 ∧ 255 < e.value then none
  else if e.value.isValidChar then some (Char.ofNat e.value)
  else none

/-- Where the reader of a string literal stands. -/
inductive Quoting
  | plain | escape | code (e : CodeEscape)
  deriving DecidableEq, Repr

/-- Reads a literal up to its closing quote; `read` holds its characters, last first. -/
def quotedFrom (quote : Char) : Quoting → (read : Text) → Lexer Text
  | _, _, [] => none
  | .plain, read, c :: s =>
    if c = quote then some (read.reverse, s)
    else if c = '\\' then quotedFrom quote .escape read s
    else if c = '\n' then none
    else quotedFrom quote .plain (c :: read) s
  | .escape, read, c :: s =>
    match simpleEscape? c, codeEscape? c with
    | some d, _ => quotedFrom quote .plain (d :: read) s
    | none, some e => quotedFrom quote (.code e) read s
    | none, none => none
  | .code e, read, c :: s =>
    match Text.digit? e.base c with
    | none => none
    | some d =>
      let e : CodeEscape := ⟨e.base, e.owed - 1, e.value * e.base + d⟩
      if 0 < e.owed then quotedFrom quote (.code e) read s
      else match e.char? with
        | some d => quotedFrom quote .plain (d :: read) s
        | none => none

/-- Reads the rest of a literal between backquotes, which has no escapes. -/
def raw? (s : Text) : Option (Text × Text) :=
  match s.dropWhile (· != '`') with
  | _ :: rest => some (s.takeWhile (· != '`'), rest)
  | [] => none

/-- Reads a string literal in double, single or back quotes. -/
def stringLiteral? : Lexer Text
  | '"' :: s => quotedFrom '"' .plain [] s
  | '\'' :: s => quotedFrom '\'' .plain [] s
  | '`' :: s => raw? s
  | _ => none

/-! Number literals -/

/-- The largest integer that durations, timestamps and integer literals may reach. -/
def maxInteger : Nat := 2 ^ 63 - 1

/-- Reads at least one digit in the given base. -/
def digits? (base : Nat) (s : Text) : Option (Text × Text) :=
  match s.takeWhile (Text.isDigitIn base) with
  | [] => none
  | ds => some (ds, s.dropWhile (Text.isDigitIn base))

/-- Reads an integer behind a leading zero and a base letter of either case. -/
def based? (letter : Char) (base : Nat) : Lexer Binary64
  | '0' :: c :: s =>
    if c.toLower = letter then
      match digits? base s with
      | some (ds, rest) =>
        if Text.toNat base ds ≤ maxInteger then some (.ofNat (Text.toNat base ds), rest) else none
      | none => none
    else none
  | _ => none

/-- Reads an octal integer behind a bare leading zero; it is none in front of a fraction or an
exponent. -/
def leadingZero? : Lexer Binary64
  | '0' :: s =>
    match digits? 8 s with
    | some (ds, rest) =>
      if rest.head? ∈ [some '.', some 'e', some 'E'] then none
      else if Text.toNat 8 ds ≤ maxInteger then some (.ofNat (Text.toNat 8 ds), rest)
      else none
    | none => none
  | _ => none

def exponent? : Lexer Int
  | c :: s =>
    if c.toLower = 'e' then
      let unsigned := match s with
        | '-' :: t => (true, t)
        | '+' :: t => (false, t)
        | t => (false, t)
      (digits? 10 unsigned.2).map fun r =>
        let value : Int := Text.toNat 10 r.1
        (if unsigned.1 then -value else value, r.2)
    else none
  | [] => none

/-- Reads a decimal number: digits with an optional point, then an optional exponent. -/
def decimal? (s : Text) : Option (Binary64 × Text) :=
  let whole := s.takeWhile Char.isDigit
  let afterWhole := s.dropWhile Char.isDigit
  let fraction := match afterWhole with
    | '.' :: t => (t.takeWhile Char.isDigit, t.dropWhile Char.isDigit)
    | t => ([], t)
  if whole ++ fraction.1 = [] then none
  else
    let power := (exponent? fraction.2).getD (0, fraction.2)
    some (.ofDecimal (Text.toNat 10 (whole ++ fraction.1)) (power.1 - fraction.1.length), power.2)

/-- Reads the word for infinity or for what is not a number. -/
def special? (s : Text) : Option (Binary64 × Text) :=
  ((Text.dropKeyword? "inf".toList s).map fun rest => (.infinity, rest)).or
    ((Text.dropKeyword? "nan".toList s).map fun rest => (.nan, rest))

/-- Reads a number without a sign. -/
def number? (s : Text) : Option (Binary64 × Text) :=
  (special? s).or <| (based? 'x' 16 s).or <| (based? 'o' 8 s).or <| (leadingZero? s).or <|
    decimal? s

/-- Reads a number with an optional sign. -/
def signedNumber? : Lexer Binary64
  | '-' :: s => (number? s).map fun r => (if r.1.isNaN then r.1 else r.1.neg, r.2)
  | '+' :: s => number? s
  | s => number? s

/-! Durations -/

/-- Reads one number with its unit, in milliseconds. -/
def durationPart (s : Text) : Except Failure (Nat × Text) :=
  match digits? 10 s with
  | none => .error ⟨s, .digit⟩
  | some (ds, rest) =>
    if maxInteger < Text.toNat 10 ds then .error ⟨s, .range⟩
    else match wordOf? Prod.fst durationUnits rest with
      | none => .error ⟨rest, .word⟩
      | some (unit, rest) => .ok (Text.toNat 10 ds * unit.2, rest)

/-- Reads further parts of a duration; the fuel bounds their number. -/
def durationParts : Nat → Text → Nat × Text
  | 0, s => (0, s)
  | fuel + 1, s =>
    match durationPart s with
    | .error _ => (0, s)
    | .ok (ms, rest) =>
      let more := durationParts fuel rest
      (ms + more.1, more.2)

/-- Reads a duration, the sum of its parts, in milliseconds. -/
def duration (s : Text) : Except Failure (Nat × Text) := do
  let (ms, rest) ← durationPart s
  let more := durationParts rest.length rest
  if maxInteger < ms + more.1 then .error ⟨s, .range⟩ else .ok (ms + more.1, more.2)

/-- Reads a duration with an optional sign. -/
def signedDuration? (s : Text) : Option (Int × Text) :=
  let unsigned := match s with
    | '-' :: t => (true, t)
    | '+' :: t => (false, t)
    | t => (false, t)
  (duration unsigned.2).toOption.map fun r => (if unsigned.1 then -(r.1 : Int) else r.1, r.2)

end TenantScope.Query
