/- The text of query trees. -/
import TenantScope.Number.Positional
import TenantScope.Query.Words

namespace TenantScope.Query

/-! Literals -/

/-- One character of a quoted text: quotes, backslashes and control characters are escaped. -/
def quoteChar (c : Char) : Text :=
  if c = '"' then ['\\', '"']
  else if c = '\\' then ['\\', '\\']
  else if c = '\x07' then ['\\', 'a']
  else if c = '\x08' then ['\\', 'b']
  else if c = '\x0c' then ['\\', 'f']
  else if c = '\n' then ['\\', 'n']
  else if c = '\r' then ['\\', 'r']
  else if c = '\t' then ['\\', 't']
  else if c = '\x0b' then ['\\', 'v']
  else if c.toNat < 0x20 ∨ c.toNat = 0x7F then ['\\', 'x'] ++ Text.padZeros 2 (Text.hex c.toNat)
  else if 0x80 ≤ c.toNat ∧ c.toNat < 0xA0 then ['\\', 'u'] ++ Text.padZeros 4 (Text.hex c.toNat)
  else [c]

/-- A text as a double-quoted literal. -/
def quote (s : Text) : Text := '"' :: s.flatMap quoteChar ++ ['"']

/-- The units of a printed duration, largest first, in milliseconds. -/
def printedUnits : List (Text × Nat) :=
  [("y".toList, 31536000000), ("w".toList, 604800000), ("d".toList, 86400000),
    ("h".toList, 3600000), ("m".toList, 60000), ("s".toList, 1000), ("ms".toList, 1)]

/-- As many of each unit as fit, largest first; units of which none fits are left out. -/
def durationIn : List (Text × Nat) → Nat → Text
  | [], _ => []
  | (unit, size) :: units, ms =>
    (if ms / size = 0 then [] else Text.ofNat (ms / size) ++ unit) ++ durationIn units (ms % size)

def durationText (ms : Nat) : Text :=
  if ms = 0 then "0s".toList else durationIn printedUnits ms

/-- The text of a duration with its sign. -/
def offsetText (ms : Int) : Text :=
  (if ms < 0 then ['-'] else []) ++ durationText ms.natAbs

/-- The seconds of a timestamp with three decimal places. The milliseconds are rounded to a
binary64 value, and so is their thousandth. -/
def secondsText (ms : Int) : Text :=
  let seconds := Binary64.nearest (Binary64.ofNat ms.natAbs).units (1000 * 2 ^ 1074)
  (if ms < 0 then ['-'] else []) ++ seconds.fixed 3

def Instant.text : Instant → Text
  | .start => "start()".toList
  | .finish => "end()".toList
  | .millis ms => secondsText ms

/-! Parts of nodes -/

/-- Modifiers with a blank before each; the instant comes first. -/
def Modifiers.print (m : Modifiers) : Text :=
  (match m.instant with
    | some instant => " @ ".toList ++ instant.text
    | none => []) ++
  match m.offset with
    | some ms => " offset ".toList ++ offsetText ms
    | none => []

def Matcher.print (m : Matcher) : Text := m.name ++ m.op.text ++ quote m.value

/-- Texts with a comma and a blank between neighbours. -/
def commaList (parts : List Text) : Text := Text.join ", ".toList parts

/-- Matchers in braces, or nothing if there are none. -/
def matchersText : List Matcher → Text
  | [] => []
  | ms => '{' :: commaList (ms.map Matcher.print) ++ ['}']

def Selector.nameAndMatchers (s : Selector) : Text := s.name.getD [] ++ matchersText s.matchers

def Selector.print (s : Selector) : Text := s.nameAndMatchers ++ s.modifiers.print

/-- A label list in parentheses. -/
def labelsText (labels : List Text) : Text := '(' :: commaList labels ++ [')']

def Grouping.print (g : Grouping) : Text := g.mode.text ++ ' ' :: labelsText g.labels

/-- A group modifier, whose label list is left out when it is empty. -/
def GroupModifier.print (g : GroupModifier) : Text :=
  g.side.text ++ if g.labels = [] then [] else ' ' :: labelsText g.labels

def VectorMatching.print (m : VectorMatching) : Text :=
  m.mode.text ++ ' ' :: labelsText m.labels ++
    match m.group with
    | some g => ' ' :: g.print
    | none => []

/-- The modifier of a binary operator with a blank before each part. -/
def BinaryModifier.print (m : BinaryModifier) : Text :=
  (if m.returnBool then " bool".toList else []) ++
    match m.matching with
    | some matching => ' ' :: matching.print
    | none => []

/-! Trees -/

/-- The text of a tree. Parentheses stand only where the tree has them. -/
def Expr.print : Expr → Text
  | .number x => x.text
  | .string s => quote s
  | .vector s => s.print
  | .matrix s range =>
    s.nameAndMatchers ++ '[' :: durationText range ++ ']' :: s.modifiers.print
  | .call function args => function ++ '(' :: commaList (printAll args) ++ [')']
  | .aggregation op grouping param body =>
    op.text ++
      (match grouping with
        | some g => ' ' :: g.print ++ [' ']
        | none => []) ++
      '(' ::
      (match param with
        | some p => p.print ++ ", ".toList
        | none => []) ++
      body.print ++ [')']
  | .binary op modifier left right =>
    left.print ++ ' ' :: op.text ++ (modifier.map BinaryModifier.print).getD [] ++
      ' ' :: right.print
  | .unary sign operand => sign.char :: operand.print
  | .paren inner => '(' :: inner.print ++ [')']
  | .subquery body range step m =>
    body.print ++ '[' :: durationText range ++ ':' :: (step.map durationText).getD [] ++
      ']' :: m.print
where
  printAll : List Expr → List Text
    | [] => []
    | e :: es => e.print :: printAll es

end TenantScope.Query
