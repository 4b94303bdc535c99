/- Readers of label matchers, modifiers in time, and what follows a selector. -/
import TenantScope.Query.Lexeme

namespace TenantScope.Query

/-! Label matchers -/

/-- Reads a label name, a match operator and a string. -/
def namedMatcher? (s : Text) : Option (Matcher × Text) := do
  let (name, s) ← labelName? (skip s)
  let (op, s) ← wordOf? MatchOp.text MatchOp.all (skip s)
  let (value, s) ← stringLiteral? (skip s)
  return (⟨name, op, value⟩, s)

/-- Reads a matcher; a string alone is the metric name. -/
def matcher? (s : Text) : Option (Matcher × Text) :=
  (namedMatcher? s).or <|
    (stringLiteral? (skip s)).map fun r => (⟨metricLabel, .equal, r.1⟩, r.2)

/-- Drops a comma with the blanks and comments before it. -/
def dropComma (s : Text) : Text :=
  match skip s with
  | ',' :: rest => rest
  | _ => s

/-- Reads the matchers between braces; a list that cannot be read counts as absent. -/
def matchersInside (s : Text) : List Matcher × Text :=
  match sepList skipComma? matcher? s.length s with
  | ([], _) => ([], s)
  | (ms, rest) => (ms, dropComma rest)

def matcherList (s : Text) : Except Failure (List Matcher × Text) := do
  let inside ← expect '{' s
  let (ms, rest) := matchersInside (skip inside)
  let rest ← expect '}' (skip rest)
  return (ms, rest)

/-! Modifiers in time -/

/-- The least and the greatest timestamp in milliseconds. -/
def clampInstant (ms : Int) : Int := max (-2 ^ 63) (min (2 ^ 63 - 1) ms)

/-- The milliseconds nearest to a number of seconds, a tie away from zero. The product with a
thousand is rounded to a binary64 value first. -/
def millisOf? (seconds : Binary64) : Option Int :=
  if seconds.isFinite then
    let product := Binary64.nearest (seconds.units * 1000) (2 ^ 1074)
    let ms : Int := Binary64.roundUp product.units (2 ^ 1074)
    some (clampInstant
      (if !product.isFinite then (if seconds.isNegative then -2 ^ 63 else 2 ^ 63 - 1)
        else if seconds.isNegative then -ms else ms))
  else none

/-- Reads an `@` modifier with the blanks and comments before it. -/
def instant? (s : Text) : Option (Instant × Text) :=
  match skip s with
  | '@' :: s =>
    let s := skip s
    ((Text.dropLead? "start()".toList s).map fun rest => (.start, rest)).or <|
    ((Text.dropLead? "end()".toList s).map fun rest => (.finish, rest)).or <| do
      let (seconds, rest) ← signedNumber? s
      let ms ← millisOf? seconds
      return (.millis ms, rest)
  | _ => none

/-- The spellings of the offset modifier. -/
def offsetWords : List Text := ["offset".toList, "OFFSET".toList, "Offset".toList]

/-- Reads an offset modifier with the blanks and comments before it. -/
def offset? (s : Text) : Option (Int × Text) := do
  let (_, s) ← wordOf? id offsetWords (skip s)
  signedDuration? (skip s)

/-- Reads modifiers in any order, each at most once. -/
def modifiersFrom : Nat → Modifiers → Reader Modifiers
  | 0, m, s => .ok (m, s)
  | fuel + 1, m, s =>
    match instant? s, offset? s with
    | some (instant, rest), _ =>
      if m.instant.isSome then .error ⟨s, .rule⟩
      else modifiersFrom fuel { m with instant := some instant } rest
    | none, some (offset, rest) =>
      if m.offset.isSome then .error ⟨s, .rule⟩
      else modifiersFrom fuel { m with offset := some offset } rest
    | none, none => .ok (m, s)

/-- Reads the modifiers of a selector or a subquery. -/
def modifiers : Reader Modifiers :=
  -- the third one is refused whichever it is, so the fuel does not run out
  modifiersFrom 3 .empty

/-! Selectors -/

/-- Whether a subquery range stands in front: a bracket, a duration and a colon. -/
def atSubquery : Text → Bool
  | '[' :: s =>
    match duration s with
    | .ok (_, ':' :: _) => true
    | _ => false
  | _ => false

/-- Reads what follows a metric name and matchers: a range makes a matrix selector, and modifiers
may follow either. -/
def selectorTail (name : Option Text) (matchers : List Matcher) (s : Text) :
    Except Failure (Expr × Text) := do
  let s := skip s
  match s with
  | '[' :: inside =>
    if atSubquery s then
      let (m, s) ← modifiers s
      return (.vector ⟨name, matchers, m⟩, s)
    else
      let (range, s) ← duration inside
      let s ← expect ']' s
      let (m, s) ← modifiers s
      return (.matrix ⟨name, matchers, m⟩ range, s)
  | s =>
    let (m, s) ← modifiers s
    return (.vector ⟨name, matchers, m⟩, s)

/-- Whether a matcher fixes the metric name. -/
def Matcher.fixesName (m : Matcher) : Bool := m.name = metricLabel && m.op = .equal

/-- Reads a selector that begins with its matchers: the first one that fixes the metric name gives
the name, and all that fix it leave the list. -/
def matcherSelector (s : Text) : Except Failure (Expr × Text) := do
  let (ms, s) ← matcherList s
  selectorTail ((ms.find? Matcher.fixesName).map Matcher.value)
    (ms.filter fun m => !m.fixesName) s

/-- Reads what follows a metric name. -/
def namedSelector (name : Text) (s : Text) : Except Failure (Expr × Text) := do
  match s with
  | '{' :: _ =>
    let (ms, s) ← matcherList s
    selectorTail (some name) ms s
  | s => selectorTail (some name) [] s

end TenantScope.Query
