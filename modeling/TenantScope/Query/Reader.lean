/- The reader of query expressions. -/
import TenantScope.Query.SelectorReader

namespace TenantScope.Query

/-! Label lists and the modifiers of operators -/

/-- Reads a list of labels in parentheses. -/
def labelList? (s : Text) : Option (List Text × Text) :=
  match s with
  | '(' :: s =>
    let (labels, s) := sepList skipComma? clauseLabel? s.length (skip s)
    match skip s with
    | ')' :: s => some (labels, s)
    | _ => none
  | _ => none

/-- Reads a grouping. Its word needs no boundary behind it. -/
def grouping? (s : Text) : Option (Grouping × Text) := do
  let (mode, s) ← [GroupingMode.by, .without].findSome? fun mode =>
    (Text.dropWord? mode.text s).map fun rest => (mode, rest)
  let (labels, s) ← labelList? (skip s)
  return (⟨mode, labels⟩, s)

/-- Reads the group side of a matching; its labels may be absent. -/
def groupModifier? (s : Text) : Option (GroupModifier × Text) := do
  let (side, s) ← keywordOf? GroupSide.text [.left, .right] s
  let s := skip s
  match labelList? s with
  | some (labels, s) => return (⟨side, labels⟩, s)
  | none => return (⟨side, []⟩, s)

/-- Reads how the series of two operands are matched. -/
def vectorMatching? (s : Text) : Option (VectorMatching × Text) := do
  let (mode, s) ← keywordOf? MatchingMode.text [.on, .ignoring] s
  let (labels, s) ← labelList? (skip s)
  let s := skip s
  match groupModifier? s with
  | some (group, s) => return (⟨mode, labels, some group⟩, s)
  | none => return (⟨mode, labels, none⟩, s)

/-- Reads the modifier of a binary operator, if there is one. -/
def binaryModifier (s : Text) : Option BinaryModifier × Text :=
  let s := skip s
  let (returnBool, rest) := match Text.dropKeyword? "bool".toList s with
    | some rest => (true, skip rest)
    | none => (false, s)
  match vectorMatching? rest with
  | some (matching, rest) => (some ⟨returnBool, some matching⟩, rest)
  | none => if returnBool then (some ⟨true, none⟩, rest) else (none, s)

def binaryOp? (s : Text) : Option (BinaryOp × Text) :=
  (wordOf? BinaryOp.text BinaryOp.signs s).or (keywordOf? BinaryOp.text BinaryOp.words s)

/-! Chains of operands -/

/-- An operator with its modifier and its right operand. -/
structure Link where
  op : BinaryOp
  modifier : Option BinaryModifier
  operand : Expr

/-- Whether an operator to the right takes the right operand of `op` for its left one. -/
def BinaryOp.yieldsTo (op next : BinaryOp) : Bool :=
  op.precedence < next.precedence || (op = next && op.isRightAssociative)

/-- Joins one more operand to a tree: the operator goes down the right edge past every operator
that yields to it. -/
def Expr.attach (link : Link) : Expr → Expr
  | .binary op m l r =>
    if op.yieldsTo link.op then .binary op m l (r.attach link)
    else .binary link.op link.modifier (.binary op m l r) link.operand
  | e => .binary link.op link.modifier e link.operand

/-- The tree of a chain of operands. -/
def Expr.ofChain (first : Expr) (links : List Link) : Expr :=
  links.foldl (fun e link => e.attach link) first

/-- Reads operators and operands as long as operators follow. The fuel bounds their number. -/
def chainLinks (operand : Reader Expr) : Nat → Reader (List Link)
  | 0, s => .ok ([], s)
  | fuel + 1, s =>
    match binaryOp? (skip s) with
    | none => .ok ([], s)
    | some (op, rest) => do
      let (modifier, rest) := binaryModifier rest
      let (e, rest) ← operand (skip rest)
      let (links, rest) ← chainLinks operand fuel rest
      return (⟨op, modifier, e⟩ :: links, rest)

/-- Reads an expression with the given reader of operands. -/
def chain (fuel : Nat) (operand : Reader Expr) (s : Text) : Except Failure (Expr × Text) := do
  let (first, s) ← operand (skip s)
  let (links, s) ← chainLinks operand fuel s
  return (.ofChain first links, s)

/-! Operands -/

def parenthesized (expr : Reader Expr) (s : Text) : Except Failure (Expr × Text) := do
  let s ← expect '(' s
  let (e, s) ← expr s
  let s ← expect ')' (skip s)
  return (.paren e, s)

/-- Reads the arguments of a call, with at most one comma behind the last. -/
def callTail (fuel : Nat) (expr : Reader Expr) (function : Text) (s : Text) :
    Except Failure (Expr × Text) := do
  let s ← expect '(' s
  let (args, s) := sepList skipComma? (fun s => (expr s).toOption) fuel (skip s)
  let s := dropComma s
  let s ← expect ')' (skip s)
  return (.call function args, s)

/-- Reads the parameter of an aggregation that has one, with the comma behind it. -/
def aggregationParam (expr : Reader Expr) (op : AggregateOp) (s : Text) :
    Except Failure (Option Expr × Text) := do
  if op.hasParam then
    let (param, s) ← expr s
    let s ← expect ',' (skip s)
    return (some param, s)
  else return (none, s)

/-- Reads what follows an aggregation operator; the grouping stands before or after the
parentheses. -/
def aggregationTail (expr : Reader Expr) (op : AggregateOp) (s : Text) :
    Except Failure (Expr × Text) := do
  let s := skip s
  let (before, s) := match grouping? s with
    | some (grouping, s) => (some grouping, skip s)
    | none => (none, s)
  let s ← expect '(' s
  let (param, s) ← aggregationParam expr op s
  let (body, s) ← expr s
  let s ← expect ')' (skip s)
  match before with
  | some grouping => return (.aggregation op (some grouping) param body, s)
  | none =>
    let s := skip s
    match grouping? s with
    | some (grouping, s) => return (.aggregation op (some grouping) param body, s)
    | none => return (.aggregation op none param body, s)

/-- Reads an operand that begins with a name: an aggregation, a call or a selector. -/
def namedOperand (fuel : Nat) (expr : Reader Expr) (s : Text) : Except Failure (Expr × Text) :=
  let aggregation := do
    let (word, rest) ← labelName? s
    let op ← AggregateOp.ofText? word
    return (op, rest)
  match aggregation, metricName? s with
  | some (op, rest), _ => aggregationTail expr op rest
  | none, some (name, rest) =>
    let rest := skip rest
    if rest.head? = some '(' then callTail fuel expr name rest else namedSelector name rest
  | none, none => .error ⟨s, .name⟩

/-- Reads an operand without sign and subquery range. -/
def primary (fuel : Nat) (expr : Reader Expr) (s : Text) : Except Failure (Expr × Text) :=
  match s with
  -- what cannot be read behind an opening sign is reported as a missing name in front of it
  | '(' :: _ => (parenthesized expr s).mapError fun _ => ⟨s, .name⟩
  | '{' :: _ => (matcherSelector s).mapError fun _ => ⟨s, .name⟩
  | _ =>
    match number? s, stringLiteral? s with
    | some (x, rest), _ => .ok (.number x, rest)
    | none, some (text, rest) => .ok (.string text, rest)
    | none, none => namedOperand fuel expr s

/-- Reads a subquery range: `[range:step]` without blanks, the step being optional. -/
def subqueryRange (s : Text) : Except Failure ((Nat × Option Nat) × Text) := do
  let s ← expect '[' s
  let (range, s) ← duration s
  let s ← expect ':' s
  let (step, s) := match duration s with
    | .ok (step, s) => (some step, s)
    | .error _ => (none, s)
  let s ← expect ']' s
  return ((range, step), s)

/-- Reads the subquery ranges behind an operand. The fuel bounds their number. -/
def subqueries : Nat → Expr → Reader Expr
  | 0, e, s => .ok (e, s)
  | fuel + 1, e, s =>
    if atSubquery (skip s) then do
      let ((range, step), s) ← subqueryRange (skip s)
      let (m, s) ← modifiers s
      subqueries fuel (.subquery e range step m) s
    else .ok (e, s)

/-- Reads an operand behind its sign, which belongs to the operator and never to a number. -/
def signed (operand : Reader Expr) (sign : Sign) (s rest : Text) :
    Except Failure (Expr × Text) :=
  match operand (skip rest) with
  | .ok (e, rest) => .ok (.unary sign e, rest)
  -- a number right behind the sign makes its own failure the one that is reported
  | .error f => .error (if (number? rest).isSome then f else ⟨s, .name⟩)

/-- Reads an operand, given the reader of the operands inside it. -/
def operandStep (fuel : Nat) (operand : Reader Expr) (s : Text) : Except Failure (Expr × Text) :=
  match s with
  | '-' :: rest => signed operand .minus s rest
  | '+' :: rest => signed operand .plus s rest
  | s => do
    let (e, s) ← primary fuel (chain fuel operand) s
    subqueries fuel e s

/-- Reads an operand. The fuel bounds the depth of the tree and every list in it. -/
def operand : Nat → Reader Expr
  | 0, s => .error ⟨s, .name⟩
  | fuel + 1, s => operandStep fuel (operand fuel) s

/-- Reads an expression. -/
def expr (s : Text) : Except Failure (Expr × Text) :=
  -- enough fuel, for every operand inside another one stands behind a character of its own
  chain (s.length + 1) (operand (s.length + 1)) s

/-! Whole queries -/

/-- Whether a text is a pair of empty braces with blanks but no comments around and inside. -/
def isEmptyBraces (s : Text) : Bool :=
  match skipBlanks s with
  | '{' :: s =>
    match skipBlanks s with
    | '}' :: s => (skipBlanks s).isEmpty
    | _ => false
  | _ => false

/-- Reads a whole text as a query. -/
def read (s : Text) : Except Failure Expr :=
  if isEmptyBraces s then .ok (.vector .everything)
  else do
    let (e, rest) ← expr s
    match skip rest with
    | [] => return e
    | rest => .error ⟨rest, .ending⟩

end TenantScope.Query
