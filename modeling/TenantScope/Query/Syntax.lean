/- Trees of PromQL, the query language for stored time series. -/
import TenantScope.Number.Binary64

namespace TenantScope.Query

/-- How a matcher compares a label with its value. -/
inductive MatchOp
  | equal | notEqual | regex | notRegex
  deriving DecidableEq, Repr

/-- A condition on one label of a series. -/
structure Matcher where
  name : Text
  op : MatchOp
  value : Text
  deriving DecidableEq, Repr

/-- The label that holds the metric name of a series. -/
def metricLabel : Text := "__name__".toList

/-- The instant of an `@` modifier: an end of the evaluated range, or milliseconds since 1970. -/
inductive Instant
  | start | finish | millis (ms : Int)
  deriving DecidableEq, Repr

/-- The modifiers that move a selector or a subquery in time. -/
structure Modifiers where
  instant : Option Instant
  offset : Option Int
  deriving DecidableEq, Repr

def Modifiers.empty : Modifiers := ⟨none, none⟩

/-- A set of series by metric name and matchers, moved in time by its modifiers. -/
structure Selector where
  name : Option Text
  matchers : List Matcher
  modifiers : Modifiers
  deriving DecidableEq, Repr

/-- All matchers of a selector, its metric name counting as one at the end. -/
def Selector.allMatchers (s : Selector) : List Matcher :=
  s.matchers ++ s.name.toList.map fun name => ⟨metricLabel, .equal, name⟩

inductive AggregateOp
  | sum | avg | count | min | max | group | stddev | stdvar
  | topk | bottomk | countValues | quantile | limitk | limitRatio
  deriving DecidableEq, Repr

/-- Whether an aggregation takes a parameter before its expression. -/
def AggregateOp.hasParam : AggregateOp → Bool
  | .topk | .bottomk | .countValues | .quantile | .limitk | .limitRatio => true
  | _ => false

/-- Whether a grouping keeps the listed labels or drops them. -/
inductive GroupingMode
  | by | without
  deriving DecidableEq, Repr

/-- The labels by which an aggregation groups. -/
structure Grouping where
  mode : GroupingMode
  labels : List Text
  deriving DecidableEq, Repr

inductive BinaryOp
  | equal | notEqual | lessEqual | greaterEqual
  | add | sub | mul | div | mod | pow
  | less | greater
  | and | or | unless | atan2
  deriving DecidableEq, Repr

/-- How tightly an operator binds. -/
def BinaryOp.precedence : BinaryOp → Nat
  | .or => 1
  | .and | .unless => 2
  | .equal | .notEqual | .lessEqual | .greaterEqual | .less | .greater => 3
  | .add | .sub => 4
  | .mul | .div | .mod | .atan2 => 5
  | .pow => 6

/-- Whether an operator groups to the right. -/
def BinaryOp.isRightAssociative : BinaryOp → Bool
  | .pow => true
  | _ => false

/-- Whether operands match on the listed labels or on all others. -/
inductive MatchingMode
  | on | ignoring
  deriving DecidableEq, Repr

/-- The operand that may hold several series for one of the other. -/
inductive GroupSide
  | left | right
  deriving DecidableEq, Repr

/-- The side with several series and the labels taken over from the other one. -/
structure GroupModifier where
  side : GroupSide
  labels : List Text
  deriving DecidableEq, Repr

/-- How the series of two operands are matched. -/
structure VectorMatching where
  mode : MatchingMode
  labels : List Text
  group : Option GroupModifier
  deriving DecidableEq, Repr

structure BinaryModifier where
  returnBool : Bool
  matching : Option VectorMatching
  deriving DecidableEq, Repr

inductive Sign
  | minus | plus
  deriving DecidableEq, Repr

/-- A query expression. Ranges and steps are in milliseconds. -/
inductive Expr
  | number (value : Binary64)
  | string (value : Text)
  | vector (selector : Selector)
  | matrix (selector : Selector) (range : Nat)
  | call (function : Text) (args : List Expr)
  | aggregation (op : AggregateOp) (grouping : Option Grouping) (param : Option Expr)
      (body : Expr)
  | binary (op : BinaryOp) (modifier : Option BinaryModifier) (left right : Expr)
  | unary (sign : Sign) (operand : Expr)
  | paren (inner : Expr)
  | subquery (body : Expr) (range : Nat) (step : Option Nat) (modifiers : Modifiers)
  deriving Repr, Inhabited

inductive NodeKind
  | number | string | vector | matrix | call | aggregation | binary | unary | paren | subquery
  deriving DecidableEq, Repr

def Expr.kind : Expr → NodeKind
  | .number _ => .number
  | .string _ => .string
  | .vector _ => .vector
  | .matrix _ _ => .matrix
  | .call _ _ => .call
  | .aggregation _ _ _ _ => .aggregation
  | .binary _ _ _ _ => .binary
  | .unary _ _ => .unary
  | .paren _ => .paren
  | .subquery _ _ _ _ => .subquery

/-- The selector that matches every series. -/
def Selector.everything : Selector := ⟨none, [], .empty⟩

/-- Whether two trees are the same with numbers compared as numbers. -/
def Expr.same : Expr → Expr → Bool
  | .number x, .number y => x.same y
  | .string s, .string t => s = t
  | .vector s, .vector t => s = t
  | .matrix s r, .matrix t q => s = t && r = q
  | .call f as, .call g bs => f = g && sameAll as bs
  | .aggregation o g none e, .aggregation p h none d => o = p && g = h && e.same d
  | .aggregation o g (some a) e, .aggregation p h (some b) d =>
    o = p && g = h && a.same b && e.same d
  | .binary o m l r, .binary p n x y => o = p && m = n && l.same x && r.same y
  | .unary s e, .unary t d => s = t && e.same d
  | .paren e, .paren d => e.same d
  | .subquery e r s m, .subquery d q t n => r = q && s = t && m = n && e.same d
  | _, _ => false
where
  /-- Whether two lists of trees are the same one by one. -/
  sameAll : List Expr → List Expr → Bool
    | [], [] => true
    | e :: es, d :: ds => e.same d && sameAll es ds
    | _, _ => false

end TenantScope.Query
