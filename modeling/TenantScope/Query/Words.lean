/- The words and signs of the query language. -/
import TenantScope.Query.Syntax

namespace TenantScope.Query

def MatchOp.text : MatchOp → Text
  | .equal => "=".toList
  | .notEqual => "!=".toList
  | .regex => "=~".toList
  | .notRegex => "!~".toList

/-- The match operators in the order in which they are tried. -/
def MatchOp.all : List MatchOp := [.notEqual, .notRegex, .regex, .equal]

def AggregateOp.text : AggregateOp → Text
  | .sum => "sum".toList
  | .avg => "avg".toList
  | .count => "count".toList
  | .min => "min".toList
  | .max => "max".toList
  | .group => "group".toList
  | .stddev => "stddev".toList
  | .stdvar => "stdvar".toList
  | .topk => "topk".toList
  | .bottomk => "bottomk".toList
  | .countValues => "count_values".toList
  | .quantile => "quantile".toList
  | .limitk => "limitk".toList
  | .limitRatio => "limit_ratio".toList

def AggregateOp.all : List AggregateOp :=
  [.sum, .avg, .count, .min, .max, .group, .stddev, .stdvar, .topk, .bottomk, .countValues,
    .quantile, .limitk, .limitRatio]

/-- The aggregation operator that a word names, whatever its ASCII case. -/
def AggregateOp.ofText? (word : Text) : Option AggregateOp :=
  AggregateOp.all.find? fun op => op.text = Text.lower word

def GroupingMode.text : GroupingMode → Text
  | .by => "by".toList
  | .without => "without".toList

def BinaryOp.text : BinaryOp → Text
  | .equal => "==".toList
  | .notEqual => "!=".toList
  | .lessEqual => "<=".toList
  | .greaterEqual => ">=".toList
  | .add => "+".toList
  | .sub => "-".toList
  | .mul => "*".toList
  | .div => "/".toList
  | .mod => "%".toList
  | .pow => "^".toList
  | .less => "<".toList
  | .greater => ">".toList
  | .and => "and".toList
  | .or => "or".toList
  | .unless => "unless".toList
  | .atan2 => "atan2".toList

/-- The binary operators written as signs, in the order in which they are tried. -/
def BinaryOp.signs : List BinaryOp :=
  [.equal, .notEqual, .lessEqual, .greaterEqual, .add, .sub, .mul, .div, .mod, .pow, .less,
    .greater]

/-- The binary operators written as words. -/
def BinaryOp.words : List BinaryOp := [.and, .or, .unless, .atan2]

def MatchingMode.text : MatchingMode → Text
  | .on => "on".toList
  | .ignoring => "ignoring".toList

def GroupSide.text : GroupSide → Text
  | .left => "group_left".toList
  | .right => "group_right".toList

def Sign.char : Sign → Char
  | .minus => '-'
  | .plus => '+'

/-- The words that name no label in a label list. -/
def reservedWords : List Text :=
  AggregateOp.all.map AggregateOp.text ++
    ["and", "or", "unless", "atan2", "offset", "by", "without", "on", "ignoring", "group_left",
      "group_right", "bool", "start", "end", "step"].map String.toList

/-- The units of a duration in milliseconds, in the order in which they are tried. -/
def durationUnits : List (Text × Nat) :=
  [("ms".toList, 1), ("s".toList, 1000), ("m".toList, 60000), ("h".toList, 3600000),
    ("d".toList, 86400000), ("w".toList, 604800000), ("y".toList, 31536000000)]

end TenantScope.Query
