/- Query trees as a flat layout of plain and quoted pieces, with strings escaped for a terminal. -/
import TenantScope.Query.Printer

namespace TenantScope.Query

/-- A piece of a laid-out query: text as it is, or the content of a string literal. -/
inductive Piece
  | plain (text : Text)
  | quoted (content : Text)
  deriving DecidableEq, Repr

namespace Piece

/-- One character of a literal shown for a terminal: printable ASCII stays, quotes of either kind
and backslashes are escaped, and the rest is written by code point. -/
def displayChar (c : Char) : Text :=
  if c = '\t' then ['\\', 't']
  else if c = '\r' then ['\\', 'r']
  else if c = '\n' then ['\\', 'n']
  else if c = '\'' ∨ c = '"' ∨ c = '\\' then ['\\', c]
  else if 0x20 ≤ c.toNat ∧ c.toNat ≤ 0x7E then [c]
  else ['\\', 'u', '{'] ++ Text.hex c.toNat ++ ['}']

/-- A piece as a terminal shows it. -/
def display : Piece → Text
  | .plain text => text
  | .quoted content => '"' :: content.flatMap displayChar ++ ['"']

/-- Pieces with a plain separator between neighbouring groups. -/
def separated (sep : Text) : List (List Piece) → List Piece
  | [] => []
  | [group] => group
  | group :: groups => group ++ .plain sep :: separated sep groups

end Piece

open Piece (plain quoted separated)

def labelPieces (labels : List Text) : List Piece :=
  plain ['('] :: separated [',', ' '] (labels.map fun l => [plain l]) ++ [plain [')']]

def Modifiers.pieces (m : Modifiers) : List Piece :=
  (m.instant.toList.map fun instant => plain ([' ', '@', ' '] ++ instant.text)) ++
    m.offset.toList.map fun ms => plain (" offset ".toList ++ offsetText ms)

def Selector.headPieces (s : Selector) : List Piece :=
  s.name.toList.map plain ++
    match s.matchers with
    | [] => []
    | ms =>
      plain ['{'] ::
        separated [',', ' '] (ms.map fun m => [plain (m.name ++ m.op.text), quoted m.value]) ++
        [plain ['}']]

def Grouping.pieces (g : Grouping) : List Piece :=
  plain (g.mode.text ++ [' ']) :: labelPieces g.labels

def GroupModifier.pieces (g : GroupModifier) : List Piece :=
  plain g.side.text :: if g.labels = [] then [] else plain [' '] :: labelPieces g.labels

def BinaryModifier.pieces (m : BinaryModifier) : List Piece :=
  (if m.returnBool then [plain " bool".toList] else []) ++
    match m.matching with
    | none => []
    | some matching =>
      plain (' ' :: matching.mode.text ++ [' ']) :: labelPieces matching.labels ++
        match matching.group with
        | none => []
        | some g => plain [' '] :: g.pieces

def Expr.pieces : Expr → List Piece
  | .number x => [plain x.text]
  | .string s => [quoted s]
  | .vector s => s.headPieces ++ s.modifiers.pieces
  | .matrix s range =>
    s.headPieces ++ plain ('[' :: durationText range ++ [']']) :: s.modifiers.pieces
  | .call function args =>
    plain (function ++ ['(']) :: separated [',', ' '] (piecesAll args) ++ [plain [')']]
  | .aggregation op grouping param body =>
    plain op.text ::
      (match grouping with
        | none => []
        | some g => plain [' '] :: g.pieces ++ [plain [' ']]) ++
      plain ['('] ::
      (match param with
        | none => []
        | some p => p.pieces ++ [plain [',', ' ']]) ++
      body.pieces ++ [plain [')']]
  | .binary op modifier left right =>
    left.pieces ++ plain (' ' :: op.text) ::
      (match modifier with
        | none => []
        | some m => m.pieces) ++
      plain [' '] :: right.pieces
  | .unary sign operand => plain [sign.char] :: operand.pieces
  | .paren inner => plain ['('] :: inner.pieces ++ [plain [')']]
  | .subquery body range step m =>
    body.pieces ++
      plain ('[' :: durationText range ++ [':'] ++ (step.map durationText).getD [] ++ [']']) ::
      m.pieces
where
  piecesAll : List Expr → List (List Piece)
    | [] => []
    | e :: es => e.pieces :: piecesAll es

/-- The text of a tree for a terminal. -/
def Expr.display (e : Expr) : Text := e.pieces.flatMap Piece.display

end TenantScope.Query
