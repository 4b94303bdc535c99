/- The two texts of a tree have the same layout and differ in nothing but how they quote. -/
import TenantScope.Proofs.Query.Fronts
import TenantScope.Query.Layout

namespace TenantScope.Query

/-! Pieces -/

namespace Piece

/-- A piece as it stands in the text of a query. -/
def print : Piece → Text
  | .plain text => text
  | .quoted content => quote content

/-- The content of a quoted piece. -/
def contents : Piece → List Text
  | .plain _ => []
  | .quoted content => [content]

@[simp] theorem print_plain (text : Text) : (plain text).print = text := rfl

@[simp] theorem print_quoted (content : Text) : (quoted content).print = quote content := rfl

@[simp] theorem contents_plain (text : Text) : (plain text).contents = [] := rfl

@[simp] theorem contents_quoted (content : Text) : (quoted content).contents = [content] := rfl

theorem separated_cons_cons (sep : Text) (group next : List Piece) (groups : List (List Piece)) :
    separated sep (group :: next :: groups) =
      group ++ plain sep :: separated sep (next :: groups) := rfl

theorem flatMap_print_separated (groups : List (List Piece)) :
    (separated [',', ' '] groups).flatMap print =
      commaList (groups.map fun group => group.flatMap print) := by
  induction groups with
  | nil => rfl
  | cons group groups ih =>
      cases groups with
      | nil => simp only [separated, commaList, Text.join, List.map_cons, List.map_nil,
          List.intercalate_singleton]
      | cons next groups =>
          rw [separated_cons_cons, List.flatMap_append, List.flatMap_cons, ih]
          simp only [commaList, Text.join, List.map_cons, List.intercalate_cons_cons,
            List.append_assoc]
          rfl

theorem flatMap_contents_separated (sep : Text) (groups : List (List Piece)) :
    (separated sep groups).flatMap contents =
      groups.flatMap fun group => group.flatMap contents := by
  induction groups with
  | nil => rfl
  | cons group groups ih =>
      cases groups with
      | nil => exact (List.append_nil _).symm
      | cons next groups =>
          rw [separated_cons_cons, List.flatMap_append, List.flatMap_cons, ih, List.flatMap_cons]
          rfl

end Piece

open Piece (plain quoted separated)

/-! The printed text, piece by piece -/

theorem labelPieces_print (labels : List Text) :
    (labelPieces labels).flatMap Piece.print = labelsText labels := by
  simp [labelPieces, labelsText, Piece.flatMap_print_separated, Function.comp_def]

theorem Modifiers.pieces_print (m : Modifiers) : m.pieces.flatMap Piece.print = m.print := by
  obtain ⟨instant, offset⟩ := m
  cases instant <;> cases offset <;> simp [Modifiers.pieces, Modifiers.print]

theorem Selector.headPieces_print (s : Selector) :
    s.headPieces.flatMap Piece.print = s.nameAndMatchers := by
  obtain ⟨name, matchers, modifiers⟩ := s
  have hname : (name.toList.map plain).flatMap Piece.print = name.getD [] := by
    cases name <;> simp
  have hmatcher : ∀ m : Matcher,
      [plain (m.name ++ m.op.text), quoted m.value].flatMap Piece.print = m.print := fun m => by
    simp [Matcher.print]
  cases matchers with
  | nil => simp [Selector.headPieces, Selector.nameAndMatchers, matchersText, hname]
  | cons m ms =>
      simp only [Selector.headPieces, Selector.nameAndMatchers, matchersText, List.flatMap_append,
        List.flatMap_cons, hname, Piece.flatMap_print_separated, List.map_map,
        Function.comp_def, hmatcher]
      rfl

theorem Grouping.pieces_print (g : Grouping) : g.pieces.flatMap Piece.print = g.print := by
  simp [Grouping.pieces, Grouping.print, labelPieces_print]

theorem GroupModifier.pieces_print (g : GroupModifier) :
    g.pieces.flatMap Piece.print = g.print := by
  simp only [GroupModifier.pieces, GroupModifier.print]
  split <;> simp [labelPieces_print]

theorem BinaryModifier.pieces_print (m : BinaryModifier) :
    m.pieces.flatMap Piece.print = m.print := by
  obtain ⟨returnBool, matching⟩ := m
  have hbool : (if returnBool then [plain " bool".toList] else []).flatMap Piece.print =
      if returnBool then " bool".toList else [] := by
    cases returnBool <;> simp
  simp only [BinaryModifier.pieces, BinaryModifier.print, List.flatMap_append, hbool]
  cases matching with
  | none => rfl
  | some matching =>
      obtain ⟨mode, labels, group⟩ := matching
      cases group <;>
        simp [VectorMatching.print, labelPieces_print, GroupModifier.pieces_print]

theorem Expr.piecesAll_eq (es : List Expr) : Expr.pieces.piecesAll es = es.map Expr.pieces := by
  induction es with
  | nil => rfl
  | cons e es ih => rw [Expr.pieces.piecesAll, ih, List.map_cons]

/-- The text of a query is that of its pieces. -/
theorem Expr.print_eq (e : Expr) : e.print = e.pieces.flatMap Piece.print := by
  induction e using Expr.induction_on_children with
  | node e ih =>
    cases e with
    | number x => simp [Expr.pieces, Expr.print]
    | string s => simp [Expr.pieces, Expr.print]
    | vector s =>
        simp [Expr.pieces, Expr.print, Selector.print, Selector.headPieces_print,
          Modifiers.pieces_print]
    | matrix s range =>
        simp [Expr.pieces, Expr.print, Selector.headPieces_print, Modifiers.pieces_print]
    | call function args =>
        have hargs : args.map Expr.print = args.map fun c => c.pieces.flatMap Piece.print :=
          List.map_congr_left ih
        simp [Expr.pieces, Expr.print, Expr.piecesAll_eq, Expr.printAll_eq,
          Piece.flatMap_print_separated, Function.comp_def, hargs]
    | aggregation op grouping param body =>
        have hbody := ih body (by simp [Expr.children])
        cases param with
        | none =>
            cases grouping <;> simp [Expr.pieces, Expr.print, Grouping.pieces_print, hbody]
        | some param =>
            have hparam := ih param List.mem_cons_self
            cases grouping <;> simp [Expr.pieces, Expr.print, Grouping.pieces_print, hbody, hparam]
    | binary op modifier left right =>
        have hleft := ih left List.mem_cons_self
        have hright := ih right (List.mem_cons_of_mem _ List.mem_cons_self)
        cases modifier <;>
          simp [Expr.pieces, Expr.print, BinaryModifier.pieces_print, hleft, hright]
    | unary sign e => simp [Expr.pieces, Expr.print, ih e List.mem_cons_self]
    | paren e => simp [Expr.pieces, Expr.print, ih e List.mem_cons_self]
    | subquery e range step m =>
        simp [Expr.pieces, Expr.print, Modifiers.pieces_print, ih e List.mem_cons_self]

/-! What is quoted -/

/-- The texts that a node quotes: a string literal, or the values of a selector's matchers. -/
def Expr.ownQuoted : Expr → List Text
  | .string s => [s]
  | .vector s | .matrix s _ => s.matchers.map Matcher.value
  | _ => []

/-- The texts that a tree quotes, in pre-order. -/
def Expr.quotedTexts (e : Expr) : List Text := e.preorder.flatMap Expr.ownQuoted

theorem Expr.quotedTexts_eq (e : Expr) :
    e.quotedTexts = e.ownQuoted ++ e.children.flatMap Expr.quotedTexts := by
  rw [Expr.quotedTexts, Expr.preorder_eq, List.flatMap_cons, List.flatMap_assoc]
  rfl

theorem labelPieces_contents (labels : List Text) :
    (labelPieces labels).flatMap Piece.contents = [] := by
  simp [labelPieces, Piece.flatMap_contents_separated, List.flatMap_map]

theorem Modifiers.pieces_contents (m : Modifiers) : m.pieces.flatMap Piece.contents = [] := by
  obtain ⟨instant, offset⟩ := m
  cases instant <;> cases offset <;> simp [Modifiers.pieces]

theorem Selector.headPieces_contents (s : Selector) :
    s.headPieces.flatMap Piece.contents = s.matchers.map Matcher.value := by
  obtain ⟨name, matchers, modifiers⟩ := s
  have hname : (name.toList.map plain).flatMap Piece.contents = [] := by
    cases name <;> simp
  cases matchers with
  | nil => simp [Selector.headPieces, hname]
  | cons m ms =>
      have hvalues : ms.flatMap (fun m => [m.value]) = ms.map Matcher.value :=
        List.map_eq_flatMap.symm
      simp [Selector.headPieces, hname, Piece.flatMap_contents_separated, List.flatMap_map, hvalues]

theorem GroupModifier.pieces_contents (g : GroupModifier) :
    g.pieces.flatMap Piece.contents = [] := by
  simp only [GroupModifier.pieces]
  split <;> simp [labelPieces_contents]

theorem BinaryModifier.pieces_contents (m : BinaryModifier) :
    m.pieces.flatMap Piece.contents = [] := by
  obtain ⟨returnBool, matching⟩ := m
  cases matching with
  | none => cases returnBool <;> simp [BinaryModifier.pieces]
  | some matching =>
      obtain ⟨mode, labels, group⟩ := matching
      cases returnBool <;> cases group <;>
        simp [BinaryModifier.pieces, labelPieces_contents, GroupModifier.pieces_contents]

/-- The quoted pieces of a tree are the texts that it quotes, in the same order. -/
theorem Expr.pieces_contents (e : Expr) : e.pieces.flatMap Piece.contents = e.quotedTexts := by
  induction e using Expr.induction_on_children with
  | node e ih =>
    rw [Expr.quotedTexts_eq, ← List.flatMap_congr ih]
    cases e with
    | number x => simp [Expr.pieces, Expr.ownQuoted, Expr.children]
    | string s => simp [Expr.pieces, Expr.ownQuoted, Expr.children]
    | vector s =>
        simp [Expr.pieces, Expr.ownQuoted, Expr.children, Selector.headPieces_contents,
          Modifiers.pieces_contents]
    | matrix s range =>
        simp [Expr.pieces, Expr.ownQuoted, Expr.children, Selector.headPieces_contents,
          Modifiers.pieces_contents]
    | call function args =>
        simp [Expr.pieces, Expr.ownQuoted, Expr.children, Expr.piecesAll_eq,
          Piece.flatMap_contents_separated, List.flatMap_map]
    | aggregation op grouping param body =>
        cases grouping <;> cases param <;>
          simp [Expr.pieces, Expr.ownQuoted, Expr.children, Grouping.pieces, labelPieces_contents]
    | binary op modifier left right =>
        cases modifier <;>
          simp [Expr.pieces, Expr.ownQuoted, Expr.children, BinaryModifier.pieces_contents]
    | unary sign e => simp [Expr.pieces, Expr.ownQuoted, Expr.children]
    | paren e => simp [Expr.pieces, Expr.ownQuoted, Expr.children]
    | subquery e range step m =>
        simp [Expr.pieces, Expr.ownQuoted, Expr.children, Modifiers.pieces_contents]

/-! Texts that are quoted alike -/

/-- Whether a character is one of printable ASCII and not a single quote. -/
def isPrintable (c : Char) : Bool := 0x20 ≤ c.toNat && c.toNat ≤ 0x7E && c != '\''

/-- A text is made of printable characters. -/
def Printable (s : Text) : Prop := ∀ c ∈ s, isPrintable c = true

/-- A tree quotes nothing but printable texts. -/
def Expr.Printable (e : Expr) : Prop := ∀ s ∈ e.quotedTexts, Query.Printable s

instance (s : Text) : Decidable (Printable s) :=
  inferInstanceAs (Decidable (∀ c ∈ s, isPrintable c = true))

instance (e : Expr) : Decidable e.Printable :=
  inferInstanceAs (Decidable (∀ s ∈ e.quotedTexts, Query.Printable s))

theorem quoteChar_eq_displayChar {c : Char} (h : isPrintable c = true) :
    quoteChar c = Piece.displayChar c := by
  have hascii : ∀ n < 0x7F, isPrintable (Char.ofNat n) = true →
      quoteChar (Char.ofNat n) = Piece.displayChar (Char.ofNat n) := by decide
  have hlt : c.toNat < 0x7F := by
    simp only [isPrintable, Bool.and_eq_true, decide_eq_true_eq] at h
    omega
  rw [← Char.ofNat_toNat c] at h ⊢
  exact hascii c.toNat hlt h

theorem Piece.print_eq_display {s : Text} (h : Query.Printable s) :
    (quoted s).print = (quoted s).display := by
  have hchars : s.flatMap quoteChar = s.flatMap displayChar :=
    List.flatMap_congr fun c hc => quoteChar_eq_displayChar (h c hc)
  rw [print_quoted, quote, hchars, Piece.display]

/-- Both texts of a tree that quotes nothing but printable texts are the same. -/
theorem Expr.Printable.print_eq_display {e : Expr} (h : e.Printable) : e.print = e.display := by
  rw [Expr.print_eq, Expr.display]
  refine List.flatMap_congr fun p hp => ?_
  cases p with
  | plain text => rfl
  | quoted s =>
      have hs : s ∈ e.quotedTexts := by
        rw [← Expr.pieces_contents]
        exact List.mem_flatMap.mpr ⟨quoted s, hp, List.mem_singleton_self s⟩
      exact Piece.print_eq_display (h s hs)

end TenantScope.Query
