/- Trees as chains of operands, and operands as primaries with subquery ranges. -/
import TenantScope.Proofs.Query.Tree

namespace TenantScope.Query

/-! What holds everywhere in a tree -/

/-- A property of all trees that occur in a tree. -/
def Expr.Everywhere (P : Expr → Prop) (e : Expr) : Prop := ∀ d : Expr, d.Occurs e → P d

theorem Expr.everywhere_iff {P : Expr → Prop} {e : Expr} :
    e.Everywhere P ↔ P e ∧ ∀ c ∈ e.children, c.Everywhere P := by
  constructor
  · exact fun h => ⟨h e .root, fun c hc d hd => h d (.inside hc hd)⟩
  · rintro ⟨he, hc⟩ d hd
    cases hd with
    | root => exact he
    | inside hmem hd => exact hc _ hmem d hd

theorem Expr.Everywhere.mono {P Q : Expr → Prop} {e : Expr} (h : e.Everywhere P)
    (hPQ : ∀ d, P d → Q d) : e.Everywhere Q := fun d hd => hPQ d (h d hd)

theorem Expr.Everywhere.of_occurs {P : Expr → Prop} {d e : Expr} (h : e.Everywhere P)
    (hd : d.Occurs e) : d.Everywhere P := fun b hb => h b (hb.trans hd)

theorem Expr.Everywhere.child {P : Expr → Prop} {c e : Expr} (h : e.Everywhere P)
    (hc : c ∈ e.children) : c.Everywhere P := h.of_occurs (.inside hc .root)

theorem Expr.Everywhere.and {P Q : Expr → Prop} {e : Expr} (hP : e.Everywhere P)
    (hQ : e.Everywhere Q) : e.Everywhere fun d => P d ∧ Q d := fun d hd => ⟨hP d hd, hQ d hd⟩

theorem Expr.everywhere_leaf {P : Expr → Prop} {e : Expr} (he : P e) (hchildren : e.children = []) :
    e.Everywhere P := by
  refine Expr.everywhere_iff.mpr ⟨he, fun c hc => ?_⟩
  rw [hchildren] at hc
  cases hc

/-! The front of a tree -/

/-- The operand with which the text of a tree begins, without subquery ranges. -/
def Expr.leading : Expr → Expr
  | .binary _ _ left _ => left.leading
  | .subquery body _ _ _ => body.leading
  | e => e

theorem Expr.leading_occurs (e : Expr) : e.leading.Occurs e := by
  induction e using Expr.induction_on_children with
  | node e ih =>
    cases e with
    | binary op m left right => exact .inside List.mem_cons_self (ih left List.mem_cons_self)
    | subquery body range step m =>
        exact .inside List.mem_cons_self (ih body List.mem_cons_self)
    | _ => exact .root

/-! Chains -/

/-- The text of the modifier of a binary operator. -/
def modifierText (m : Option BinaryModifier) : Text := (m.map BinaryModifier.print).getD []

theorem modifierText_append_cons (m : Option BinaryModifier) (s : Text) :
    ∃ u, modifierText m ++ ' ' :: s = ' ' :: u := by
  cases m with
  | none => exact ⟨s, rfl⟩
  | some b =>
      obtain ⟨returnBool, matching⟩ := b
      cases returnBool <;> cases matching <;> exact ⟨_, rfl⟩

/-- The text of an operator with its modifier and its right operand. -/
def Link.text (link : Link) : Text :=
  ' ' :: link.op.text ++ modifierText link.modifier ++ ' ' :: link.operand.print

/-- A link with the leaves of its operand replaced. -/
def Link.replace (φ : Leaves) (link : Link) : Link :=
  { link with operand := link.operand.replace φ }

/-- A tree that is not the node of a binary operator. -/
def Expr.NotBinary (e : Expr) : Prop := ∀ op m l r, e ≠ .binary op m l r

/-- An operand joins a tree at its right edge, so what holds of both kinds of nodes that come of it
holds of the new tree. -/
theorem Expr.attach_induction {link : Link} {P : Expr → Expr → Prop}
    (join : ∀ e : Expr, P e (.binary link.op link.modifier e link.operand))
    (descend : ∀ op m l r, P r (r.attach link) →
      P (.binary op m l r) (.binary op m l (r.attach link)))
    (e : Expr) : P e (e.attach link) := by
  induction e using Expr.induction_on_children with
  | node e ih =>
    cases e with
    | binary op m l r =>
        rw [Expr.attach]
        split
        · exact descend op m l r (ih r (List.mem_cons_of_mem _ List.mem_cons_self))
        · exact join _
    | _ => exact join _

theorem Expr.print_attach (link : Link) (e : Expr) :
    (e.attach link).print = e.print ++ link.text := by
  refine Expr.attach_induction (P := fun e d => d.print = e.print ++ link.text) ?_ ?_ e
  · intro e
    simp only [Expr.print, Link.text, modifierText, List.cons_append, List.append_assoc]
  · intro op m l r ih
    simp only [Expr.print, ih, List.cons_append, List.append_assoc]

theorem Expr.leading_attach (link : Link) (e : Expr) : (e.attach link).leading = e.leading :=
  Expr.attach_induction (P := fun e d => d.leading = e.leading) (fun _ => rfl)
    (fun _ _ _ _ _ => rfl) e

theorem Expr.replace_attach (φ : Leaves) (link : Link) (e : Expr) :
    (e.attach link).replace φ = (e.replace φ).attach (link.replace φ) := by
  induction e using Expr.induction_on_children with
  | node e ih =>
    cases e with
    | binary op m l r =>
        have hr := ih r (List.mem_cons_of_mem _ List.mem_cons_self)
        simp only [Expr.attach, Expr.replace, Link.replace] at hr ⊢
        split
        · rw [Expr.replace, hr]
        · rfl
    | aggregation op grouping param body => cases param <;> rfl
    | _ => rfl

/-- What binary nodes know of their right operand is its front, which a chain keeps as it grows. -/
theorem Expr.everywhere_attach {P : Expr → Prop} {Q : Option BinaryModifier → Expr → Prop}
    (hP : ∀ op m l r, P (.binary op m l r) ↔ Q m r.leading) (link : Link) (e : Expr) :
    (e.attach link).Everywhere P ↔
      e.Everywhere P ∧ Q link.modifier link.operand.leading ∧ link.operand.Everywhere P := by
  refine Expr.attach_induction (P := fun e d => d.Everywhere P ↔
    e.Everywhere P ∧ Q link.modifier link.operand.leading ∧ link.operand.Everywhere P) ?_ ?_ e
  · intro e
    rw [Expr.everywhere_iff, hP]
    simp only [Expr.children, List.mem_cons, List.not_mem_nil, or_false, forall_eq_or_imp,
      forall_eq]
    exact and_left_comm
  · intro op m l r ih
    rw [Expr.everywhere_iff, Expr.everywhere_iff (e := .binary op m l r), hP, hP,
      Expr.leading_attach]
    simp only [Expr.children, List.mem_cons, List.not_mem_nil, or_false, forall_eq_or_imp,
      forall_eq, ih, and_assoc]

section

variable (first : Expr) (links : List Link)

theorem Expr.print_ofChain :
    (Expr.ofChain first links).print = first.print ++ links.flatMap Link.text := by
  induction links generalizing first with
  | nil => exact (List.append_nil _).symm
  | cons link links ih =>
      rw [List.flatMap_cons, ← List.append_assoc, ← Expr.print_attach]
      exact ih (first.attach link)

theorem Expr.leading_ofChain : (Expr.ofChain first links).leading = first.leading := by
  induction links generalizing first with
  | nil => rfl
  | cons link links ih => exact (ih (first.attach link)).trans (first.leading_attach link)

theorem Expr.replace_ofChain (φ : Leaves) :
    (Expr.ofChain first links).replace φ =
      .ofChain (first.replace φ) (links.map (Link.replace φ)) := by
  induction links generalizing first with
  | nil => rfl
  | cons link links ih =>
      have hfirst := first.replace_attach φ link
      refine (ih (first.attach link)).trans ?_
      rw [hfirst]
      rfl

theorem Expr.everywhere_ofChain {P : Expr → Prop} {Q : Option BinaryModifier → Expr → Prop}
    (hP : ∀ op m l r, P (.binary op m l r) ↔ Q m r.leading) :
    (Expr.ofChain first links).Everywhere P ↔
      first.Everywhere P ∧
        ∀ link ∈ links, Q link.modifier link.operand.leading ∧ link.operand.Everywhere P := by
  induction links generalizing first with
  | nil => simp only [Expr.ofChain, List.foldl_nil, List.not_mem_nil, false_implies,
      implies_true, and_true]
  | cons link links ih =>
      refine (ih (first.attach link)).trans ?_
      rw [Expr.everywhere_attach hP, and_assoc]
      simp only [List.forall_mem_cons]

end

/-! The operands of a chain can be told from its tree -/

/-- The first operand and the links of a tree in the order of its text. -/
def Expr.spine : Expr → Expr × List Link
  | .binary op m l r => (l.spine.1, l.spine.2 ++ ⟨op, m, r.spine.1⟩ :: r.spine.2)
  | e => (e, [])

theorem Expr.spine_of_notBinary {e : Expr} (he : e.NotBinary) : e.spine = (e, []) := by
  cases e with
  | binary op m l r => exact absurd rfl (he op m l r)
  | _ => rfl

theorem Expr.spine_attach {link : Link} (hlink : link.operand.NotBinary) (e : Expr) :
    (e.attach link).spine = (e.spine.1, e.spine.2 ++ [link]) := by
  refine Expr.attach_induction (P := fun e d => d.spine = (e.spine.1, e.spine.2 ++ [link])) ?_ ?_ e
  · intro e
    rw [Expr.spine, Expr.spine_of_notBinary hlink]
  · intro op m l r ih
    rw [Expr.spine, ih, Expr.spine, List.append_assoc, List.cons_append]

theorem Expr.spine_ofChain {first : Expr} {links : List Link} (hfirst : first.NotBinary)
    (hlinks : ∀ link ∈ links, link.operand.NotBinary) :
    (Expr.ofChain first links).spine = (first, links) := by
  have hall : ∀ e : Expr, (Expr.ofChain e links).spine = (e.spine.1, e.spine.2 ++ links) := by
    clear hfirst
    induction links with
    | nil => intro e; rw [List.append_nil]; rfl
    | cons link links ih =>
        intro e
        have hlink := hlinks link List.mem_cons_self
        refine (ih (fun l hl => hlinks l (List.mem_cons_of_mem _ hl)) (e.attach link)).trans ?_
        rw [Expr.spine_attach hlink, List.append_assoc]
        rfl
  rw [hall, Expr.spine_of_notBinary hfirst]
  rfl

/-! Subquery ranges -/

/-- The range of a subquery with its step and its modifiers. -/
structure Window where
  range : Nat
  step : Option Nat
  modifiers : Modifiers

/-- The text of a subquery range. -/
def Window.text (w : Window) : Text :=
  '[' :: durationText w.range ++ ':' :: (w.step.map durationText).getD [] ++
    ']' :: w.modifiers.print

/-- A subquery range with its modifiers replaced. -/
def Window.replace (φ : Leaves) (w : Window) : Window :=
  { w with modifiers := φ.modifiers w.modifiers }

/-- The subquery of a tree over a range. -/
def Expr.over (e : Expr) (w : Window) : Expr := .subquery e w.range w.step w.modifiers

/-- The subqueries of a tree over one range after the other. -/
def Expr.ofWindows (base : Expr) (windows : List Window) : Expr := windows.foldl Expr.over base

section

variable (base : Expr) (windows : List Window)

theorem Expr.print_ofWindows :
    (Expr.ofWindows base windows).print = base.print ++ windows.flatMap Window.text := by
  induction windows generalizing base with
  | nil => exact (List.append_nil _).symm
  | cons w windows ih =>
      refine (ih (base.over w)).trans ?_
      simp only [Expr.over, Expr.print, Window.text, List.flatMap_cons, List.append_assoc,
        List.cons_append]

theorem Expr.leading_ofWindows : (Expr.ofWindows base windows).leading = base.leading := by
  induction windows generalizing base with
  | nil => rfl
  | cons w windows ih => exact ih (base.over w)

theorem Expr.replace_ofWindows (φ : Leaves) :
    (Expr.ofWindows base windows).replace φ =
      .ofWindows (base.replace φ) (windows.map (Window.replace φ)) := by
  induction windows generalizing base with
  | nil => rfl
  | cons w windows ih => exact ih (base.over w)

theorem Expr.everywhere_ofWindows_iff {P : Expr → Prop} {Q : Modifiers → Prop}
    (hP : ∀ e range step m, P (.subquery e range step m) ↔ Q m) :
    (Expr.ofWindows base windows).Everywhere P ↔
      base.Everywhere P ∧ ∀ w ∈ windows, Q w.modifiers := by
  induction windows generalizing base with
  | nil => simp only [Expr.ofWindows, List.foldl_nil, List.not_mem_nil, false_implies,
      implies_true, and_true]
  | cons w windows ih =>
      refine (ih (base.over w)).trans ?_
      rw [Expr.everywhere_iff]
      simp only [Expr.over, Expr.children, List.mem_singleton, forall_eq, hP,
        List.forall_mem_cons]
      rw [and_comm (a := Q w.modifiers), and_assoc]

theorem Expr.everywhere_ofWindows {P : Expr → Prop}
    (hP : ∀ e range step m, P (.subquery e range step m)) :
    (Expr.ofWindows base windows).Everywhere P ↔ base.Everywhere P := by
  rw [Expr.everywhere_ofWindows_iff base windows (Q := fun _ => True)
    fun e range step m => iff_true_intro (hP e range step m)]
  exact and_iff_left fun _ _ => trivial

end

/-- A tree that is not a subquery. -/
def Expr.NotSubquery (e : Expr) : Prop := ∀ d range step m, e ≠ .subquery d range step m

/-- The base of a tree and its subquery ranges, first to last. -/
def Expr.unwindow : Expr → Expr × List Window
  | .subquery e range step m => (e.unwindow.1, e.unwindow.2 ++ [⟨range, step, m⟩])
  | e => (e, [])

theorem Expr.unwindow_ofWindows {base : Expr} (hbase : base.NotSubquery) (windows : List Window) :
    (Expr.ofWindows base windows).unwindow = (base, windows) := by
  have hall : ∀ e : Expr, (Expr.ofWindows e windows).unwindow =
      (e.unwindow.1, e.unwindow.2 ++ windows) := by
    induction windows with
    | nil => intro e; rw [List.append_nil]; rfl
    | cons w windows ih =>
        intro e
        refine (ih (e.over w)).trans ?_
        rw [Expr.over, Expr.unwindow, List.append_assoc]
        rfl
  have hself : base.unwindow = (base, []) := by
    cases base with
    | subquery e range step m => exact absurd rfl (hbase e range step m)
    | _ => rfl
  rw [hall, hself]
  rfl

theorem Expr.ofWindows_notBinary {base : Expr} (hbase : base.NotBinary) (windows : List Window) :
    (Expr.ofWindows base windows).NotBinary := by
  induction windows generalizing base with
  | nil => exact hbase
  | cons w windows ih => exact ih fun _ _ _ _ h => nomatch h

end TenantScope.Query
