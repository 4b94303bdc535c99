/- A printed tree is read back when its names are read bare and no modifier clashes with the operand
behind it. -/
import TenantScope.Proofs.Query.Rereading

namespace TenantScope.Query

/-- A selector whose name is read bare. -/
def Expr.Bare : Expr → Prop
  | .vector s | .matrix s _ => ∀ n ∈ s.name, isBareName n = true
  | _ => True

/-- An operator whose modifier does not clash with the front of its right operand. -/
def Expr.Clear : Expr → Prop
  | .binary _ m _ right => clashes m right.leading = false
  | _ => True

/-- A tree whose node is read back from its text. -/
def Expr.Legible (e : Expr) : Prop := e.Bare ∧ e.Clear

/-- The readers of the places of an expression. The one of operands without a sign needs fuel for
itself, as that of operands does. -/
def readAt : Place → Nat → Reader Expr
  | .chain, fuel => chain fuel (operand fuel)
  | .operand, fuel => operand fuel
  | .primary, 0 => fun s => .error ⟨s, .name⟩
  | .primary, fuel + 1 => primary fuel (chain fuel (operand fuel))

/-! The fuel that a text needs -/

theorem length_le_flatMap {α : Type} (text : α → Text) (xs : List α) (hxs : ∀ x ∈ xs, text x ≠ []) :
    xs.length ≤ (xs.flatMap text).length := by
  induction xs with
  | nil => exact Nat.zero_le _
  | cons x xs ih =>
      have hx := List.length_pos_iff.mpr (hxs x List.mem_cons_self)
      have hrest := ih fun y hy => hxs y (List.mem_cons_of_mem x hy)
      rw [List.flatMap_cons, List.length_append, List.length_cons]
      omega

theorem length_text_le_flatMap {α : Type} (text : α → Text) {x : α} {xs : List α} (hx : x ∈ xs) :
    (text x).length ≤ (xs.flatMap text).length := by
  obtain ⟨ys, zs, rfl⟩ := List.append_of_mem hx
  rw [List.flatMap_append, List.flatMap_cons, List.length_append, List.length_append]
  omega

theorem length_le_commaList_of_mem {x : Text} {xs : List Text} (hx : x ∈ xs) :
    x.length ≤ (commaList xs).length := by
  induction xs with
  | nil => cases hx
  | cons y ys ih =>
      obtain ⟨t, ht⟩ := commaList_cons y ys
      cases hx with
      | head => rw [ht, List.length_append]; omega
      | tail _ hx =>
          have := ih hx
          cases ys with
          | nil => cases hx
          | cons z zs =>
              rw [commaList_cons_cons, List.length_append, List.length_cons, List.length_cons]
              omega

theorem length_ofChain {first : Expr} {links : List Link} {fuel : Nat}
    (hfuel : (Expr.ofChain first links).print.length < fuel) :
    first.print.length < fuel ∧ (∀ link ∈ links, link.operand.print.length < fuel) ∧
      links.length ≤ fuel := by
  rw [Expr.print_ofChain, List.length_append] at hfuel
  have hnumber := length_le_flatMap Link.text links fun _ _ => List.cons_ne_nil _ _
  refine ⟨by omega, fun link hl => ?_, by omega⟩
  have hlength := length_text_le_flatMap Link.text hl
  have hoperand : link.operand.print.length < link.text.length := by
    simp only [Link.text, List.length_append, List.length_cons]
    omega
  omega

theorem length_ofWindows {base : Expr} {windows : List Window} {fuel : Nat}
    (hfuel : (Expr.ofWindows base windows).print.length < fuel + 1) :
    base.print.length < fuel + 1 ∧ windows.length ≤ fuel := by
  rw [Expr.print_ofWindows, List.length_append] at hfuel
  have hnumber := length_le_flatMap Window.text windows fun _ _ => List.cons_ne_nil _ _
  exact ⟨by omega, by omega⟩

theorem length_call {function : Text} {args : List Expr} {fuel : Nat}
    (hat : ∀ a ∈ args, a.At .chain) (hworded : ∀ a ∈ args, a.Everywhere Expr.Worded)
    (hfuel : (Expr.call function args).print.length < fuel + 1) :
    (∀ a ∈ args, a.print.length < fuel) ∧ args.length ≤ fuel + 1 := by
  rw [← List.append_nil (Expr.print _), call_print_append] at hfuel
  simp only [List.length_append, List.length_cons, List.length_nil] at hfuel
  have hnumber : args.length ≤ (commaList (args.map Expr.print)).length := by
    refine length_le_commaList fun a ha hnil => ?_
    obtain ⟨c, w, hw, -⟩ := print_cons (hat a ha) (hworded a ha)
    rw [hnil] at hw
    cases hw
  refine ⟨fun a ha => ?_, by omega⟩
  have hlength := length_le_commaList_of_mem (List.mem_map_of_mem (f := Expr.print) ha)
  omega

theorem length_aggregation {op : AggregateOp} {grouping : Option Grouping} {param : Option Expr}
    {body : Expr} {fuel : Nat}
    (hfuel : (Expr.aggregation op grouping param body).print.length < fuel + 1) :
    (∀ p ∈ param, p.print.length < fuel) ∧ body.print.length < fuel := by
  rw [← List.append_nil (Expr.print _), aggregation_print_append] at hfuel
  simp only [List.length_append, List.length_cons, List.length_nil] at hfuel
  refine ⟨?_, by omega⟩
  rintro p ⟨⟩
  simp only [paramText, List.length_append] at hfuel
  omega

theorem length_paren {e : Expr} {fuel : Nat} (hfuel : (Expr.paren e).print.length < fuel + 1) :
    e.print.length < fuel := by
  simp only [Expr.print, List.length_append, List.length_cons] at hfuel
  omega

/-! The round trip -/

section

variable (first : Expr) (links : List Link)

theorem everywhere_worded_ofChain :
    (Expr.ofChain first links).Everywhere Expr.Worded ↔
      first.Everywhere Expr.Worded ∧ ∀ link ∈ links, link.operand.Everywhere Expr.Worded := by
  have hchain := Expr.everywhere_ofChain (P := Expr.Worded) (Q := fun _ _ => True) first links
    fun _ _ _ _ => Iff.rfl
  simpa only [true_and] using hchain

theorem everywhere_legible_ofChain :
    (Expr.ofChain first links).Everywhere Expr.Legible ↔
      first.Everywhere Expr.Legible ∧
        ∀ link ∈ links, clashes link.modifier link.operand.leading = false ∧
          link.operand.Everywhere Expr.Legible :=
  Expr.everywhere_ofChain (Q := fun m d => clashes m d = false) first links
    fun _ _ _ _ => and_iff_right trivial

end

theorem param_mem_children (op : AggregateOp) (grouping : Option Grouping) {param : Option Expr}
    {p : Expr} (hp : p ∈ param) (body : Expr) :
    p ∈ (Expr.aggregation op grouping param body).children :=
  List.mem_append_left _ (Option.mem_toList.mpr hp)

theorem body_mem_children (op : AggregateOp) (grouping : Option Grouping) (param : Option Expr)
    (body : Expr) : body ∈ (Expr.aggregation op grouping param body).children :=
  List.mem_append_right _ List.mem_cons_self

/-- At every place, a printed tree is read as it stands, with its leaves reread. -/
theorem Expr.At.readsBack {p : Place} {e : Expr} (h : e.At p)
    (hworded : e.Everywhere Expr.Worded) (hlegible : e.Everywhere Expr.Legible) {fuel : Nat}
    (hfuel : e.print.length < fuel) : ReadsBack (readAt p fuel) p e := by
  induction h generalizing fuel with
  | @chain first links hfirst hmodifiers hlinks ihfirst ihlinks =>
      obtain ⟨hwfirst, hwlinks⟩ := (everywhere_worded_ofChain first links).mp hworded
      obtain ⟨hlfirst, hllinks⟩ := (everywhere_legible_ofChain first links).mp hlegible
      obtain ⟨hffirst, hflinks, hnumber⟩ := length_ofChain hfuel
      exact readsBack_chain
        (fun l hl => ihlinks l hl (hwlinks l hl) (hllinks l hl).2 (hflinks l hl)) hlinks hwlinks
        hmodifiers (fun l hl => (hllinks l hl).1) (ihfirst hwfirst hlfirst hffirst) hfirst hwfirst
        hnumber
  | @unary e sign he ih =>
      have hwe := hworded.child (c := e) List.mem_cons_self
      have hle := hlegible.child (c := e) List.mem_cons_self
      cases fuel with
      | zero => exact absurd hfuel (Nat.not_lt_zero _)
      | succ fuel =>
          exact readsBack_unary (ih hwe hle (Nat.lt_of_succ_lt_succ hfuel)) he hwe sign fuel
  | @windows base windows hbase hwindows ih =>
      have hwbase := (Expr.everywhere_ofWindows base windows fun _ _ _ _ => trivial).mp hworded
      have hlbase :=
        (Expr.everywhere_ofWindows base windows fun _ _ _ _ => ⟨trivial, trivial⟩).mp hlegible
      cases fuel with
      | zero => exact absurd hfuel (Nat.not_lt_zero _)
      | succ fuel =>
          obtain ⟨hfbase, hnumber⟩ := length_ofWindows hfuel
          exact readsBack_windows (ih hwbase hlbase hfbase) hbase
            (hwbase _ .root) hwindows hnumber
  | @number x hx =>
      cases fuel with
      | zero => exact absurd hfuel (Nat.not_lt_zero _)
      | succ fuel =>
          intro s hs
          exact ⟨s, primary_number (x.number?_text_append hx hs.delimited), rfl⟩
  | string text =>
      cases fuel with
      | zero => exact absurd hfuel (Nat.not_lt_zero _)
      | succ fuel =>
          intro s _
          exact ⟨s, primary_string text s, rfl⟩
  | @vector sel hs =>
      cases fuel with
      | zero => exact absurd hfuel (Nat.not_lt_zero _)
      | succ fuel =>
          intro s hrest
          exact primary_vector_append hs (hworded _ .root).1 (hlegible _ .root).1 hrest
  | @matrix sel range hs hrange =>
      cases fuel with
      | zero => exact absurd hfuel (Nat.not_lt_zero _)
      | succ fuel =>
          intro s hrest
          exact ⟨s, primary_matrix_append hs (hworded _ .root).1 (hlegible _ .root).1 hrange
            hrest, rfl⟩
  | @call function args hfunction hargs ih =>
      have hwargs : ∀ a ∈ args, a.Everywhere Expr.Worded := fun a ha => hworded.child ha
      cases fuel with
      | zero => exact absurd hfuel (Nat.not_lt_zero _)
      | succ fuel =>
          obtain ⟨hfargs, hnumber⟩ := length_call hargs hwargs hfuel
          exact readsBack_call hfunction
            (fun a ha => ih a ha (hwargs a ha) (hlegible.child ha) (hfargs a ha)) hargs hwargs
            hnumber (chain_close fuel fuel)
  | @aggregation op grouping param body hg hop hparam hbody ihparam ihbody =>
      have hwparam := fun p (hp : p ∈ param) =>
        hworded.child (param_mem_children op grouping hp body)
      have hlparam := fun p (hp : p ∈ param) =>
        hlegible.child (param_mem_children op grouping hp body)
      have hbodyMem := body_mem_children op grouping param body
      cases fuel with
      | zero => exact absurd hfuel (Nat.not_lt_zero _)
      | succ fuel =>
          obtain ⟨hfparam, hfbody⟩ := length_aggregation hfuel
          exact readsBack_aggregation hg hop
            (fun p hp => ihparam p hp (hwparam p hp) (hlparam p hp) (hfparam p hp))
            (ihbody (hworded.child hbodyMem) (hlegible.child hbodyMem) hfbody) fun _ => rfl
  | @paren e he ih =>
      have hwe := hworded.child (c := e) List.mem_cons_self
      have hle := hlegible.child (c := e) List.mem_cons_self
      cases fuel with
      | zero => exact absurd hfuel (Nat.not_lt_zero _)
      | succ fuel => exact readsBack_paren (ih hwe hle (length_paren hfuel))

/-! Whole queries -/

theorem skipBlanks_of_isInk {c : Char} (h : isInk c = true) (s : Text) :
    skipBlanks (c :: s) = c :: s := by
  rw [isInk, Bool.not_eq_true', Bool.or_eq_false_iff] at h
  rw [skipBlanks, List.dropWhile_cons, if_neg (by rw [h.1]; decide)]

theorem isEmptyBraces_of_ne {c : Char} (hink : isInk c = true) (hc : c ≠ '{') (s : Text) :
    isEmptyBraces (c :: s) = false := by
  unfold isEmptyBraces
  rw [skipBlanks_of_isInk hink]
  split
  · next heq => exact absurd (List.cons.inj heq).1 hc
  · rfl

theorem isEmptyBraces_of_isLabelStart {b : Char} (hb : isLabelStart b = true) (s : Text) :
    isEmptyBraces ('{' :: b :: s) = false := by
  have hink := isInk_of_isMetricStart (isMetricStart_of_isLabelStart hb)
  have hne := ne_of_isMetricStart (isMetricStart_of_isLabelStart hb) (d := '}') (by decide)
  have hopen : skipBlanks ('{' :: b :: s) = '{' :: b :: s := rfl
  unfold isEmptyBraces
  simp only [hopen, skipBlanks_of_isInk hink]
  split
  · next heq => exact absurd (List.cons.inj heq).1 hne
  · rfl

/-- No printed tree is a pair of braces with nothing between them. -/
theorem isEmptyBraces_print {p : Place} {e : Expr} (he : e.At p)
    (hworded : e.Everywhere Expr.Worded) : isEmptyBraces e.print = false := by
  obtain ⟨t, ht, -⟩ := e.print_eq_leading
  rw [ht]
  rcases he.leading with ⟨sign, d, hd⟩ | hd
  · rw [hd]
    cases sign <;> exact isEmptyBraces_of_ne (by decide) (by decide) _
  · obtain ⟨c, w, hw, hc⟩ := primary_print_cons hd (hworded _ e.leading_occurs)
    rw [hw]
    by_cases hbrace : c = '{'
    · obtain ⟨b, v, rfl, hb⟩ := hc.brace hbrace
      rw [hbrace]
      exact isEmptyBraces_of_isLabelStart hb _
    · have hstart : isOperandStart c = true := by rw [isOperandStart, hc.start, Bool.true_or]
      exact isEmptyBraces_of_ne (isInk_of_isOperandStart hstart) hbrace _

theorem read_of_not_isEmptyBraces {s : Text} (h : isEmptyBraces s = false) :
    read s = (expr s).bind fun r =>
      if skip r.2 = [] then .ok r.1 else .error ⟨skip r.2, .ending⟩ := by
  rw [read, if_neg (by rw [h]; decide)]
  cases expr s with
  | error f => rfl
  | ok r =>
      obtain ⟨e, rest⟩ := r
      simp only [bind, Except.bind]
      split
      · next heq => rw [if_pos heq]; rfl
      · next hne => rw [if_neg hne]

/-- A printed tree is read back with its leaves reread, where its names and modifiers let it. -/
theorem read_print {e : Expr} (he : e.At .chain) (hworded : e.Everywhere Expr.Worded)
    (hlegible : e.Everywhere Expr.Legible) : read e.print = .ok (e.replace rereading) := by
  obtain ⟨r, hr, hskip⟩ := he.readsBack hworded hlegible (Nat.lt_succ_self _) [] .nil
  rw [List.append_nil] at hr
  have hexpr : expr e.print = .ok (e.replace rereading, r) := hr
  have hend : skip r = [] := hskip
  rw [read_of_not_isEmptyBraces (isEmptyBraces_print he hworded), hexpr]
  simp only [Except.bind, hend, if_true]

end TenantScope.Query
