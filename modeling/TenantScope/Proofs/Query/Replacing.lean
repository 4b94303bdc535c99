/- What the replacement of leaves keeps: the places of a tree, its clashes and its names. -/
import TenantScope.Proofs.Query.RoundTrip

namespace TenantScope.Query

/-- Leaves replaced by such as the reader makes too, with the names of selectors and the words of
numbers kept. -/
structure Leaves.Conservative (φ : Leaves) : Prop where
  isNegative : ∀ x, x.isNegative = false → (φ.number x).isNegative = false
  isFinite : ∀ x, (φ.number x).isFinite = x.isFinite
  name : ∀ s, (φ.selector s).name = s.name
  wellFormed : ∀ s, s.WellFormed → (φ.selector s).WellFormed
  inRange : ∀ m, m.InRange → (φ.modifiers m).InRange

theorem Expr.occurs_replace {φ : Leaves} {d e : Expr} :
    d.Occurs (e.replace φ) ↔ ∃ c : Expr, c.Occurs e ∧ d = c.replace φ := by
  constructor
  · intro h
    generalize hroot : e.replace φ = root at h
    induction h generalizing e with
    | root => exact ⟨e, .root, hroot.symm⟩
    | inside hmem _ ih =>
        rw [← hroot, Expr.children_replace] at hmem
        obtain ⟨c, hc, rfl⟩ := List.mem_map.mp hmem
        obtain ⟨b, hb, heq⟩ := ih rfl
        exact ⟨b, .inside hc hb, heq⟩
  · rintro ⟨c, hc, rfl⟩
    induction hc with
    | root => exact .root
    | inside hmem _ ih =>
        refine .inside ?_ ih
        rw [Expr.children_replace]
        exact List.mem_map_of_mem hmem

theorem Expr.everywhere_replace {φ : Leaves} {P Q : Expr → Prop}
    (h : ∀ d : Expr, P (d.replace φ) ↔ Q d) (e : Expr) :
    (e.replace φ).Everywhere P ↔ e.Everywhere Q := by
  constructor
  · exact fun hP d hd => (h d).mp (hP _ (Expr.occurs_replace.mpr ⟨d, hd, rfl⟩))
  · intro hQ d hd
    obtain ⟨c, hc, rfl⟩ := Expr.occurs_replace.mp hd
    exact (h c).mpr (hQ c hc)

theorem Expr.leading_replace (φ : Leaves) (e : Expr) :
    (e.replace φ).leading = e.leading.replace φ := by
  induction e using Expr.induction_on_children with
  | node e ih =>
    cases e with
    | binary op m left right => exact ih left List.mem_cons_self
    | subquery body range step m => exact ih body List.mem_cons_self
    | aggregation op grouping param body => cases param <;> rfl
    | _ => rfl

namespace Leaves.Conservative

variable {φ : Leaves} (h : φ.Conservative)
include h

theorem isWord_replace (e : Expr) : (e.replace φ).isWord = e.isWord := by
  cases e with
  | number x => exact congrArg (!·) (h.isFinite x)
  | aggregation op grouping param body => cases param <;> rfl
  | _ => rfl

theorem frontName?_replace (e : Expr) : (e.replace φ).frontName? = e.frontName? := by
  cases e with
  | vector s => exact h.name s
  | matrix s range => exact h.name s
  | aggregation op grouping param body => cases param <;> rfl
  | _ => rfl

theorem isMatchingCall_replace (e : Expr) : (e.replace φ).isMatchingCall = e.isMatchingCall := by
  cases e with
  | call function args =>
      have hargs : (args.map (Expr.replace φ)).all Expr.isWord = args.all Expr.isWord := by
        rw [List.all_map]
        exact congrArg args.all (funext h.isWord_replace)
      rw [Expr.replace_call, Expr.isMatchingCall, hargs, Expr.isMatchingCall]
  | aggregation op grouping param body => cases param <;> rfl
  | _ => rfl

theorem isWordInParens_replace (e : Expr) : (e.replace φ).isWordInParens = e.isWordInParens := by
  cases e with
  | paren e => exact h.isWord_replace e
  | aggregation op grouping param body => cases param <;> rfl
  | _ => rfl

theorem clashes_replace (m : Option BinaryModifier) (e : Expr) :
    clashes m (e.replace φ) = clashes m e := by
  unfold clashes
  simp only [h.frontName?_replace, h.isMatchingCall_replace, h.isWordInParens_replace]

theorem clear_replace (e : Expr) : (e.replace φ).Clear ↔ e.Clear := by
  cases e with
  | binary op m left right =>
      rw [Expr.replace, Expr.Clear, Expr.leading_replace, h.clashes_replace]
      rfl
  | aggregation op grouping param body => cases param <;> rfl
  | _ => rfl

theorem bare_replace (e : Expr) : (e.replace φ).Bare ↔ e.Bare := by
  cases e with
  | vector s => rw [Expr.replace, Expr.Bare, h.name]; rfl
  | matrix s range => rw [Expr.replace, Expr.Bare, h.name]; rfl
  | aggregation op grouping param body => cases param <;> rfl
  | _ => rfl

/-- A tree stays at its place. -/
theorem at_replace {p : Place} {e : Expr} (he : e.At p) : (e.replace φ).At p := by
  induction he with
  | @chain first links hfirst hmodifiers hlinks ihfirst ihlinks =>
      rw [Expr.replace_ofChain]
      refine .chain ihfirst ?_ ?_
      · rintro link hmem
        obtain ⟨l, hl, rfl⟩ := List.mem_map.mp hmem
        exact hmodifiers l hl
      · rintro link hmem
        obtain ⟨l, hl, rfl⟩ := List.mem_map.mp hmem
        exact ihlinks l hl
  | unary sign _ ih => exact .unary sign ih
  | @windows base windows hbase hwindows ih =>
      rw [Expr.replace_ofWindows]
      refine .windows ih fun w hw => ?_
      obtain ⟨v, hv, rfl⟩ := List.mem_map.mp hw
      obtain ⟨hrange, hstep, hmodifiers⟩ := hwindows v hv
      exact ⟨hrange, hstep, h.inRange _ hmodifiers⟩
  | number hx => exact .number (h.isNegative _ hx)
  | string s => exact .string s
  | vector hs => exact .vector (h.wellFormed _ hs)
  | matrix hs hrange => exact .matrix (h.wellFormed _ hs) hrange
  | @call function args hfunction hargs ih =>
      rw [Expr.replace_call]
      refine .call hfunction fun a ha => ?_
      obtain ⟨b, hb, rfl⟩ := List.mem_map.mp ha
      exact ih b hb
  | @aggregation op grouping param body hg hop hparam hbody ihparam ihbody =>
      rw [Expr.replace_aggregation]
      refine .aggregation hg (by rw [Option.isSome_map, hop]) (fun p hp => ?_) ihbody
      obtain ⟨q, hq, rfl⟩ := Option.map_eq_some_iff.mp hp
      exact ihparam q hq
  | paren _ ih => exact .paren ih

end Leaves.Conservative

/-! Literals that are read as they are -/

/-- Modifiers whose timestamp is read from its text as it is. -/
def Modifiers.Exact (m : Modifiers) : Prop :=
  ∀ i ∈ m.instant, instant? (" @ ".toList ++ i.text) = some (i, [])

/-- A node whose number or timestamp is read from its text as it is. -/
def Expr.Exact : Expr → Prop
  | .number x => number? x.text = some (x, [])
  | .vector s | .matrix s _ => s.modifiers.Exact
  | .subquery _ _ _ m => m.Exact
  | _ => True

theorem Modifiers.Exact.reread_eq_self {m : Modifiers} (h : m.Exact) (hm : m.InRange) :
    m.reread = m := by
  obtain ⟨instant, offset⟩ := m
  cases instant with
  | none => rfl
  | some i =>
      have hread := instant?_append (hm.instant i rfl) .nil
      rw [List.append_nil, h i rfl] at hread
      have hi : i = i.reread := (Prod.mk.inj (Option.some.inj hread)).1
      rw [Modifiers.reread, Option.map_some, ← hi]

theorem Selector.reread_eq_self {s : Selector} (h : s.modifiers.Exact) (hs : s.WellFormed) :
    s.reread = s := by
  rw [Selector.reread, h.reread_eq_self hs.inRange]

/-- A tree with exact literals is its own rereading. -/
theorem Expr.At.replace_rereading {p : Place} {e : Expr} (h : e.At p)
    (hexact : e.Everywhere Expr.Exact) : e.replace rereading = e := by
  induction h with
  | @chain first links hfirst hmodifiers hlinks ihfirst ihlinks =>
      obtain ⟨hexactFirst, hexactLinks⟩ := (Expr.everywhere_ofChain (P := Expr.Exact)
        (Q := fun _ _ => True) first links fun _ _ _ _ => Iff.rfl).mp hexact
      have hmap : links.map (Link.replace rereading) = links := by
        refine (List.map_congr_left fun link hl => ?_).trans (List.map_id links)
        rw [Link.replace, ihlinks link hl (hexactLinks link hl).2]
        rfl
      rw [Expr.replace_ofChain, ihfirst hexactFirst, hmap]
  | unary sign _ ih => exact congrArg (Expr.unary sign) (ih (hexact.child List.mem_cons_self))
  | @windows base windows hbase hwindows ih =>
      obtain ⟨hexactBase, hexactWindows⟩ := (Expr.everywhere_ofWindows_iff (P := Expr.Exact)
        (Q := Modifiers.Exact) base windows fun _ _ _ _ => Iff.rfl).mp hexact
      have hmap : windows.map (Window.replace rereading) = windows := by
        refine (List.map_congr_left fun w hw => ?_).trans (List.map_id windows)
        have hm := (hexactWindows w hw).reread_eq_self (hwindows w hw).modifiers
        exact congrArg (Window.mk w.range w.step) hm
      rw [Expr.replace_ofWindows, ih hexactBase, hmap]
  | @number x hx =>
      have hx : number? x.text = some (x, []) := hexact _ .root
      have hself : x.reread = x := by
        rw [Binary64.reread, hx]
        rfl
      exact congrArg Expr.number hself
  | string s => rfl
  | vector hs => exact congrArg Expr.vector (Selector.reread_eq_self (hexact _ .root) hs)
  | @matrix s range hs hrange =>
      exact congrArg (Expr.matrix · range) (Selector.reread_eq_self (hexact _ .root) hs)
  | @call function args hfunction hargs ih =>
      have hmap : args.map (Expr.replace rereading) = args :=
        (List.map_congr_left fun a ha => ih a ha (hexact.child ha)).trans (List.map_id args)
      rw [Expr.replace_call, hmap]
  | @aggregation op grouping param body hg hop hparam hbody ihparam ihbody =>
      have hbodySelf := ihbody (hexact.child (body_mem_children op grouping param body))
      have hparamSelf : param.map (Expr.replace rereading) = param := by
        cases param with
        | none => rfl
        | some p => exact congrArg some (ihparam p rfl (hexact.child List.mem_cons_self))
      rw [Expr.replace_aggregation, hparamSelf, hbodySelf]
  | paren _ ih => exact congrArg Expr.paren (ih (hexact.child List.mem_cons_self))

/-! Trees on which all this is decided -/

theorem Expr.everywhere_iff_preorder {P : Expr → Prop} {e : Expr} :
    e.Everywhere P ↔ ∀ d ∈ e.preorder, P d :=
  forall_congr' fun _ => imp_congr_left Expr.mem_preorder_iff.symm

instance decidableEverywhere {P : Expr → Prop} [DecidablePred P] (e : Expr) :
    Decidable (e.Everywhere P) := decidable_of_iff _ Expr.everywhere_iff_preorder.symm

instance decidableBare : DecidablePred Expr.Bare
  | .vector s | .matrix s _ => inferInstanceAs (Decidable (∀ n ∈ s.name, isBareName n = true))
  | .number _ | .string _ | .call _ _ | .aggregation .. | .binary .. | .unary .. | .paren _
  | .subquery .. => .isTrue trivial

instance decidableClear : DecidablePred Expr.Clear
  | .binary _ m _ right => inferInstanceAs (Decidable (clashes m right.leading = false))
  | .number _ | .string _ | .vector _ | .matrix _ _ | .call _ _ | .aggregation .. | .unary ..
  | .paren _ | .subquery .. => .isTrue trivial

instance decidableExactModifiers : DecidablePred Modifiers.Exact := fun m =>
  inferInstanceAs (Decidable (∀ i ∈ m.instant, instant? (" @ ".toList ++ i.text) = some (i, [])))

instance decidableExact : DecidablePred Expr.Exact
  | .number x => inferInstanceAs (Decidable (number? x.text = some (x, [])))
  | .vector s | .matrix s _ => inferInstanceAs (Decidable s.modifiers.Exact)
  | .subquery _ _ _ m => inferInstanceAs (Decidable m.Exact)
  | .string _ | .call _ _ | .aggregation .. | .binary .. | .unary .. | .paren _ => .isTrue trivial

end TenantScope.Query
