/- No tree but a legible one is read from its text. -/
import TenantScope.Proofs.Query.RoundTrip
import TenantScope.Proofs.Query.Stuck

namespace TenantScope.Query

/-! Faithful readings -/

/-- What is read for a tree is the tree with its leaves reread, or at least the tree is clear and
what is left is not stuck. -/
def Faithful (e x : Expr) (r : Text) : Prop :=
  x = e.replace rereading ∨ e.Everywhere Expr.Clear ∧ ¬Stuck r

/-- A reader that reads a printed tree faithfully only when the tree is legible. -/
def ReadsOnlyLegible (reader : Reader Expr) (p : Place) (e : Expr) : Prop :=
  ∀ s, Follows p s → ∀ x r, reader (e.print ++ s) = .ok (x, r) → Faithful e x r →
    e.Everywhere Expr.Legible

theorem Expr.At.notBinary {e : Expr} (h : e.At .operand) : e.NotBinary := by
  cases h with
  | unary sign he => exact fun _ _ _ _ heq => nomatch heq
  | @windows base windows hbase hwindows =>
      refine Expr.ofWindows_notBinary ?_ windows
      cases hbase <;> exact fun _ _ _ _ heq => nomatch heq

theorem Expr.At.notSubquery {e : Expr} (h : e.At .primary) : e.NotSubquery := by
  cases h <;> exact fun _ _ _ _ heq => nomatch heq

theorem Expr.NotBinary.replace {e : Expr} (h : e.NotBinary) (φ : Leaves) :
    (e.replace φ).NotBinary := by
  cases e with
  | binary op m left right => exact absurd rfl (h op m left right)
  | aggregation op grouping param body => cases param <;> exact fun _ _ _ _ heq => nomatch heq
  | _ => exact fun _ _ _ _ heq => nomatch heq

theorem Expr.NotSubquery.replace {e : Expr} (h : e.NotSubquery) (φ : Leaves) :
    (e.replace φ).NotSubquery := by
  cases e with
  | subquery body range step m => exact absurd rfl (h body range step m)
  | aggregation op grouping param body => cases param <;> exact fun _ _ _ _ heq => nomatch heq
  | _ => exact fun _ _ _ _ heq => nomatch heq

/-! Chains -/

section

variable {operand : Reader Expr} {links : List Link}
  (hback : ∀ link ∈ links, link.operand.Everywhere Expr.Legible →
    ReadsBack operand .operand link.operand)
  (honly : ∀ link ∈ links, ReadsOnlyLegible operand .operand link.operand)
  (hat : ∀ link ∈ links, link.operand.At .operand)
  (hworded : ∀ link ∈ links, link.operand.Everywhere Expr.Worded)
  (hmodifiers : ∀ link ∈ links, ∀ m ∈ link.modifier, m.WellFormed)
include hback honly hat hworded hmodifiers

/-- Where the links of a printed chain are read faithfully, no modifier clashes with its operand and
the operands are legible. -/
theorem chainLinks_legible {fuel : Nat} (hfuel : links.length ≤ fuel) {s t r : Text}
    {links' : List Link} (hs : Follows .chain s)
    (ht : skip t = skip (links.flatMap Link.text ++ s))
    (h : chainLinks operand fuel t = .ok (links', r))
    (hfaithful : links' = links.map (Link.replace rereading) ∨
      (∀ link ∈ links, clashes link.modifier link.operand.leading = false ∧
        link.operand.Everywhere Expr.Clear) ∧ ¬Stuck r) :
    ∀ link ∈ links, clashes link.modifier link.operand.leading = false ∧
      link.operand.Everywhere Expr.Legible := by
  induction links generalizing fuel t links' with
  | nil => exact List.forall_mem_nil _
  | cons link links ih =>
      cases fuel with
      | zero => exact absurd hfuel (by simp)
      | succ fuel =>
          have hmem : link ∈ link :: links := List.mem_cons_self
          obtain ⟨u, hu⟩ := modifierText_append_cons link.modifier
            (link.operand.print ++ (links.flatMap Link.text ++ s))
          obtain ⟨hskip, hop⟩ := binaryOp?_append link.op u
          rw [List.flatMap_cons, List.append_assoc, Link.text_append, hu, hskip] at ht
          rw [chainLinks, ht, hop, ← hu] at h
          dsimp only at h
          generalize hread : binaryModifier (modifierText link.modifier ++
            ' ' :: (link.operand.print ++ (links.flatMap Link.text ++ s))) = p at h
          obtain ⟨m, r₀⟩ := p
          obtain ⟨⟨e, r₁⟩, he, h⟩ := bind_eq_ok h
          obtain ⟨⟨links'', r₂⟩, hlinks, heq⟩ := bind_eq_ok h
          cases heq
          have hclash : clashes link.modifier link.operand.leading = false := by
            rcases hfaithful with heq | ⟨hclear, -⟩
            · have hm : m = link.modifier := congrArg Link.modifier (List.cons.inj heq).1
              exact clashes_eq_false_of_binaryModifier (hat link hmem) (hworded link hmem)
                (hmodifiers link hmem) ((congrArg Prod.fst hread).trans hm)
            · exact (hclear link hmem).1
          obtain ⟨r, hr, hfront⟩ := binaryModifier_print (hat link hmem) (hworded link hmem)
            (hmodifiers link hmem) hclash (links.flatMap Link.text ++ s)
          rw [hread] at hr
          cases hr
          rw [hfront] at he
          have hlegible : link.operand.Everywhere Expr.Legible := by
            refine honly link hmem _ (follows_links hs links) e r₁ he ?_
            rcases hfaithful with heq | ⟨hclear, hfree⟩
            · exact .inl (congrArg Link.operand (List.cons.inj heq).1)
            · refine .inr ⟨(hclear link hmem).2, fun hstuck => ?_⟩
              rw [hstuck.chainLinks] at hlinks
              cases hlinks
              exact hfree hstuck
          obtain ⟨r₁', he', hrest⟩ := hback link hmem hlegible _ (follows_links hs links)
          rw [he'] at he
          cases he
          refine List.forall_mem_cons.mpr ⟨⟨hclash, hlegible⟩, ?_⟩
          refine ih (fun l hl => hback l (List.mem_cons_of_mem link hl))
            (fun l hl => honly l (List.mem_cons_of_mem link hl))
            (fun l hl => hat l (List.mem_cons_of_mem link hl))
            (fun l hl => hworded l (List.mem_cons_of_mem link hl))
            (fun l hl => hmodifiers l (List.mem_cons_of_mem link hl))
            (Nat.le_of_succ_le_succ hfuel) hrest hlinks ?_
          exact hfaithful.imp (fun heq => (List.cons.inj heq).2)
            (And.imp_left fun hclear l hl => hclear l (List.mem_cons_of_mem link hl))

theorem readsOnlyLegible_chain {first : Expr}
    (hbackFirst : first.Everywhere Expr.Legible → ReadsBack operand .operand first)
    (honlyFirst : ReadsOnlyLegible operand .operand first) (hfirst : first.At .operand)
    (hfirstWorded : first.Everywhere Expr.Worded)
    (hoperand : ∀ s e r, operand s = .ok (e, r) → e.At .operand) {fuel : Nat}
    (hfuel : links.length ≤ fuel) :
    ReadsOnlyLegible (chain fuel operand) .chain (.ofChain first links) := by
  intro s hs x r h hfaithful
  rw [Expr.print_ofChain, List.append_assoc, chain, skip_print hfirst hfirstWorded] at h
  obtain ⟨⟨e, r₁⟩, he, h⟩ := bind_eq_ok h
  obtain ⟨⟨links', r₂⟩, hlinks, heq⟩ := bind_eq_ok h
  cases heq
  have hlinksAt := chainLinks_at hoperand hlinks
  -- the first operand and the links can be told from the tree
  have hparts : Expr.ofChain e links' = (Expr.ofChain first links).replace rereading →
      e = first.replace rereading ∧ links' = links.map (Link.replace rereading) := by
    intro heq
    rw [Expr.replace_ofChain] at heq
    have hspine := congrArg Expr.spine heq
    rw [Expr.spine_ofChain (hoperand _ _ _ he).notBinary fun l hl => (hlinksAt.2 l hl).notBinary,
      Expr.spine_ofChain (hfirst.notBinary.replace rereading) ?_] at hspine
    · exact Prod.mk.inj hspine
    · intro l hl
      obtain ⟨l', hl', rfl⟩ := List.mem_map.mp hl
      exact (hat l' hl').notBinary.replace rereading
  have hclear : (Expr.ofChain first links).Everywhere Expr.Clear ↔ first.Everywhere Expr.Clear ∧
      ∀ link ∈ links, clashes link.modifier link.operand.leading = false ∧
        link.operand.Everywhere Expr.Clear :=
    Expr.everywhere_ofChain (Q := fun m d => clashes m d = false) first links
      fun _ _ _ _ => Iff.rfl
  have hlegibleFirst : first.Everywhere Expr.Legible := by
    refine honlyFirst _ (follows_links hs links) e r₁ he ?_
    refine hfaithful.imp (fun heq => (hparts heq).1) (And.imp (fun hall => (hclear.mp hall).1) ?_)
    intro hfree hstuck
    rw [hstuck.chainLinks] at hlinks
    cases hlinks
    exact hfree hstuck
  obtain ⟨r₁', he', hrest⟩ := hbackFirst hlegibleFirst _ (follows_links hs links)
  rw [he'] at he
  cases he
  refine (everywhere_legible_ofChain first links).mpr ⟨hlegibleFirst, ?_⟩
  refine chainLinks_legible hback honly hat hworded hmodifiers hfuel hs hrest hlinks ?_
  exact hfaithful.imp (fun heq => (hparts heq).2) (And.imp_left fun hall => (hclear.mp hall).2)

end

/-! Signs and subquery ranges -/

theorem readsOnlyLegible_unary {operand : Reader Expr} {e : Expr}
    (he : ReadsOnlyLegible operand .operand e) (hat : e.At .operand)
    (hworded : e.Everywhere Expr.Worded) (sign : Sign) (fuel : Nat) :
    ReadsOnlyLegible (operandStep fuel operand) .operand (.unary sign e) := by
  intro s hs x r h hfaithful
  have hsigned : signed operand sign (sign.char :: (e.print ++ s)) (e.print ++ s) = .ok (x, r) := by
    cases sign <;> exact h
  rw [signed, skip_print hat hworded] at hsigned
  cases hread : operand (e.print ++ s) with
  | error f => rw [hread] at hsigned; cases hsigned
  | ok p =>
      obtain ⟨d, r'⟩ := p
      rw [hread] at hsigned
      cases hsigned
      have hlegible : e.Everywhere Expr.Legible := by
        refine he s hs d r hread (hfaithful.imp ?_ ?_)
        · exact fun heq => (Expr.unary.inj heq).2
        · exact And.imp_left fun hclear => hclear.child List.mem_cons_self
      refine Expr.everywhere_iff.mpr ⟨⟨trivial, trivial⟩, fun c hc => ?_⟩
      cases List.mem_singleton.mp hc
      exact hlegible

theorem readsOnlyLegible_windows {fuel : Nat} {operand : Reader Expr} {base : Expr}
    {windows : List Window} (hoperand : ∀ s e r, operand s = .ok (e, r) → e.At .operand)
    (hbase : ReadsOnlyLegible (primary fuel (chain fuel operand)) .primary base)
    (hat : base.At .primary) (hworded : base.Worded) (hwindows : ∀ w ∈ windows, w.InRange) :
    ReadsOnlyLegible (operandStep fuel operand) .operand (.ofWindows base windows) := by
  intro s hs x r h hfaithful
  have hstart : operandStep fuel operand (base.print ++ (windows.flatMap Window.text ++ s)) =
      (primary fuel (chain fuel operand) (base.print ++ (windows.flatMap Window.text ++ s)) >>=
        fun p => subqueries fuel p.1 p.2) := by
    obtain ⟨c, u, hu, hc⟩ := primary_print_cons hat hworded
    rw [hu, List.cons_append]
    exact operandStep_of_ne (by rintro rfl; cases hc.start) (by rintro rfl; cases hc.start) _
  rw [Expr.print_ofWindows, List.append_assoc, hstart] at h
  obtain ⟨⟨d, r₁⟩, hd, h⟩ := bind_eq_ok h
  have hdAt := primary_at (fun _ _ _ h => chain_at hoperand h) hd
  obtain ⟨windows', rfl, -⟩ := subqueries_eq_ofWindows h
  have hlegible : base.Everywhere Expr.Legible := by
    refine hbase _ (follows_windows hwindows hs) d r₁ hd (hfaithful.imp ?_ ?_)
    · intro heq
      rw [Expr.replace_ofWindows] at heq
      have hparts := congrArg Expr.unwindow heq
      rw [Expr.unwindow_ofWindows hdAt.notSubquery,
        Expr.unwindow_ofWindows (hat.notSubquery.replace rereading)] at hparts
      exact (Prod.mk.inj hparts).1
    · rintro ⟨hclear, hfree⟩
      refine ⟨(Expr.everywhere_ofWindows base windows fun _ _ _ _ => trivial).mp hclear, ?_⟩
      intro hstuck
      rw [hstuck.subqueries] at h
      exact hfree ((Prod.mk.inj (Except.ok.inj h)).2 ▸ hstuck)
  exact (Expr.everywhere_ofWindows base windows fun _ _ _ _ => ⟨trivial, trivial⟩).mpr hlegible

/-! Operands without a sign -/

section

variable {fuel : Nat} {expr : Reader Expr}

theorem legible_of_nameAndMatchers {sel : Selector} (hmatchers : sel.matchers ≠ [])
    (hname : ∀ n ∈ sel.name, isTame n = true) {t r : Text} {e x : Expr}
    (hown : ∃ s', (e.replace rereading).ownSelector? = some s' ∧ s'.name = sel.name)
    (h : primary fuel expr (sel.nameAndMatchers ++ t) = .ok (x, r)) (hfaithful : Faithful e x r) :
    ∀ n ∈ sel.name, isBareName n = true := by
  intro n hn
  rw [Option.mem_def] at hn
  cases hbare : isBareName n with
  | true => rfl
  | false =>
      obtain ⟨u, hu⟩ := matchersText_cons hmatchers
      rw [Selector.nameAndMatchers, hn, Option.getD_some, hu, List.append_assoc,
        List.cons_append] at h
      obtain ⟨hother, hstuck⟩ := primary_of_not_isBareName (hname n hn) hbare h
      rcases hfaithful with rfl | ⟨-, hfree⟩
      · obtain ⟨s', hs', hsame⟩ := hown
        exact absurd (hsame.trans hn) (hother s' hs')
      · exact absurd hstuck hfree

theorem readsOnlyLegible_vector {sel : Selector} (hworded : (Expr.vector sel).Worded) :
    ReadsOnlyLegible (primary fuel expr) .primary (.vector sel) := by
  intro s _ x r h hfaithful
  rw [Expr.print, Selector.print, List.append_assoc] at h
  have hbare := legible_of_nameAndMatchers hworded.1 hworded.2
    ⟨sel.reread, rfl, rfl⟩ h hfaithful
  exact Expr.everywhere_iff.mpr ⟨⟨hbare, trivial⟩, List.forall_mem_nil _⟩

theorem readsOnlyLegible_matrix {sel : Selector} {range : Nat}
    (hworded : (Expr.matrix sel range).Worded) :
    ReadsOnlyLegible (primary fuel expr) .primary (.matrix sel range) := by
  intro s _ x r h hfaithful
  rw [Expr.print, List.append_assoc, List.append_assoc] at h
  have hbare := legible_of_nameAndMatchers hworded.1 hworded.2
    ⟨sel.reread, rfl, rfl⟩ h hfaithful
  exact Expr.everywhere_iff.mpr ⟨⟨hbare, trivial⟩, List.forall_mem_nil _⟩

theorem readsOnlyLegible_paren {e : Expr} (he : ReadsOnlyLegible expr .chain e) :
    ReadsOnlyLegible (primary fuel expr) .primary (.paren e) := by
  intro s _ x r h hfaithful
  have htext : (Expr.paren e).print ++ s = '(' :: (e.print ++ ')' :: s) := by
    simp only [Expr.print, List.cons_append, List.append_assoc, List.nil_append]
  rw [htext] at h
  obtain ⟨s', hopen, h⟩ := bind_eq_ok (mapError_eq_ok h)
  cases hopen
  obtain ⟨⟨d, r₁⟩, hd, h⟩ := bind_eq_ok h
  obtain ⟨r₂, hclose, heq⟩ := bind_eq_ok h
  cases heq
  have hlegible : e.Everywhere Expr.Legible := by
    refine he _ (.close s) d r₁ hd (hfaithful.imp ?_ ?_)
    · exact fun heq => Expr.paren.inj heq
    · exact And.imp (fun hclear => hclear.child List.mem_cons_self)
        fun _ hstuck => hstuck.expect_ne_ok (by decide) _ hclose
  refine Expr.everywhere_iff.mpr ⟨⟨trivial, trivial⟩, fun c hc => ?_⟩
  cases List.mem_singleton.mp hc
  exact hlegible

/-! Arguments -/

theorem dropComma_of_operand {c : Char} (hc : isOperandStart c = true) (s : Text) :
    dropComma (c :: s) = c :: s := by
  refine dropComma_of_head ?_
  rw [skip_of_isInk (isInk_of_isOperandStart hc)]
  exact fun h => (ne_of_isOperandStart hc).2 (Option.some.inj h)

theorem dropComma_separator {s t : Text} (h : skip s = skip (',' :: t)) : dropComma s = t := by
  rw [dropComma, h, skip_of_isInk (by decide)]
  rfl

/-- No list ends in front of an operand. -/
theorem expect_close_of_operand {c : Char} (hc : isOperandStart c = true) (s r : Text) :
    expect ')' (skip (c :: s)) ≠ .ok r := by
  rw [skip_of_isInk (isInk_of_isOperandStart hc), expect, if_neg (ne_of_isOperandStart hc).1]
  intro heq
  cases heq

theorem Stuck.expect_close {s : Text} (h : Stuck s) (r : Text) :
    expect ')' (skip (dropComma s)) ≠ .ok r := by
  rw [dropComma_of_head (h.head?_skip (by decide))]
  exact h.expect_ne_ok (by decide) r

theorem follows_behindArgument (s : Text) (args : List Expr) :
    Follows .chain (behindArgument s args) := by
  cases args with
  | nil => exact .close s
  | cons b args => exact .comma _

/-- Where the arguments of a printed call are read faithfully and the list is closed behind them,
they are legible. -/
theorem arguments_legible {args : List Expr}
    (hback : ∀ a ∈ args, a.Everywhere Expr.Legible → ReadsBack expr .chain a)
    (honly : ∀ a ∈ args, ReadsOnlyLegible expr .chain a) (hat : ∀ a ∈ args, a.At .chain)
    (hworded : ∀ a ∈ args, a.Everywhere Expr.Worded) {s r : Text} {args' : List Expr}
    (h : sepList skipComma? (fun s => (expr s).toOption) fuel
      (commaList (args.map Expr.print) ++ ')' :: s) = (args', r))
    (hfaithful : args' = args.map (Expr.replace rereading) ∨
      (∀ a ∈ args, a.Everywhere Expr.Clear) ∧ ∃ t, expect ')' (skip (dropComma r)) = .ok t) :
    ∀ a ∈ args, a.Everywhere Expr.Legible := by
  induction args generalizing fuel args' with
  | nil => exact List.forall_mem_nil _
  | cons a args ih =>
      have hmem : a ∈ a :: args := List.mem_cons_self
      rw [arguments_append, sepList] at h
      cases hread : expr (a.print ++ behindArgument s args) with
      | error f =>
          rw [hread] at h
          cases h
          rcases hfaithful with heq | ⟨-, t', ht'⟩
          · cases heq
          · obtain ⟨c, w, hw, hc⟩ := print_cons (hat a hmem) (hworded a hmem)
            rw [hw, List.cons_append, dropComma_of_operand hc] at ht'
            exact absurd ht' (expect_close_of_operand hc _ _)
      | ok p =>
          obtain ⟨d, r₁⟩ := p
          have hsome : (expr (a.print ++ behindArgument s args)).toOption = some (d, r₁) := by
            rw [hread]
            rfl
          simp only [hsome] at h
          generalize hitems : sepItems skipComma? (fun s => (expr s).toOption) fuel r₁ = q at h
          obtain ⟨args'', r₂⟩ := q
          cases h
          have hlegible : a.Everywhere Expr.Legible := by
            refine honly a hmem _ (follows_behindArgument s args) d r₁ hread (hfaithful.imp ?_ ?_)
            · exact fun heq => (List.cons.inj heq).1
            · rintro ⟨hclear, t', ht'⟩
              refine ⟨hclear a hmem, fun hstuck => ?_⟩
              rw [sepItems_of_skipComma?_eq_none hstuck.skipComma?_eq_none] at hitems
              cases hitems
              exact hstuck.expect_close _ ht'
          refine List.forall_mem_cons.mpr ⟨hlegible, ?_⟩
          obtain ⟨r₁', hr₁', hskip⟩ := hback a hmem hlegible _ (follows_behindArgument s args)
          rw [hread] at hr₁'
          cases hr₁'
          cases args with
          | nil => exact List.forall_mem_nil _
          | cons b args =>
              have hat' := fun e he => hat e (List.mem_cons_of_mem a he)
              have hworded' := fun e he => hworded e (List.mem_cons_of_mem a he)
              have hcomma := skipComma?_separator hskip (skip_arguments hat' hworded' s)
              rcases sepItems_eq_sepList hcomma fuel with heq | ⟨fuel', heq⟩
              · -- no argument is read behind the comma, and the list does not end there
                rw [heq] at hitems
                cases hitems
                rcases hfaithful with heq | ⟨-, t', ht'⟩
                · cases (List.cons.inj heq).2
                · obtain ⟨c, w, hw, hc⟩ := print_cons (hat' b List.mem_cons_self)
                    (hworded' b List.mem_cons_self)
                  rw [dropComma_separator hskip, skip_space, arguments_append, hw] at ht'
                  exact absurd ht' (expect_close_of_operand hc _ _)
              · rw [heq] at hitems
                refine ih (fun e he => hback e (List.mem_cons_of_mem a he))
                  (fun e he => honly e (List.mem_cons_of_mem a he)) hat' hworded' hitems ?_
                exact hfaithful.imp (fun heq => (List.cons.inj heq).2)
                  (And.imp_left fun hclear e he => hclear e (List.mem_cons_of_mem a he))

theorem readsOnlyLegible_call {function : Text} {args : List Expr}
    (hfunction : isBareName function = true)
    (hback : ∀ a ∈ args, a.Everywhere Expr.Legible → ReadsBack expr .chain a)
    (honly : ∀ a ∈ args, ReadsOnlyLegible expr .chain a) (hat : ∀ a ∈ args, a.At .chain)
    (hworded : ∀ a ∈ args, a.Everywhere Expr.Worded) :
    ReadsOnlyLegible (primary fuel expr) .primary (.call function args) := by
  intro s _ x r h hfaithful
  refine Expr.everywhere_iff.mpr ⟨⟨trivial, trivial⟩, ?_⟩
  have hskip : skip ('(' :: (commaList (args.map Expr.print) ++ ')' :: s)) =
      '(' :: (commaList (args.map Expr.print) ++ ')' :: s) := skip_of_isInk (by decide) _
  rw [call_print_append, primary_of_isBareName hfunction (by decide), hskip, List.head?_cons,
    if_pos rfl, callTail] at h
  obtain ⟨t, hopen, h⟩ := bind_eq_ok h
  cases hopen
  rw [skip_arguments hat hworded] at h
  generalize hread : sepList skipComma? (fun s => (expr s).toOption) fuel
    (commaList (args.map Expr.print) ++ ')' :: s) = p at h
  obtain ⟨args', r₁⟩ := p
  obtain ⟨r₂, hclose, heq⟩ := bind_eq_ok h
  cases heq
  refine arguments_legible hback honly hat hworded hread (hfaithful.imp ?_ ?_)
  · intro heq
    rw [Expr.replace_call] at heq
    exact (Expr.call.inj heq).2
  · exact And.imp (fun hclear e he => hclear.child he) fun _ => ⟨_, hclose⟩

/-- What is read behind the operator and the grouping of an aggregation: its parameter and its body,
with parentheses around them. -/
theorem parameter_body_legible {op : AggregateOp} {param : Option Expr} {body : Expr}
    (hop : param.isSome = op.hasParam)
    (hbackParam : ∀ p ∈ param, p.Everywhere Expr.Legible → ReadsBack expr .chain p)
    (honlyParam : ∀ p ∈ param, ReadsOnlyLegible expr .chain p)
    (honlyBody : ReadsOnlyLegible expr .chain body) (hblank : ∀ s, expr (' ' :: s) = expr s)
    {s r₁ r₂ r₃ : Text} {param' : Option Expr} {body' : Expr}
    (hparam : aggregationParam expr op (paramText param ++ (body.print ++ ')' :: s)) =
      .ok (param', r₁))
    (hbody : expr r₁ = .ok (body', r₂)) (hclose : expect ')' (skip r₂) = .ok r₃)
    (hfaithful : (param' = param.map (Expr.replace rereading) ∧ body' = body.replace rereading) ∨
      (∀ p ∈ param, p.Everywhere Expr.Clear) ∧ body.Everywhere Expr.Clear) :
    (∀ p ∈ param, p.Everywhere Expr.Legible) ∧ body.Everywhere Expr.Legible := by
  have hlegible : ∀ p ∈ param, p.Everywhere Expr.Legible := by
    rintro p ⟨⟩
    have hyes : op.hasParam = true := hop.symm
    have htext : paramText (some p) ++ (body.print ++ ')' :: s) =
        p.print ++ ',' :: ' ' :: (body.print ++ ')' :: s) := by
      simp only [paramText, List.append_assoc]
      rfl
    rw [aggregationParam, if_pos hyes, htext] at hparam
    obtain ⟨⟨p', r₄⟩, hp, hparam⟩ := bind_eq_ok hparam
    obtain ⟨r₅, hcomma, heq⟩ := bind_eq_ok hparam
    cases heq
    refine honlyParam p rfl _ (.comma _) p' r₄ hp (hfaithful.imp ?_ ?_)
    · exact fun heq => Option.some.inj heq.1
    · exact And.imp (fun hclear => hclear p rfl)
        fun _ hstuck => hstuck.expect_ne_ok (by decide) _ hcomma
  refine ⟨hlegible, ?_⟩
  obtain ⟨r, hr, hblanks⟩ := aggregationParam_print (fun p hp => hbackParam p hp (hlegible p hp))
    hop (body.print ++ ')' :: s)
  rw [hr] at hparam
  cases hparam
  have hread : expr (body.print ++ ')' :: s) = .ok (body', r₂) := by
    rcases hblanks with rfl | rfl
    · exact hbody
    · rw [← hblank, hbody]
  refine honlyBody _ (.close s) body' r₂ hread (hfaithful.imp And.right ?_)
  exact fun hclear => ⟨hclear.2, fun hstuck => hstuck.expect_ne_ok (by decide) _ hclose⟩

theorem readsOnlyLegible_aggregation {op : AggregateOp} {grouping : Option Grouping}
    {param : Option Expr} {body : Expr} (hg : ∀ g ∈ grouping, g.WellFormed)
    (hop : param.isSome = op.hasParam)
    (hbackParam : ∀ p ∈ param, p.Everywhere Expr.Legible → ReadsBack expr .chain p)
    (honlyParam : ∀ p ∈ param, ReadsOnlyLegible expr .chain p)
    (honlyBody : ReadsOnlyLegible expr .chain body) (hblank : ∀ s, expr (' ' :: s) = expr s) :
    ReadsOnlyLegible (primary fuel expr) .primary (.aggregation op grouping param body) := by
  intro s hs x r h hfaithful
  obtain ⟨c, u, hu, hc⟩ := groupingText_append_cons grouping
    (paramText param ++ (body.print ++ ')' :: s))
  rw [aggregation_print_append, hu, primary_aggregation op hc, ← hu] at h
  obtain ⟨r₀, param', r₁, body', r₂, r₃, hopen, hparam, hbody, hclose, rfl, -⟩ :=
    aggregationTail_eq_ok h
  rw [groupingBefore_groupingText hg] at hopen
  cases hopen
  have hfaithfulParts :
      (param' = param.map (Expr.replace rereading) ∧ body' = body.replace rereading) ∨
        (∀ p ∈ param, p.Everywhere Expr.Clear) ∧ body.Everywhere Expr.Clear := by
    refine hfaithful.imp (fun heq => ?_) fun hclear =>
      ⟨fun p hp => hclear.1.child (param_mem_children op grouping hp body),
        hclear.1.child (body_mem_children op grouping param body)⟩
    rw [Expr.replace_aggregation] at heq
    obtain ⟨-, -, hparam, hbody⟩ := Expr.aggregation.inj heq
    exact ⟨hparam, hbody⟩
  obtain ⟨hparamLegible, hbodyLegible⟩ := parameter_body_legible hop hbackParam honlyParam
    honlyBody hblank hparam hbody hclose hfaithfulParts
  refine Expr.everywhere_iff.mpr ⟨⟨trivial, trivial⟩, fun c hc => ?_⟩
  rcases List.mem_append.mp hc with hc | hc
  · exact hparamLegible c (Option.mem_toList.mp hc)
  · cases List.mem_singleton.mp hc
    exact hbodyLegible

end

/-! Only legible trees are read faithfully -/

/-- At every place, a printed tree is read faithfully only if it is legible. -/
theorem Expr.At.readsOnlyLegible {p : Place} {e : Expr} (h : e.At p)
    (hworded : e.Everywhere Expr.Worded) {fuel : Nat} (hfuel : e.print.length < fuel) :
    ReadsOnlyLegible (readAt p fuel) p e := by
  induction h generalizing fuel with
  | @chain first links hfirst hmodifiers hlinks ihfirst ihlinks =>
      obtain ⟨hwfirst, hwlinks⟩ := (everywhere_worded_ofChain first links).mp hworded
      obtain ⟨hffirst, hflinks, hnumber⟩ := length_ofChain hfuel
      exact readsOnlyLegible_chain
        (fun l hl hlegible => (hlinks l hl).readsBack (hwlinks l hl) hlegible (hflinks l hl))
        (fun l hl => ihlinks l hl (hwlinks l hl) (hflinks l hl)) hlinks hwlinks hmodifiers
        (fun hlegible => hfirst.readsBack hwfirst hlegible hffirst) (ihfirst hwfirst hffirst)
        hfirst hwfirst (operand_at fuel) hnumber
  | @unary e sign he ih =>
      have hwe := hworded.child (c := e) List.mem_cons_self
      cases fuel with
      | zero => exact absurd hfuel (Nat.not_lt_zero _)
      | succ fuel =>
          exact readsOnlyLegible_unary (ih hwe (Nat.lt_of_succ_lt_succ hfuel)) he hwe sign fuel
  | @windows base windows hbase hwindows ih =>
      have hwbase := (Expr.everywhere_ofWindows base windows fun _ _ _ _ => trivial).mp hworded
      cases fuel with
      | zero => exact absurd hfuel (Nat.not_lt_zero _)
      | succ fuel =>
          exact readsOnlyLegible_windows (operand_at fuel)
            (ih hwbase (length_ofWindows hfuel).1) hbase (hwbase _ .root)
            hwindows
  | number hx => exact fun _ _ _ _ _ _ => Expr.everywhere_leaf ⟨trivial, trivial⟩ rfl
  | string text => exact fun _ _ _ _ _ _ => Expr.everywhere_leaf ⟨trivial, trivial⟩ rfl
  | @vector sel hs =>
      cases fuel with
      | zero => exact absurd hfuel (Nat.not_lt_zero _)
      | succ fuel => exact readsOnlyLegible_vector (hworded _ .root)
  | @matrix sel range hs hrange =>
      cases fuel with
      | zero => exact absurd hfuel (Nat.not_lt_zero _)
      | succ fuel => exact readsOnlyLegible_matrix (hworded _ .root)
  | @call function args hfunction hargs ih =>
      have hwargs : ∀ a ∈ args, a.Everywhere Expr.Worded := fun a ha => hworded.child ha
      cases fuel with
      | zero => exact absurd hfuel (Nat.not_lt_zero _)
      | succ fuel =>
          obtain ⟨hfargs, -⟩ := length_call hargs hwargs hfuel
          exact readsOnlyLegible_call hfunction
            (fun a ha hlegible => (hargs a ha).readsBack (hwargs a ha) hlegible (hfargs a ha))
            (fun a ha => ih a ha (hwargs a ha) (hfargs a ha)) hargs hwargs
  | @aggregation op grouping param body hg hop hparam hbody ihparam ihbody =>
      have hwparam := fun p (hp : p ∈ param) =>
        hworded.child (param_mem_children op grouping hp body)
      have hwbody := hworded.child (body_mem_children op grouping param body)
      cases fuel with
      | zero => exact absurd hfuel (Nat.not_lt_zero _)
      | succ fuel =>
          obtain ⟨hfparam, hfbody⟩ := length_aggregation hfuel
          exact readsOnlyLegible_aggregation hg hop
            (fun p hp hlegible => (hparam p hp).readsBack (hwparam p hp) hlegible (hfparam p hp))
            (fun p hp => ihparam p hp (hwparam p hp) (hfparam p hp)) (ihbody hwbody hfbody)
            fun _ => rfl
  | @paren e he ih =>
      have hwe := hworded.child (c := e) List.mem_cons_self
      cases fuel with
      | zero => exact absurd hfuel (Nat.not_lt_zero _)
      | succ fuel => exact readsOnlyLegible_paren (ih hwe (length_paren hfuel))

/-! Whole queries -/

section

variable {e x : Expr} (he : e.At .chain) (hworded : e.Everywhere Expr.Worded)
include he hworded

theorem legible_of_read_print (h : read e.print = .ok x)
    (hfaithful : x = e.replace rereading ∨ e.Everywhere Expr.Clear) :
    e.Everywhere Expr.Legible := by
  rw [read_of_not_isEmptyBraces (isEmptyBraces_print he hworded)] at h
  obtain ⟨⟨d, r⟩, hd, h⟩ := bind_eq_ok h
  dsimp only at h
  split at h
  · next hend =>
    cases h
    refine he.readsOnlyLegible hworded (Nat.lt_succ_self _) [] .nil x r ?_ (hfaithful.imp_right ?_)
    · rw [List.append_nil]
      exact hd
    · intro hclear
      refine ⟨hclear, ?_⟩
      rintro ⟨c, t, ht, -⟩
      rw [hend] at ht
      cases ht
  · cases h

/-- A tree is read back from its text, up to its leaves, exactly when it is legible. -/
theorem read_print_iff :
    read e.print = .ok (e.replace rereading) ↔ e.Everywhere Expr.Legible :=
  ⟨fun h => legible_of_read_print he hworded h (.inl rfl), read_print he hworded⟩

/-- The text of a clear tree is read, as whatever tree, exactly when its names are read bare. -/
theorem exists_read_print_iff (hclear : e.Everywhere Expr.Clear) :
    (∃ x, read e.print = .ok x) ↔ e.Everywhere Expr.Bare := by
  constructor
  · rintro ⟨x, h⟩
    exact (legible_of_read_print he hworded h (.inr hclear)).mono fun _ hd => hd.1
  · exact fun hbare => ⟨_, read_print he hworded (hbare.and hclear)⟩

end

end TenantScope.Query
