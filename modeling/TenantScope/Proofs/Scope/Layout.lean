/- However often filters are injected, both texts of a tree keep the same layout. -/
import TenantScope.Proofs.Query.Layout
import TenantScope.Proofs.Scope.Injection

namespace TenantScope

open Query

/-- The values of a filter are printable. -/
def Filter.Printable (f : Filter) : Prop := ∀ m ∈ f.matchers, Query.Printable m.value

instance (f : Filter) : Decidable f.Printable :=
  inferInstanceAs (Decidable (∀ m ∈ f.matchers, Query.Printable m.value))

namespace Query.Expr

/-- The trees that injections of filters with printable values make of a tree. -/
inductive Injected (e : Expr) : Expr → Prop
  | start : Injected e e
  | walk {d : Expr} (f : Filter) (count : Nat) :
    f.Printable → Injected e d → Injected e (f.inject count d).tree

theorem mem_ownQuoted_narrowed {f : Filter} {e : Expr} {s : Text}
    (h : s ∈ (e.replace f.narrowing).ownQuoted) :
    s ∈ e.ownQuoted ∨ ∃ m ∈ f.matchers, m.value = s := by
  cases e with
  | vector t | matrix t range =>
      have hvalues : s ∈ (t.matchers ++ f.matchers).map Matcher.value := h
      rw [List.map_append] at hvalues
      rcases List.mem_append.mp hvalues with h | h
      · exact .inl h
      · exact .inr (List.mem_map.mp h)
  | aggregation op grouping param body => cases param <;> exact .inl h
  | _ => exact .inl h

/-- An injection adds the values of its filter to what a tree quotes. -/
theorem mem_quotedTexts_narrowed {f : Filter} {e : Expr} {s : Text}
    (h : s ∈ (e.replace f.narrowing).quotedTexts) :
    s ∈ e.quotedTexts ∨ ∃ m ∈ f.matchers, m.value = s := by
  induction e using Expr.induction_on_children with
  | node e ih =>
    rw [quotedTexts_eq, children_replace, List.flatMap_map] at h
    rw [quotedTexts_eq, List.mem_append]
    rcases List.mem_append.mp h with h | h
    · exact (mem_ownQuoted_narrowed h).imp_left .inl
    · obtain ⟨c, hc, hs⟩ := List.mem_flatMap.mp h
      exact (ih c hc hs).imp_left fun hs => .inr (List.mem_flatMap.mpr ⟨c, hc, hs⟩)

theorem Printable.inject {e : Expr} (he : e.Printable) {f : Filter} (hf : f.Printable)
    (count : Nat) : (f.inject count e).tree.Printable := by
  rw [f.inject_tree]
  intro s hs
  rcases mem_quotedTexts_narrowed hs with hs | ⟨m, hm, rfl⟩
  · exact he s hs
  · exact hf m hm

theorem Injected.printable {e d : Expr} (h : e.Injected d) (he : e.Printable) : d.Printable := by
  induction h with
  | start => exact he
  | walk f count hf _ ih => exact ih.inject hf count

/-- Both texts of a tree consist of the same pieces, of which only the quoted ones are written in
different ways. If the tree quotes nothing but printable texts, then both texts are the same, and
they stay so whatever filters with printable values are injected. -/
theorem layout_exact (e : Expr) :
    e.print = e.pieces.flatMap Piece.print ∧ e.display = e.pieces.flatMap Piece.display ∧
      (e.Printable → ∀ d : Expr, e.Injected d → d.print = d.display) := by
  refine ⟨e.print_eq, rfl, ?_⟩
  intro he d h
  have hd : d.Printable := h.printable he
  exact hd.print_eq_display

/-- A filter injected twice over into a selector beside a literal. -/
theorem layout_exact_twice :
    let f : Filter := ⟨[⟨"tenant".toList, .equal, "t 1".toList⟩], List.cons_ne_nil _ _⟩
    let e : Expr := .call "f".toList
      [.string "a\"b".toList, .vector ⟨some "up".toList, [], .empty⟩]
    let d : Expr := (f.inject 1 (f.inject 0 e).tree).tree
    e.Printable ∧ e.Injected d ∧ d.print = d.display := by
  intro f e d
  have he : e.Printable := by decide
  have hf : f.Printable := by decide
  have hd : e.Injected d := .walk f 1 hf (.walk f 0 hf .start)
  exact ⟨he, hd, (layout_exact e).2.2 he d hd⟩

end Query.Expr
end TenantScope
