/- What one key of a form becomes, and what can be wrong with its values. -/
import TenantScope.Http.Params
import TenantScope.Proofs.Query.Grammar
import Mathlib.Data.List.Forall2

namespace TenantScope

open Query

/-! Steps that may fail -/

theorem bind_eq_error {ε α β : Type} {x : Except ε α} {f : α → Except ε β} {e : ε}
    (h : x >>= f = .error e) : x = .error e ∨ ∃ a, x = .ok a ∧ f a = .error e := by
  cases x with
  | error d => cases h; exact .inl rfl
  | ok a => exact .inr ⟨a, rfl, h⟩

theorem forall₂_of_mapM_eq_ok {ε α β : Type} {g : α → Except ε β} {xs : List α} {ys : List β}
    (h : xs.mapM g = .ok ys) : List.Forall₂ (fun x y => g x = .ok y) xs ys := by
  induction xs generalizing ys with
  | nil =>
      cases h
      exact .nil
  | cons x xs ih =>
      rw [List.mapM_cons] at h
      obtain ⟨y, hy, h⟩ := bind_eq_ok h
      obtain ⟨ys', hys, h⟩ := bind_eq_ok h
      cases h
      exact .cons hy (ih hys)

theorem exists_of_mem_forall₂ {α β : Type} {R : α → β → Prop} {xs : List α} {ys : List β}
    (h : List.Forall₂ R xs ys) {y : β} (hy : y ∈ ys) : ∃ x ∈ xs, R x y := by
  induction h with
  | nil => cases hy
  | cons hfirst _ ih =>
      rcases List.mem_cons.mp hy with rfl | hy
      · exact ⟨_, List.mem_cons_self, hfirst⟩
      · obtain ⟨x, hx, hR⟩ := ih hy
        exact ⟨x, List.mem_cons_of_mem _ hx, hR⟩

/-- A traversal fails as its first failing item does; those in front of it succeed. -/
theorem mapM_eq_error_iff {ε α β : Type} {g : α → Except ε β} {xs : List α} {e : ε} :
    xs.mapM g = .error e ↔ ∃ before x after, xs = before ++ x :: after ∧
      (∀ b ∈ before, ∃ y, g b = .ok y) ∧ g x = .error e := by
  constructor
  · intro h
    induction xs with
    | nil => cases h
    | cons x xs ih =>
        rw [List.mapM_cons] at h
        rcases bind_eq_error h with hx | ⟨y, hy, h⟩
        · exact ⟨[], x, xs, rfl, List.forall_mem_nil _, hx⟩
        · rcases bind_eq_error h with hxs | ⟨ys, -, h⟩
          · obtain ⟨before, x', after, rfl, hbefore, hx'⟩ := ih hxs
            exact ⟨x :: before, x', after, rfl,
              List.forall_mem_cons.mpr ⟨⟨y, hy⟩, hbefore⟩, hx'⟩
          · cases h
  · rintro ⟨before, x, after, rfl, hbefore, hx⟩
    induction before with
    | nil =>
        rw [List.nil_append, List.mapM_cons, hx]
        rfl
    | cons b before ih =>
        obtain ⟨⟨y, hy⟩, hrest⟩ := List.forall_mem_cons.mp hbefore
        rw [List.cons_append, List.mapM_cons, hy]
        simp only [bind, Except.bind, ih hrest]

namespace Params

/-- The parameters whose values are scoped. -/
def scopedKeys : List Text := [queryKey, matchKey]

/-- The parameters that are sent at all. -/
def sentKeys : List Text := scopedKeys ++ copiedKeys

/-- One value is scoped to another. -/
abbrev Scopes (f : Filter) (policy : Policy) (value text : Text) : Prop :=
  f.scopeQuery policy value = .ok text

/-- What the values of a key become. -/
inductive Becomes (f : Filter) (policy : Policy) : Text → List Text → List (Text × Text) → Prop
  | query {value text : Text} : Scopes f policy value text →
      Becomes f policy queryKey [value] [(queryKey, text)]
  | selectors {values texts : List Text} : List.Forall₂ (Scopes f policy) values texts →
      Becomes f policy matchKey values (texts.map (matchKey, ·))
  | copied {key : Text} {values : List Text} : key ∈ copiedKeys →
      Becomes f policy key values (values.map (key, ·))
  | dropped {key : Text} {values : List Text} : key ∉ sentKeys → Becomes f policy key values []

/-- What is wrong with the values of a key: there is not one query, or a value is refused and all
those in front of it are not. -/
inductive Offends (f : Filter) (policy : Policy) : Text → List Text → RequestError → Prop
  | count {values : List Text} : values.length ≠ 1 →
      Offends f policy queryKey values (.parameterCount queryKey values.length)
  | query {value : Text} {error : ScopeError} : f.scopeQuery policy value = .error error →
      Offends f policy queryKey [value] (.unscoped error)
  | selector {before after : List Text} {value : Text} {error : ScopeError} :
      (∀ v ∈ before, ∃ text, Scopes f policy v text) → f.scopeQuery policy value = .error error →
      Offends f policy matchKey (before ++ value :: after) (.unscoped error)

variable {f : Filter} {policy : Policy} {key : Text} {values : List Text}

theorem scopeValue_map_eq_ok {α : Type} {g : Text → α} {value : Text} {a : α} :
    (scopeValue f policy value).map g = .ok a ↔
      ∃ text, Scopes f policy value text ∧ g text = a := by
  unfold scopeValue Scopes
  cases f.scopeQuery policy value <;> simp [Except.mapError, Except.map]

theorem scopeValue_map_eq_error {α : Type} {g : Text → α} {value : Text} {e : RequestError} :
    (scopeValue f policy value).map g = .error e ↔
      ∃ error, f.scopeQuery policy value = .error error ∧ .unscoped error = e := by
  unfold scopeValue
  cases f.scopeQuery policy value <;> simp [Except.mapError, Except.map]

/-! The four kinds of keys -/

theorem key_cases (key : Text) :
    key = queryKey ∨ key = matchKey ∨ key ∈ copiedKeys ∨ key ∉ sentKeys := by
  simp only [sentKeys, scopedKeys, List.mem_append, List.mem_cons, List.not_mem_nil, or_false]
  tauto

theorem scopeEntry_query (value : Text) :
    scopeEntry f policy queryKey [value] =
      (scopeValue f policy value).map fun v => [(queryKey, v)] := rfl

theorem scopeEntry_count (h : values.length ≠ 1) :
    scopeEntry f policy queryKey values = .error (.parameterCount queryKey values.length) := by
  match values, h with
  | [], _ => rfl
  | [value], h => exact absurd rfl h
  | _ :: _ :: _, _ => rfl

theorem scopeEntry_selectors (values : List Text) :
    scopeEntry f policy matchKey values =
      values.mapM fun value => (scopeValue f policy value).map fun v => (matchKey, v) := rfl

theorem scopeEntry_copied (h : key ∈ copiedKeys) (values : List Text) :
    scopeEntry f policy key values = .ok (values.map fun v => (key, v)) := by
  have hquery : key ≠ queryKey := fun heq => absurd (heq ▸ h) (by decide)
  have hmatch : key ≠ matchKey := fun heq => absurd (heq ▸ h) (by decide)
  unfold scopeEntry
  rw [if_neg hquery, if_neg hmatch, if_pos h]

theorem scopeEntry_dropped (h : key ∉ sentKeys) (values : List Text) :
    scopeEntry f policy key values = .ok [] := by
  have hquery : key ≠ queryKey := fun heq => h (heq ▸ by decide)
  have hmatch : key ≠ matchKey := fun heq => h (heq ▸ by decide)
  have hcopied : key ∉ copiedKeys := fun hmem => h (List.mem_append_right _ hmem)
  unfold scopeEntry
  rw [if_neg hquery, if_neg hmatch, if_neg hcopied]

/-! What becomes of them -/

theorem texts_of_forall₂ {part : List (Text × Text)}
    (h : List.Forall₂ (fun value p => (scopeValue f policy value).map (Prod.mk key) = .ok p)
      values part) :
    ∃ texts, List.Forall₂ (Scopes f policy) values texts ∧ texts.map (key, ·) = part := by
  induction h with
  | nil => exact ⟨[], .nil, rfl⟩
  | cons hfirst _ ih =>
      obtain ⟨text, htext, rfl⟩ := scopeValue_map_eq_ok.mp hfirst
      obtain ⟨texts, htexts, rfl⟩ := ih
      exact ⟨text :: texts, .cons htext htexts, rfl⟩

theorem becomes_of_scopeEntry {part : List (Text × Text)}
    (h : scopeEntry f policy key values = .ok part) : Becomes f policy key values part := by
  rcases key_cases key with rfl | rfl | hcopied | hdropped
  · by_cases hlength : values.length = 1
    · obtain ⟨value, rfl⟩ := List.length_eq_one_iff.mp hlength
      obtain ⟨text, htext, rfl⟩ := scopeValue_map_eq_ok.mp h
      exact .query htext
    · rw [scopeEntry_count hlength] at h
      cases h
  · obtain ⟨texts, htexts, rfl⟩ := texts_of_forall₂ (forall₂_of_mapM_eq_ok h)
    exact .selectors htexts
  · rw [scopeEntry_copied hcopied] at h
    cases h
    exact .copied hcopied
  · rw [scopeEntry_dropped hdropped] at h
    cases h
    exact .dropped hdropped

theorem Becomes.key_eq {part : List (Text × Text)} (h : Becomes f policy key values part) :
    ∀ p ∈ part, p.1 = key := by
  cases h with
  | query _ =>
      intro p hp
      rw [List.mem_singleton.mp hp]
  | selectors _ | copied _ =>
      intro p hp
      obtain ⟨v, -, rfl⟩ := List.mem_map.mp hp
      rfl
  | dropped _ => exact List.forall_mem_nil _

theorem Becomes.key_sent {part : List (Text × Text)} (h : Becomes f policy key values part) :
    ∀ p ∈ part, key ∈ sentKeys := by
  cases h with
  | query _ | selectors _ =>
      intro p hp
      decide
  | copied hcopied => exact fun p hp => List.mem_append_right _ hcopied
  | dropped _ => exact List.forall_mem_nil _

theorem not_mem_scopedKeys (h : key ∈ copiedKeys) : key ∉ scopedKeys := by
  revert key
  decide

/-- An entry fails exactly as something is wrong with its values. -/
theorem scopeEntry_eq_error_iff {e : RequestError} :
    scopeEntry f policy key values = .error e ↔ Offends f policy key values e := by
  constructor
  · intro h
    rcases key_cases key with rfl | rfl | hcopied | hdropped
    · by_cases hlength : values.length = 1
      · obtain ⟨value, rfl⟩ := List.length_eq_one_iff.mp hlength
        obtain ⟨error, herror, rfl⟩ := scopeValue_map_eq_error.mp h
        exact .query herror
      · rw [scopeEntry_count hlength] at h
        cases h
        exact .count hlength
    · obtain ⟨before, value, after, rfl, hbefore, hvalue⟩ := mapM_eq_error_iff.mp h
      obtain ⟨error, herror, rfl⟩ := scopeValue_map_eq_error.mp hvalue
      refine .selector (fun v hv => ?_) herror
      obtain ⟨p, hp⟩ := hbefore v hv
      obtain ⟨text, htext, -⟩ := scopeValue_map_eq_ok.mp hp
      exact ⟨text, htext⟩
    · rw [scopeEntry_copied hcopied] at h
      cases h
    · rw [scopeEntry_dropped hdropped] at h
      cases h
  · intro h
    cases h with
    | count hlength => exact scopeEntry_count hlength
    | query herror =>
        rw [scopeEntry_query]
        exact scopeValue_map_eq_error.mpr ⟨_, herror, rfl⟩
    | @selector before after value error hbefore herror =>
        rw [scopeEntry_selectors]
        refine mapM_eq_error_iff.mpr ⟨before, value, after, rfl, fun v hv => ?_, ?_⟩
        · obtain ⟨text, htext⟩ := hbefore v hv
          exact ⟨_, scopeValue_map_eq_ok.mpr ⟨text, htext, rfl⟩⟩
        · exact scopeValue_map_eq_error.mpr ⟨error, herror, rfl⟩

end Params
end TenantScope
