/- The two policies differ only on queries that are not isolated. -/
import TenantScope.Proofs.Http.Params
import TenantScope.Proofs.Scope.Verdict

namespace TenantScope

open Query

/-! One query -/

namespace Filter

variable {f : Filter} {query text : Text} {error : ScopeError}

/-- To forward a query is to inject the filter, whatever becomes of the check. -/
theorem scopeQuery_forward (f : Filter) (query : Text) :
    f.scopeQuery .forward query = (readQuery query).map fun e => (f.inject 0 e).tree.print := by
  unfold scopeQuery
  cases readQuery query with
  | error error => rfl
  | ok e =>
      simp only [bind, Except.bind, Except.map]
      cases f.checkIsolated (f.inject 0 e).tree.print <;> rfl

/-- What the strict policy keeps is what would be forwarded, if it passes the check. -/
theorem scopeQuery_reject (f : Filter) (query : Text) :
    f.scopeQuery .reject query = do
      let text ← f.scopeQuery .forward query
      f.checkIsolated text
      return text := by
  rw [scopeQuery_forward]
  unfold scopeQuery
  cases readQuery query with
  | error error => rfl
  | ok e =>
      simp only [bind, Except.bind, Except.map]
      cases f.checkIsolated (f.inject 0 e).tree.print <;> rfl

theorem scopeQuery_forward_of_reject (h : f.scopeQuery .reject query = .ok text) :
    f.scopeQuery .forward query = .ok text := by
  rw [scopeQuery_reject] at h
  obtain ⟨text', hforward, h⟩ := bind_eq_ok h
  obtain ⟨_, -, h⟩ := bind_eq_ok h
  cases h
  exact hforward

theorem scopeQuery_reject_of_forward (h : f.scopeQuery .forward query = .error error) :
    f.scopeQuery .reject query = .error error := by
  rw [scopeQuery_reject, h]
  rfl

/-- The strict policy refuses more than the lax one only for want of isolation. -/
theorem scopeQuery_reject_eq_error (h : f.scopeQuery .reject query = .error error) :
    f.scopeQuery .forward query = .error error ∨
      ∃ text reason, f.scopeQuery .forward query = .ok text ∧ error = .unisolated text reason := by
  rw [scopeQuery_reject] at h
  rcases bind_eq_error h with h | ⟨text, hforward, h⟩
  · exact .inl h
  · rcases bind_eq_error h with hcheck | ⟨_, -, h⟩
    · have hfailed : f.checkIsolated text ≠ .ok () := by
        rw [hcheck]
        exact nofun
      obtain ⟨reason, hreason⟩ := exists_reason hfailed
      cases hcheck.symm.trans hreason
      exact .inr ⟨text, reason, hforward, rfl⟩
    · cases h

end Filter

/-! Where a run fails -/

namespace Params

/-- A value of a form, by its key and its index among the values given with that key. -/
structure Spot where
  key : Text
  index : Nat

/-- One value comes before another in the order of keys and, under one key, of values. -/
def Spot.Before (p q : Spot) : Prop := p.key < q.key ∨ p.key = q.key ∧ p.index < q.index

theorem Spot.before_or_eq_or_before (p q : Spot) : p.Before q ∨ p = q ∨ q.Before p := by
  obtain ⟨k, i⟩ := p
  obtain ⟨l, j⟩ := q
  by_cases hlt : k < l
  · exact .inl (.inl hlt)
  · rcases List.le_iff_lt_or_eq.mp (List.not_lt.mp hlt) with hgt | rfl
    · exact .inr (.inr (.inl hgt))
    · rcases Nat.lt_trichotomy i j with h | rfl | h
      · exact .inl (.inr ⟨rfl, h⟩)
      · exact .inr (.inl rfl)
      · exact .inr (.inr (.inr ⟨rfl, h⟩))

/-- What is wrong with one value of a form, or with the number of queries, which is found at the
first of them. -/
inductive RefusedAt (f : Filter) (policy : Policy) (apiType : ApiType) (form : Form) :
    Spot → RequestError → Prop
  | count {p : Spot} {values : List Text} : p = ⟨queryKey, 0⟩ →
      given apiType form p.key = some values → values.length ≠ 1 →
      RefusedAt f policy apiType form p (.parameterCount queryKey values.length)
  | value {p : Spot} {values : List Text} {value : Text} {error : ScopeError} :
      p.key ∈ scopedKeys → given apiType form p.key = some values →
      (p.key = queryKey → values.length = 1) → values[p.index]? = some value →
      f.scopeQuery policy value = .error error →
      RefusedAt f policy apiType form p (.unscoped error)

/-- The first value with which something is wrong, where nothing required is missing. -/
structure FirstRefused (f : Filter) (policy : Policy) (apiType : ApiType) (form : Form) (p : Spot)
    (e : RequestError) : Prop where
  there : apiType = .query → given apiType form queryKey ≠ none
  refused : RefusedAt f policy apiType form p e
  first : ∀ q : Spot, q.Before p → ∀ d, ¬RefusedAt f policy apiType form q d

variable {f : Filter} {policy : Policy} {apiType : ApiType} {form : Form} {p : Spot}
  {e : RequestError}

theorem RefusedAt.unique {d : RequestError} (h : RefusedAt f policy apiType form p e)
    (h' : RefusedAt f policy apiType form p d) : e = d := by
  cases h with
  | count hp hgiven hlength =>
      cases h' with
      | count _ hgiven' _ =>
          cases hgiven.symm.trans hgiven'
          rfl
      | value _ hgiven' hone _ _ =>
          cases hgiven.symm.trans hgiven'
          exact absurd (hone (hp ▸ rfl)) hlength
  | value _ hgiven hone hvalue herror =>
      cases h' with
      | count hp hgiven' hlength =>
          cases hgiven.symm.trans hgiven'
          exact absurd (hone (hp ▸ rfl)) hlength
      | value _ hgiven' _ hvalue' herror' =>
          cases hgiven.symm.trans hgiven'
          cases hvalue.symm.trans hvalue'
          cases herror.symm.trans herror'
          rfl

theorem RefusedAt.exists_offends (h : RefusedAt f policy apiType form p e) :
    ∃ values d, given apiType form p.key = some values ∧ Offends f policy p.key values d := by
  cases h with
  | @count values hp hgiven hlength =>
      subst hp
      exact ⟨values, _, hgiven, .count hlength⟩
  | @value values value error hkey hgiven _ hvalue herror =>
      refine ⟨values, ?_⟩
      cases hentry : scopeEntry f policy p.key values with
      | error d => exact ⟨d, hgiven, scopeEntry_eq_error_iff.mp hentry⟩
      | ok part =>
          obtain ⟨text, -, htext⟩ := exists_of_mem_forall₂
            ((becomes_of_scopeEntry hentry).scopes_valuesOf hkey).flip
            (List.mem_of_getElem? hvalue)
          cases herror.symm.trans htext

theorem Offends.exists_refusedAt {key : Text} {values : List Text}
    (hgiven : given apiType form key = some values) (h : Offends f policy key values e) :
    ∃ i, RefusedAt f policy apiType form ⟨key, i⟩ e ∧
      ∀ j < i, ∀ d, ¬RefusedAt f policy apiType form ⟨key, j⟩ d := by
  cases h with
  | count hlength =>
      exact ⟨0, .count rfl hgiven hlength, fun j hj => absurd hj (Nat.not_lt_zero j)⟩
  | query herror =>
      exact ⟨0, .value (by decide) hgiven (fun _ => rfl) rfl herror,
        fun j hj => absurd hj (Nat.not_lt_zero j)⟩
  | @selector before after value error hbefore herror =>
      have hmatch : matchKey ∈ scopedKeys := by decide
      have hne : matchKey ≠ queryKey := by decide
      refine ⟨before.length, .value hmatch hgiven (fun heq => absurd heq hne) ?_ herror,
        fun j hj d hrefused => ?_⟩
      · rw [List.getElem?_append_right (Nat.le_refl _), Nat.sub_self]
        rfl
      · cases hrefused with
        | count hp _ _ => exact hne (congrArg Spot.key hp)
        | value _ hgiven' _ hvalue herror' =>
            cases hgiven.symm.trans hgiven'
            rw [List.getElem?_append_left hj] at hvalue
            obtain ⟨text, htext⟩ := hbefore _ (List.mem_of_getElem? hvalue)
            cases herror'.symm.trans htext

/-- A run fails for want of a query, or at the first value with which something is wrong. -/
theorem scope_eq_error_cases (hform : form.Sorted) (h : scope apiType form f policy = .error e) :
    (apiType = .query ∧ given apiType form queryKey = none ∧ e = .missingParameter queryKey) ∨
      ∃ p, FirstRefused f policy apiType form p e := by
  cases (scope_eq_error_iff hform).mp h with
  | missing hquery hnone => exact .inl ⟨hquery, hnone, rfl⟩
  | @first key values _ hthere hgiven hoffends hleast =>
      obtain ⟨i, hrefused, hfirst⟩ := hoffends.exists_refusedAt hgiven
      refine .inr ⟨⟨key, i⟩, hthere, hrefused, ?_⟩
      rintro ⟨k, j⟩ (hlt | ⟨heq, hlt⟩) d hd
      · obtain ⟨vs, d', hvs, hd'⟩ := hd.exists_offends
        exact hleast k hlt vs hvs d' hd'
      · dsimp only at heq
        subst heq
        exact hfirst j hlt d hd

theorem not_refusedAt_of_scope {params : List (Text × Text)} (hform : form.Sorted)
    (h : scope apiType form f policy = .ok params) : ¬RefusedAt f policy apiType form p e := by
  have hacceptable := acceptable_of_scope hform h
  have hrendered := rendered_of_scope hform h
  intro hrefused
  cases hrefused with
  | count hp hgiven hlength =>
      subst hp
      obtain ⟨value, text, rfl, -⟩ := hacceptable.query _ hgiven
      exact hlength rfl
  | value hkey hgiven _ hvalue herror =>
      have hscoped := hrendered.narrowed p.key hkey
      rw [hgiven] at hscoped
      obtain ⟨text, -, htext⟩ := exists_of_mem_forall₂ hscoped.flip (List.mem_of_getElem? hvalue)
      cases herror.symm.trans htext

/-! The two policies -/

/-- A value that is forwarded as a text, but refused with that text under the strict policy. -/
structure UnisolatedAt (f : Filter) (apiType : ApiType) (form : Form) (p : Spot)
    (text reason : Text) : Prop where
  narrowed : p.key ∈ scopedKeys
  value : ∃ value ∈ ((given apiType form p.key).getD [])[p.index]?,
    f.scopeQuery .forward value = .ok text ∧
      f.scopeQuery .reject value = .error (.unisolated text reason)

theorem RefusedAt.reject_of_forward (h : RefusedAt f .forward apiType form p e) :
    RefusedAt f .reject apiType form p e := by
  cases h with
  | count hp hgiven hlength => exact .count hp hgiven hlength
  | value hkey hgiven hone hvalue herror =>
      exact .value hkey hgiven hone hvalue (Filter.scopeQuery_reject_of_forward herror)

/-- What is wrong under the strict policy is wrong under the lax one too, unless it is the want of
isolation. -/
theorem RefusedAt.forward_or_unisolated (h : RefusedAt f .reject apiType form p e) :
    RefusedAt f .forward apiType form p e ∨
      ∃ text reason, e = .unscoped (.unisolated text reason) ∧
        UnisolatedAt f apiType form p text reason := by
  cases h with
  | count hp hgiven hlength => exact .inl (.count hp hgiven hlength)
  | @value values value error hkey hgiven hone hvalue herror =>
      rcases Filter.scopeQuery_reject_eq_error herror with hforward | ⟨text, reason, htext, rfl⟩
      · exact .inl (.value hkey hgiven hone hvalue hforward)
      · refine .inr ⟨text, reason, rfl, hkey, value, ?_, htext, herror⟩
        rw [hgiven]
        exact hvalue

/-! A traversal by a step that succeeds more often -/

theorem exists_getElem?_of_forall₂ {α β : Type} {R : α → β → Prop} {xs : List α} {ys : List β}
    (h : List.Forall₂ R xs ys) {i : Nat} {x : α} (hx : xs[i]? = some x) :
    ∃ y, ys[i]? = some y ∧ R x y := by
  induction h generalizing i with
  | nil => cases hx
  | @cons x' y' _ _ hfirst _ ih =>
      cases i with
      | zero =>
          cases hx
          exact ⟨y', rfl, hfirst⟩
      | succ i => exact ih hx

theorem mapM_eq_ok_of_imp {ε α β : Type} {g g' : α → Except ε β}
    (hstep : ∀ x y, g x = .ok y → g' x = .ok y) {xs : List α} {ys : List β}
    (h : xs.mapM g = .ok ys) : xs.mapM g' = .ok ys := by
  induction xs generalizing ys with
  | nil => exact h
  | cons x xs ih =>
      rw [List.mapM_cons] at h ⊢
      obtain ⟨y, hy, h⟩ := bind_eq_ok h
      obtain ⟨ys', hys, h⟩ := bind_eq_ok h
      cases h
      rw [hstep x y hy, ih hys]
      rfl

theorem scopeValue_map_forward {α : Type} {g : Text → α} {value : Text} {a : α}
    (h : (scopeValue f .reject value).map g = .ok a) :
    (scopeValue f .forward value).map g = .ok a := by
  obtain ⟨text, htext, rfl⟩ := scopeValue_map_eq_ok.mp h
  exact scopeValue_map_eq_ok.mpr ⟨text, Filter.scopeQuery_forward_of_reject htext, rfl⟩

theorem scopeEntry_forward_of_reject {key : Text} {values : List Text} {part : List (Text × Text)}
    (h : scopeEntry f .reject key values = .ok part) :
    scopeEntry f .forward key values = .ok part := by
  rcases key_cases key with rfl | rfl | hcopied | hdropped
  · by_cases hlength : values.length = 1
    · obtain ⟨value, rfl⟩ := List.length_eq_one_iff.mp hlength
      exact scopeValue_map_forward h
    · rw [scopeEntry_count hlength] at h
      cases h
  · exact mapM_eq_ok_of_imp (fun _ _ => scopeValue_map_forward) h
  · rw [scopeEntry_copied hcopied] at h ⊢
    exact h
  · rw [scopeEntry_dropped hdropped] at h ⊢
    exact h

theorem scope_forward_of_reject {params : List (Text × Text)}
    (h : scope apiType form f .reject = .ok params) :
    scope apiType form f .forward = .ok params := by
  obtain ⟨completed, hrequired, h⟩ := bind_eq_ok h
  obtain ⟨parts, hparts, h⟩ := bind_eq_ok h
  have hforward := mapM_eq_ok_of_imp (fun _ _ => scopeEntry_forward_of_reject) hparts
  unfold scope
  rw [hrequired]
  simp only [bind, Except.bind, hforward]
  exact h

/-! Two runs -/

/-- Where the lax run fails, the strict one fails alike, or before it for want of isolation. -/
theorem scope_reject_of_forward_eq_error (hform : form.Sorted)
    (h : scope apiType form f .forward = .error e) :
    scope apiType form f .reject = .error e ∨
      ∃ p q text reason, FirstRefused f .forward apiType form p e ∧ q.Before p ∧
        UnisolatedAt f apiType form q text reason ∧
        scope apiType form f .reject = .error (.unscoped (.unisolated text reason)) := by
  rcases scope_eq_error_cases hform h with ⟨hquery, hnone, rfl⟩ | ⟨p, hp⟩
  · exact .inl ((scope_eq_error_iff hform).mpr (.missing hquery hnone))
  · -- the strict run fails at the same value at the latest
    have hboth := hp.refused.reject_of_forward
    cases hreject : scope apiType form f .reject with
    | ok params => exact absurd hboth (not_refusedAt_of_scope hform hreject)
    | error d =>
        rcases scope_eq_error_cases hform hreject with ⟨hquery, hnone, -⟩ | ⟨q, hq⟩
        · exact absurd hnone (hp.there hquery)
        · rcases q.before_or_eq_or_before p with hbefore | rfl | hafter
          · rcases hq.refused.forward_or_unisolated with hforward | ⟨text, reason, rfl, hq'⟩
            · exact absurd hforward (hp.first q hbefore d)
            · exact .inr ⟨p, q, text, reason, hp, hbefore, hq', rfl⟩
          · exact .inl (congrArg Except.error (hq.refused.unique hboth))
          · exact absurd hboth (hq.first p hafter e)

theorem unisolatedAt_of_scope {params : List (Text × Text)} (hform : form.Sorted)
    (h : scope apiType form f .forward = .ok params)
    (hreject : scope apiType form f .reject = .error e) :
    ∃ q text reason, e = .unscoped (.unisolated text reason) ∧
      UnisolatedAt f apiType form q text reason ∧
      (valuesOf q.key params)[q.index]? = some text := by
  rcases scope_eq_error_cases hform hreject with ⟨hquery, hnone, -⟩ | ⟨q, hq⟩
  · exact absurd hnone ((acceptable_of_scope hform h).required hquery)
  · rcases hq.refused.forward_or_unisolated with hforward | ⟨text, reason, rfl, hq'⟩
    · exact absurd hforward (not_refusedAt_of_scope hform h)
    · refine ⟨q, text, reason, rfl, hq', ?_⟩
      obtain ⟨value, hvalue, htext, -⟩ := hq'.value
      obtain ⟨text', hparam, hscopes⟩ := exists_getElem?_of_forall₂
        ((rendered_of_scope hform h).narrowed q.key hq'.narrowed) hvalue
      cases htext.symm.trans hscopes
      exact hparam

/-- What the strict policy lets through is forwarded all the same. Where the lax run fails, the
strict one fails alike, or at an earlier value for want of isolation; where the strict run alone
fails, the text in its error is the parameter that is forwarded. A query is forwarded as its tree
with the filter injected, and refused only if it cannot be read. -/
theorem scope_policies (hform : form.Sorted) (apiType : ApiType) (f : Filter) :
    (∀ params, scope apiType form f .reject = .ok params →
        scope apiType form f .forward = .ok params) ∧
      (∀ e, scope apiType form f .forward = .error e →
        scope apiType form f .reject = .error e ∨
          ∃ p q text reason, FirstRefused f .forward apiType form p e ∧ q.Before p ∧
            UnisolatedAt f apiType form q text reason ∧
            scope apiType form f .reject = .error (.unscoped (.unisolated text reason))) ∧
      (∀ params e, scope apiType form f .forward = .ok params →
        scope apiType form f .reject = .error e →
          ∃ q text reason, e = .unscoped (.unisolated text reason) ∧
            UnisolatedAt f apiType form q text reason ∧
            (valuesOf q.key params)[q.index]? = some text) ∧
      (∀ query, f.scopeQuery .forward query =
        (readQuery query).map fun e => (f.inject 0 e).tree.print) ∧
      ∀ params, scope apiType form f .forward = .ok params → ∀ key ∈ scopedKeys,
        List.Forall₂ (fun value text =>
            (readQuery value).map (fun e => (f.inject 0 e).tree.print) = .ok text)
          ((given apiType form key).getD []) (valuesOf key params) := by
  refine ⟨?_, ?_, ?_, f.scopeQuery_forward, ?_⟩
  · intro params h
    exact scope_forward_of_reject h
  · intro e h
    exact scope_reject_of_forward_eq_error hform h
  · intro params e h hreject
    exact unisolatedAt_of_scope hform h hreject
  · intro params h key hkey
    apply ((rendered_of_scope hform h).narrowed key hkey).imp
    intro value text htext
    rw [← Filter.scopeQuery_forward]
    exact htext

/-- A selector that is not isolated stands in front of one that cannot be read, so that the two runs
fail at different values; without the latter, the strict run alone fails. -/
theorem scope_policies_selectors :
    let f := Filter.oneTenant
    let values := [['a'], "\x7b'a.b'\x7d".toList]
    let form : Form := [(matchKey, values ++ [['(']])]
    let params := [(matchKey, "a\x7btenant=\"t1\"\x7d".toList),
      (matchKey, "a.b\x7btenant=\"t1\"\x7d".toList)]
    let unread := RequestError.unscoped (.badQuery ['('] (Failure.message ⟨['('], .name⟩))
    let text := "a.b\x7btenant=\"t1\"\x7d".toList
    let reason := unreadableReason
      (.badQuery text (Failure.message ⟨".b\x7btenant=\"t1\"\x7d".toList, .ending⟩))
    (form.Sorted ∧ scope .series form f .forward = .error unread ∧
        scope .series form f .reject = .error (.unscoped (.unisolated text reason))) ∧
      (∃ p q, FirstRefused f .forward .series form p unread ∧ q.Before p ∧
        UnisolatedAt f .series form q text reason) ∧
      (Form.Sorted [(matchKey, values)] ∧
        scope .series [(matchKey, values)] f .forward = .ok params ∧
        scope .series [(matchKey, values)] f .reject =
          .error (.unscoped (.unisolated text reason))) ∧
      ∃ q, UnisolatedAt f .series [(matchKey, values)] q text reason ∧
        (valuesOf q.key params)[q.index]? = some text := by
  intro f values form params unread text reason
  have hforward : scope .series form f .forward = .error unread := by decide +kernel
  have hreject : scope .series form f .reject = .error (.unscoped (.unisolated text reason)) := by
    decide +kernel
  have hforward' : scope .series [(matchKey, values)] f .forward = .ok params := by decide +kernel
  have hreject' : scope .series [(matchKey, values)] f .reject =
      .error (.unscoped (.unisolated text reason)) := by decide +kernel
  have hsorted : form.Sorted := List.pairwise_singleton _ _
  have hsorted' : Form.Sorted [(matchKey, values)] := List.pairwise_singleton _ _
  obtain ⟨-, hfailed, -⟩ := scope_policies hsorted .series f
  obtain ⟨-, -, hforwarded, -⟩ := scope_policies hsorted' .series f
  refine ⟨⟨hsorted, hforward, hreject⟩, ?_, ⟨hsorted', hforward', hreject'⟩, ?_⟩
  · have hdiffer : unread ≠ .unscoped (.unisolated text reason) := by decide
    rcases hfailed unread hforward with hsame | ⟨p, q, text', reason', hp, hbefore, hq, hsame⟩
    · exact absurd (Except.error.inj (hsame.symm.trans hreject)) hdiffer
    · cases hreject.symm.trans hsame
      exact ⟨p, q, hp, hbefore, hq⟩
  · obtain ⟨q, text', reason', hsame, hq, hparam⟩ := hforwarded params _ hforward' hreject'
    cases hsame
    exact ⟨q, hq, hparam⟩

end Params
end TenantScope
