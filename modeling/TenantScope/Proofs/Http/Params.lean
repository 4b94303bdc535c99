/- Which forms are scoped, what their parameters are, and with which error the others fail. -/
import TenantScope.Proofs.Http.Entries
import TenantScope.Proofs.Http.Values
import TenantScope.Proofs.Scope.Isolation

namespace TenantScope

open Query

namespace Params

/-- The values given with a key, the selector of everything being given where one is needed. -/
def given (apiType : ApiType) (form : Form) (key : Text) : Option (List Text) :=
  (form.lookup key).or (if apiType = .series ∧ key = matchKey then some [everything] else none)

/-- What must hold of a form for it to be scoped. -/
structure Acceptable (f : Filter) (policy : Policy) (apiType : ApiType) (form : Form) : Prop where
  required : apiType = .query → given apiType form queryKey ≠ none
  query : ∀ values, given apiType form queryKey = some values →
    ∃ value text, values = [value] ∧ Scopes f policy value text
  selectors : ∀ values, given apiType form matchKey = some values →
    ∀ value ∈ values, ∃ text, Scopes f policy value text

/-- What the parameters of a form are: they stand in the order of their keys, and each key has the
values given with it, copied or scoped one by one. -/
structure Rendered (f : Filter) (policy : Policy) (apiType : ApiType) (form : Form)
    (params : List (Text × Text)) : Prop where
  ordered : (params.map Prod.fst).Pairwise fun k l => ¬l < k
  copied : ∀ key ∈ copiedKeys, valuesOf key params = (given apiType form key).getD []
  narrowed : ∀ key ∈ scopedKeys,
    List.Forall₂ (Scopes f policy) ((given apiType form key).getD []) (valuesOf key params)
  sent : ∀ p ∈ params, p.1 ∈ sentKeys

/-- How a form is refused: for want of a query, or for the offence of the least key with one. -/
inductive Rejects (f : Filter) (policy : Policy) (apiType : ApiType) (form : Form) :
    RequestError → Prop
  | missing : apiType = .query → given apiType form queryKey = none →
      Rejects f policy apiType form (.missingParameter queryKey)
  | first {key : Text} {values : List Text} {e : RequestError} :
      (apiType = .query → given apiType form queryKey ≠ none) →
      given apiType form key = some values → Offends f policy key values e →
      (∀ k < key, ∀ vs, given apiType form k = some vs → ∀ d, ¬Offends f policy k vs d) →
      Rejects f policy apiType form e

variable {f : Filter} {policy : Policy} {apiType : ApiType} {form completed : Form}
  {key : Text} {values : List Text} {part : List (Text × Text)}

/-! What is required -/

theorem required_eq_error_iff {e : RequestError} :
    required apiType form = .error e ↔
      apiType = .query ∧ given apiType form queryKey = none ∧ .missingParameter queryKey = e := by
  cases apiType with
  | query =>
      simp only [required, given, reduceCtorEq, false_and, if_false, Option.or_none, true_and,
        Form.lookup_eq_none_iff]
      cases form.hasKey queryKey <;> simp
  | series => simp [required]
  | plain => simp [required]

theorem given_ne_none_of_required (h : required apiType form = .ok completed) :
    apiType = .query → given apiType form queryKey ≠ none := by
  intro hquery hnone
  rw [required_eq_error_iff.mpr ⟨hquery, hnone, rfl⟩] at h
  cases h

theorem lookup_of_required (hform : form.Sorted) (h : required apiType form = .ok completed) :
    completed.Sorted ∧ ∀ key, completed.lookup key = given apiType form key := by
  cases apiType with
  | query =>
      simp only [required] at h
      split at h
      · cases h
        exact ⟨hform, fun key => by simp [given]⟩
      · cases h
  | series =>
      simp only [required, Except.ok.injEq] at h
      subst h
      split
      · next hkey =>
        refine ⟨hform, fun key => ?_⟩
        by_cases hmatch : key = matchKey
        · obtain ⟨values, hvalues⟩ : ∃ values, form.lookup key = some values := by
            rw [← Option.ne_none_iff_exists', Ne, Form.lookup_eq_none_iff, hmatch, hkey]
            exact Bool.noConfusion
          rw [given, hvalues, Option.some_or]
        · simp [given, hmatch]
      · next hkey =>
        have hfresh : matchKey ∉ form.map Prod.fst := fun hmem =>
          hkey (Form.hasKey_eq_true.mpr hmem)
        refine ⟨Form.sorted_addFirst _ _ hform, fun key => ?_⟩
        rw [Form.lookup_addFirst hfresh, given]
        split
        · next hmatch =>
          rw [hmatch, Form.lookup_eq_none_iff.mpr (Bool.eq_false_iff.mpr hkey)]
          rfl
        · next hmatch => simp [hmatch]
  | plain =>
      cases h
      exact ⟨hform, fun key => by simp [given]⟩

/-! The parameters -/

theorem Becomes.valuesOf_copied (h : Becomes f policy key values part) (hkey : key ∈ copiedKeys) :
    valuesOf key part = values := by
  cases h with
  | query _ => exact absurd hkey (by decide)
  | selectors _ => exact absurd hkey (by decide)
  | copied _ => exact Form.valuesOf_map_mk key values
  | dropped hdropped => exact absurd (List.mem_append_right _ hkey) hdropped

theorem Becomes.scopes_valuesOf (h : Becomes f policy key values part) (hkey : key ∈ scopedKeys) :
    List.Forall₂ (Scopes f policy) values (valuesOf key part) := by
  cases h with
  | @query value text htext => exact .cons htext .nil
  | @selectors _ texts htexts =>
      rw [Form.valuesOf_map_mk]
      exact htexts
  | copied hcopied => exact absurd hkey (not_mem_scopedKeys hcopied)
  | dropped hdropped => exact absurd (List.mem_append_left _ hkey) hdropped

section

variable {parts : List (List (Text × Text))}

theorem mem_flatten_of_becomes
    (h : List.Forall₂ (fun e part => Becomes f policy e.1 e.2 part) form parts) :
    ∀ p ∈ parts.flatten, p.1 ∈ form.map Prod.fst ∧ p.1 ∈ sentKeys := by
  intro p hp
  obtain ⟨part, hpart, hp⟩ := List.mem_flatten.mp hp
  obtain ⟨e, he, hbecomes⟩ := exists_of_mem_forall₂ h hpart
  have hkey := hbecomes.key_eq p hp
  rw [hkey]
  exact ⟨List.mem_map_of_mem he, hbecomes.key_sent p hp⟩

theorem ordered_flatten (hform : form.Sorted)
    (h : List.Forall₂ (fun e part => Becomes f policy e.1 e.2 part) form parts) :
    (parts.flatten.map Prod.fst).Pairwise fun k l => ¬l < k := by
  induction h with
  | nil => exact List.Pairwise.nil
  | @cons e part form parts hfirst hrest ih =>
      obtain ⟨hlt, hform⟩ := List.pairwise_cons.mp hform
      rw [List.pairwise_map] at ih ⊢
      rw [List.flatten_cons, List.pairwise_append]
      refine ⟨?_, ih hform, ?_⟩
      · refine List.pairwise_of_forall_mem_list fun p hp q hq => ?_
        rw [hfirst.key_eq p hp, hfirst.key_eq q hq]
        exact List.lt_irrefl e.1
      · intro p hp q hq
        rw [hfirst.key_eq p hp]
        exact List.lt_asymm (hlt _ (mem_flatten_of_becomes hrest q hq).1)

/-- A key has no parameters if it is not in the form, and otherwise those that its values become. -/
theorem valuesOf_flatten (hform : form.Sorted)
    (h : List.Forall₂ (fun e part => Becomes f policy e.1 e.2 part) form parts) (key : Text) :
    (form.lookup key = none ∧ valuesOf key parts.flatten = []) ∨
      ∃ values part, form.lookup key = some values ∧ Becomes f policy key values part ∧
        valuesOf key parts.flatten = valuesOf key part := by
  induction h with
  | nil => exact .inl ⟨rfl, rfl⟩
  | @cons e part form parts hfirst hrest ih =>
      obtain ⟨hlt, hform⟩ := List.pairwise_cons.mp hform
      rw [List.flatten_cons, valuesOf_append]
      by_cases hkey : key = e.1
      · subst hkey
        have hnone : valuesOf e.1 parts.flatten = [] := by
          refine valuesOf_eq_nil fun p hp heq => ?_
          have hlate := hlt _ (mem_flatten_of_becomes hrest p hp).1
          exact List.lt_irrefl e.1 (heq ▸ hlate)
        refine .inr ⟨e.2, part, List.lookup_cons_self, hfirst, ?_⟩
        rw [hnone, List.append_nil]
      · have hnone : valuesOf key part = [] :=
          valuesOf_eq_nil fun p hp heq => hkey (heq ▸ hfirst.key_eq p hp)
        rw [hnone, List.nil_append, Form.lookup_cons_of_ne hkey]
        exact ih hform

end

theorem forall₂_becomes {parts : List (List (Text × Text))}
    (h : (form.mapM fun e => scopeEntry f policy e.1 e.2) = .ok parts) :
    List.Forall₂ (fun e part => Becomes f policy e.1 e.2 part) form parts :=
  (forall₂_of_mapM_eq_ok h).imp fun _ _ => becomes_of_scopeEntry

/-- A scoped form is that with what is required, of which every entry becomes its parameters. -/
theorem scope_eq_ok_cases {params : List (Text × Text)} (hform : form.Sorted)
    (h : scope apiType form f policy = .ok params) :
    ∃ completed parts, required apiType form = .ok completed ∧ completed.Sorted ∧
      (∀ key, completed.lookup key = given apiType form key) ∧ parts.flatten = params ∧
      List.Forall₂ (fun e part => Becomes f policy e.1 e.2 part) completed parts := by
  obtain ⟨completed, hrequired, h⟩ := bind_eq_ok h
  obtain ⟨parts, hparts, h⟩ := bind_eq_ok h
  cases h
  obtain ⟨hsorted, hlookup⟩ := lookup_of_required hform hrequired
  exact ⟨completed, parts, hrequired, hsorted, hlookup, rfl, forall₂_becomes hparts⟩

theorem rendered_of_scope {params : List (Text × Text)} (hform : form.Sorted)
    (h : scope apiType form f policy = .ok params) :
    Rendered f policy apiType form params := by
  obtain ⟨completed, parts, -, hsorted, hlookup, rfl, hbecomes⟩ := scope_eq_ok_cases hform h
  have hcases := valuesOf_flatten hsorted hbecomes
  simp only [hlookup] at hcases
  constructor
  · exact ordered_flatten hsorted hbecomes
  · intro key hkey
    rcases hcases key with ⟨hnone, hvalues⟩ | ⟨values, part, hgiven, hpart, hvalues⟩
    · rw [hnone, hvalues]
      rfl
    · rw [hgiven, hvalues, hpart.valuesOf_copied hkey]
      rfl
  · intro key hkey
    rcases hcases key with ⟨hnone, hvalues⟩ | ⟨values, part, hgiven, hpart, hvalues⟩
    · rw [hnone, hvalues]
      exact .nil
    · rw [hgiven, hvalues]
      exact hpart.scopes_valuesOf hkey
  · intro p hp
    exact (mem_flatten_of_becomes hbecomes p hp).2

/-! Success and failure -/

theorem acceptable_of_scope {params : List (Text × Text)} (hform : form.Sorted)
    (h : scope apiType form f policy = .ok params) : Acceptable f policy apiType form := by
  obtain ⟨completed, parts, hrequired, hsorted, hlookup, -, hbecomes⟩ := scope_eq_ok_cases hform h
  have hpart : ∀ key values, given apiType form key = some values →
      ∃ part, Becomes f policy key values part := by
    intro key values hgiven
    rw [← hlookup, hsorted.lookup_eq_some_iff] at hgiven
    obtain ⟨part, -, hpart⟩ := exists_of_mem_forall₂ hbecomes.flip hgiven
    exact ⟨part, hpart⟩
  constructor
  · exact given_ne_none_of_required hrequired
  · intro values hgiven
    obtain ⟨part, hpart⟩ := hpart _ _ hgiven
    have htexts := hpart.scopes_valuesOf (by decide)
    cases hpart with
    | @query value text htext => exact ⟨value, text, rfl, htext⟩
    | copied hcopied => exact absurd hcopied (by decide)
    | dropped hdropped => exact absurd (by decide) hdropped
  · intro values hgiven value hvalue
    obtain ⟨part, hpart⟩ := hpart _ _ hgiven
    obtain ⟨text, -, htext⟩ := exists_of_mem_forall₂ (hpart.scopes_valuesOf (by decide)).flip hvalue
    exact ⟨text, htext⟩

/-- The entries of a form fail as the entry with the least key fails that has something wrong. -/
theorem scopeEntries_eq_error_iff {e : RequestError} (hform : form.Sorted) :
    (form.mapM fun e => scopeEntry f policy e.1 e.2) = .error e ↔
      ∃ key values, form.lookup key = some values ∧ Offends f policy key values e ∧
        ∀ k < key, ∀ vs, form.lookup k = some vs → ∀ d, ¬Offends f policy k vs d := by
  simp only [hform.lookup_eq_some_iff]
  constructor
  · intro h
    obtain ⟨before, ⟨key, values⟩, after, rfl, hbefore, hentry⟩ := mapM_eq_error_iff.mp h
    refine ⟨key, values, List.mem_append_right _ List.mem_cons_self,
      scopeEntry_eq_error_iff.mp hentry, fun k hk vs hvs d hoffends => ?_⟩
    -- a smaller key stands in front of the entry that failed, where nothing did
    obtain ⟨part, hpart⟩ := hbefore _ ((hform.mem_before_iff hvs).mpr hk)
    rw [scopeEntry_eq_error_iff.mpr hoffends] at hpart
    cases hpart
  · rintro ⟨key, values, hmem, hoffends, hleast⟩
    obtain ⟨before, after, rfl⟩ := List.append_of_mem hmem
    refine mapM_eq_error_iff.mpr ⟨before, (key, values), after, rfl, fun b hb => ?_,
      scopeEntry_eq_error_iff.mpr hoffends⟩
    have hwhole := List.mem_append_left ((key, values) :: after) hb
    cases hentry : scopeEntry f policy b.1 b.2 with
    | ok part => exact ⟨part, rfl⟩
    | error d =>
        exact absurd (scopeEntry_eq_error_iff.mp hentry)
          (hleast b.1 ((hform.mem_before_iff hwhole).mp hb) b.2 hwhole d)

theorem scope_eq_error_iff {e : RequestError} (hform : form.Sorted) :
    scope apiType form f policy = .error e ↔ Rejects f policy apiType form e := by
  constructor
  · intro h
    rcases bind_eq_error h with hrequired | ⟨completed, hrequired, h⟩
    · obtain ⟨hquery, hnone, rfl⟩ := required_eq_error_iff.mp hrequired
      exact .missing hquery hnone
    · rcases bind_eq_error h with hentries | ⟨parts, -, h⟩
      · obtain ⟨hsorted, hlookup⟩ := lookup_of_required hform hrequired
        obtain ⟨key, values, hgiven, hoffends, hleast⟩ :=
          (scopeEntries_eq_error_iff hsorted).mp hentries
        simp only [hlookup] at hgiven hleast
        exact .first (given_ne_none_of_required hrequired) hgiven hoffends hleast
      · cases h
  · intro h
    unfold scope
    cases h with
    | missing hquery hnone =>
        rw [required_eq_error_iff.mpr ⟨hquery, hnone, rfl⟩]
        rfl
    | first hthere hgiven hoffends hleast =>
        cases hrequired : required apiType form with
        | error d =>
            obtain ⟨hquery, hnone, -⟩ := required_eq_error_iff.mp hrequired
            exact absurd hnone (hthere hquery)
        | ok completed =>
            obtain ⟨hsorted, hlookup⟩ := lookup_of_required hform hrequired
            simp only [← hlookup] at hgiven hleast
            have hentries := (scopeEntries_eq_error_iff hsorted).mpr
              ⟨_, _, hgiven, hoffends, hleast⟩
            simp only [bind, Except.bind, hentries]

/-- Nothing offends in front of the selectors, so that an offence of theirs is the first. -/
theorem not_offends_of_lt_matchKey {e : RequestError} (hkey : key < matchKey) :
    ¬Offends f policy key values e := by
  intro h
  cases h with
  | count _ | query _ => exact absurd hkey (by decide)
  | selector _ _ => exact List.lt_irrefl matchKey hkey

theorem Acceptable.not_rejects {e : RequestError} (h : Acceptable f policy apiType form) :
    ¬Rejects f policy apiType form e := by
  intro hrejects
  cases hrejects with
  | missing hquery hnone => exact h.required hquery hnone
  | first _ hgiven hoffends _ =>
      cases hoffends with
      | count hlength =>
          obtain ⟨value, text, rfl, -⟩ := h.query _ hgiven
          exact hlength rfl
      | query herror =>
          obtain ⟨value, text, heq, htext⟩ := h.query _ hgiven
          cases heq
          rw [Scopes, herror] at htext
          cases htext
      | selector _ herror =>
          obtain ⟨text, htext⟩ := h.selectors _ hgiven _
            (List.mem_append_right _ List.mem_cons_self)
          rw [Scopes, herror] at htext
          cases htext

theorem exists_scope_eq_ok_iff (hform : form.Sorted) :
    (∃ params, scope apiType form f policy = .ok params) ↔ Acceptable f policy apiType form := by
  constructor
  · rintro ⟨params, h⟩
    exact acceptable_of_scope hform h
  · intro hacceptable
    cases h : scope apiType form f policy with
    | ok params => exact ⟨params, rfl⟩
    | error e => exact absurd ((scope_eq_error_iff hform).mp h) hacceptable.not_rejects

/-- A form is scoped exactly if it is acceptable, its parameters are then what its values become,
and otherwise the failure is the first one, for which the selectors come before the query. -/
theorem scope_exact (hform : form.Sorted) (apiType : ApiType) (f : Filter) (policy : Policy) :
    ((∃ params, scope apiType form f policy = .ok params) ↔ Acceptable f policy apiType form) ∧
      (∀ params, scope apiType form f policy = .ok params →
        Rendered f policy apiType form params) ∧
      (∀ e, scope apiType form f policy = .error e ↔ Rejects f policy apiType form e) ∧
      ∀ values e, (apiType = .query → given apiType form queryKey ≠ none) →
        given apiType form matchKey = some values → Offends f policy matchKey values e →
        scope apiType form f policy = .error e := by
  refine ⟨exists_scope_eq_ok_iff hform, fun params h => rendered_of_scope hform h,
    fun e => scope_eq_error_iff hform, fun values e hthere hgiven hoffends => ?_⟩
  exact (scope_eq_error_iff hform).mpr (.first hthere hgiven hoffends fun k hk vs _ d =>
    not_offends_of_lt_matchKey hk)

/-- A bad selector is reported although the query is there twice. Two good ones and one query are
rewritten, a time is copied, and what the operation does not know is left out. -/
theorem scope_exact_selector :
    let f := Filter.oneTenant
    let bad : Form := [(matchKey, [['a'], ['(']]), (queryKey, [['a'], ['b']]), (['z'], [])]
    let good : Form := [(matchKey, [['a'], "b[5m]".toList]),
      (queryKey, ["sum(rate(a[5m])) / b".toList]), ("time".toList, [['5']]), (['z'], [['1']])]
    let e := RequestError.unscoped
      (.badQuery ['('] "unexpected input at \"(\" (TakeWhile1)".toList)
    let params := [(matchKey, "a\x7btenant=\"t1\"\x7d".toList),
      (matchKey, "b\x7btenant=\"t1\"\x7d[5m]".toList),
      (queryKey, "sum(rate(a\x7btenant=\"t1\"\x7d[5m])) / b\x7btenant=\"t1\"\x7d".toList),
      ("time".toList, ['5'])]
    (bad.Sorted ∧ Offends f .reject queryKey [['a'], ['b']] (.parameterCount queryKey 2) ∧
      Offends f .reject matchKey [['a'], ['(']] e ∧ Rejects f .reject .query bad e ∧
      scope .query bad f .reject = .error e) ∧
    (good.Sorted ∧ Acceptable f .reject .query good ∧ Rendered f .reject .query good params ∧
      scope .query good f .reject = .ok params) := by
  intro f bad good e params
  have hbad : bad.Sorted := by decide
  have hgood : good.Sorted := by decide
  have hoffends : Offends f .reject matchKey ([['a']] ++ ['('] :: []) e := by
    refine .selector (List.forall_mem_singleton.mpr ⟨"a\x7btenant=\"t1\"\x7d".toList, ?_⟩) ?_
    · decide +kernel
    · decide +kernel
  have hpassed : scope .query good f .reject = .ok params := by decide +kernel
  obtain ⟨-, -, hrejects, hselectors⟩ := scope_exact hbad .query f .reject
  obtain ⟨hacceptable, hrendered, -, -⟩ := scope_exact hgood .query f .reject
  have hfailed := hselectors _ e (fun _ => by decide) (by decide) hoffends
  exact ⟨⟨hbad, .count (by decide), hoffends, (hrejects e).mp hfailed, hfailed⟩,
    hgood, hacceptable.mp ⟨params, hpassed⟩, hrendered params hpassed, hpassed⟩

/-! Under the strict policy -/

/-- What the parameters of a form are under the strict policy. -/
structure Confined (f : Filter) (apiType : ApiType) (params : List (Text × Text)) : Prop where
  keys_sent : ∀ p ∈ params, p.1 ∈ sentKeys
  carries : ∀ p ∈ params, p.1 ∈ scopedKeys → ∃ value, f.scopeQuery .reject value = .ok p.2
  one_query : apiType = .query → (params.map Prod.fst).count queryKey = 1
  some_match : apiType = .series → matchKey ∈ params.map Prod.fst

theorem given_series_ne_nil (hform : form.WellFormed) :
    ∃ values, given .series form matchKey = some values ∧ values ≠ [] := by
  cases hlookup : form.lookup matchKey with
  | none =>
      refine ⟨[everything], ?_, List.cons_ne_nil _ _⟩
      rw [given, hlookup]
      rfl
  | some values =>
      refine ⟨values, ?_, ?_⟩
      · rw [given, hlookup, Option.some_or]
      · have hsorted : form.Sorted := hform.sorted
        exact hform.full _ (hsorted.lookup_eq_some_iff.mp hlookup)

/-- The parameters of a form under the strict policy are those of queries scoped to the filter, and
those that are copied; what an operation requires is among them. -/
theorem scope_eq_ok {params : List (Text × Text)} (hform : form.WellFormed)
    (h : scope apiType form f .reject = .ok params) : Confined f apiType params := by
  have hrendered := rendered_of_scope hform.sorted h
  have hacceptable := acceptable_of_scope hform.sorted h
  constructor
  · exact hrendered.sent
  · intro p hp hkey
    obtain ⟨value, -, hvalue⟩ :=
      exists_of_mem_forall₂ (hrendered.narrowed p.1 hkey) (mem_valuesOf hp)
    exact ⟨value, hvalue⟩
  · intro hquery
    obtain ⟨values, hgiven⟩ := Option.ne_none_iff_exists'.mp (hacceptable.required hquery)
    obtain ⟨value, text, rfl, -⟩ := hacceptable.query values hgiven
    have hnarrowed := hrendered.narrowed queryKey (by decide)
    rw [hgiven] at hnarrowed
    rw [← length_valuesOf, ← hnarrowed.length_eq]
    rfl
  · rintro rfl
    obtain ⟨values, hgiven, hne⟩ := given_series_ne_nil hform
    have hnarrowed := hrendered.narrowed matchKey (by decide)
    rw [hgiven] at hnarrowed
    rw [← List.count_pos_iff, ← length_valuesOf, ← hnarrowed.length_eq]
    exact List.length_pos_iff.mpr hne

end Params
end TenantScope
