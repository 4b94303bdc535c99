/- Exactly the listed operations are served, and every path is split and classified in one way. -/
import TenantScope.Proofs.Http.Route

namespace TenantScope

open Query

/-! Operations -/

/-- The paths of the operations that name no label. -/
def ApiType.paths : ApiType → List Text
  | .query =>
    ["/api/v1/query".toList, "/api/v1/query_range".toList, "/api/v1/query_exemplars".toList]
  | .series => ["/api/v1/series".toList, "/api/v1/labels".toList]
  | .plain => ["/api/v1/format_query".toList]

/-- The paths that are served, by the way in which their operations carry queries. -/
inductive ApiType.Serves : ApiType → Text → Prop
  | listed {apiType : ApiType} {apiPath : Text} : apiPath ∈ apiType.paths → Serves apiType apiPath
  | labelValues {label : Text} :
    label ≠ [] → (∀ c ∈ label, c.isAlphanum = true ∨ c = '_') →
      Serves .series ("/api/v1/label/".toList ++ label ++ "/values".toList)

theorem isLabelChar_iff {c : Char} : isLabelChar c = true ↔ c.isAlphanum = true ∨ c = '_' := by
  rw [isLabelChar, Bool.or_eq_true, beq_iff_eq]

theorem ApiPath.serves {apiType : ApiType} {apiPath : Text} (h : ApiPath apiType apiPath) :
    apiType.Serves apiPath := by
  have hquery : ∀ operation ∈ Route.queryOperations,
      "/api/v1/".toList ++ operation ∈ ApiType.query.paths := by decide
  have hseries : ∀ operation ∈ Route.seriesOperations,
      "/api/v1/".toList ++ operation ∈ ApiType.series.paths := by decide
  have hplain : ∀ operation ∈ Route.plainOperations,
      "/api/v1/".toList ++ operation ∈ ApiType.plain.paths := by decide
  cases h with
  | query hmem => exact .listed (hquery _ hmem)
  | series hmem => exact .listed (hseries _ hmem)
  | labelValues hne hchars => exact .labelValues hne fun c hc => isLabelChar_iff.mp (hchars c hc)
  | plain hmem => exact .listed (hplain _ hmem)

/-- The name of a label is read up to the slash behind it. -/
theorem Route.dropLabelValues?_append {label : Text} (hne : label ≠ [])
    (hchars : ∀ c ∈ label, isLabelChar c = true) :
    dropLabelValues? ("label/".toList ++ (label ++ "/values".toList)) = some [] := by
  have hstop : Text.StopsAt isLabelChar "/values".toList := .cons rfl
  unfold dropLabelValues?
  simp only [Text.dropLead?_append, Option.bind_eq_bind, Option.bind_some,
    Text.takeWhile_append hchars hstop, Text.dropWhile_append hchars hstop, if_neg hne]
  rfl

/-- No operation is lost to another one that is tried before it. -/
theorem ApiType.Serves.apiType? {apiType : ApiType} {apiPath : Text}
    (h : apiType.Serves apiPath) : Route.apiType? apiPath = some apiType := by
  cases h with
  | listed hmem =>
      have hpaths : ∀ apiPath ∈ apiType.paths, Route.apiType? apiPath = some apiType := by
        cases apiType <;> decide
      exact hpaths apiPath hmem
  | @labelValues label hne hchars =>
      have hlabel := Route.dropLabelValues?_append hne fun c hc => isLabelChar_iff.mpr (hchars c hc)
      -- the name of a label is left to the operation that is tried last
      have hquery : Route.dropOperation? Route.queryOperations
          ("label/".toList ++ (label ++ "/values".toList)) = none := rfl
      have hseries : Route.dropOperation? Route.seriesOperations
          ("label/".toList ++ (label ++ "/values".toList)) = none := rfl
      have hoperation : Route.operation? ("label/".toList ++ (label ++ "/values".toList)) =
          some (.series, []) := by
        rw [Route.operation?, hquery, hseries, hlabel]
        rfl
      have hapi : "/api/v1/label/".toList ++ label ++ "/values".toList =
          "/api/v1/".toList ++ ("label/".toList ++ (label ++ "/values".toList)) := rfl
      rw [Route.apiType?, hapi, Text.dropLead?_append]
      simp only [Option.bind_eq_bind, Option.bind_some, hoperation, if_true]

theorem Route.apiType?_eq_some_iff {apiType : ApiType} {apiPath : Text} :
    Route.apiType? apiPath = some apiType ↔ apiType.Serves apiPath :=
  ⟨fun h => (apiPath_of_apiType? h).serves, ApiType.Serves.apiType?⟩

/-! Splits -/

theorem Route.Splits.split? {path tenant apiPath : Text} (h : Splits path tenant apiPath) :
    Route.split? path = some (tenant, apiPath) := by
  obtain ⟨c, rest, hapi⟩ := h.versioned
  obtain ⟨d, tenant', htenant⟩ := List.exists_cons_of_ne_nil h.nonempty
  have hchars : ∀ d ∈ tenant, decide (d ≠ '/') = true :=
    fun d hd => decide_eq_true fun heq => h.segment (heq ▸ hd)
  have hstop : Text.StopsAt (fun d => decide (d ≠ '/')) apiPath := by
    rw [hapi]
    exact .cons rfl
  have hlead : Text.dropLead? "/api/v".toList apiPath = some (c :: rest) := by
    rw [hapi, Text.dropLead?_append]
  rw [h.joined, List.cons_append]
  simp only [Route.split?, Text.takeWhile_append hchars hstop, Text.dropWhile_append hchars hstop,
    hlead]
  rw [htenant]

theorem Route.Splits.unique {path tenant apiPath tenant' apiPath' : Text}
    (h : Splits path tenant apiPath) (h' : Splits path tenant' apiPath') :
    tenant = tenant' ∧ apiPath = apiPath' := by
  have hsome := h.split?.symm.trans h'.split?
  exact Prod.mk.inj (Option.some.inj hsome)

/-! Classification -/

/-- What a path comes to: its route if a served operation stands behind the first segment, and
otherwise the part of it that is refused. -/
inductive Route.Classifies (path : Text) : Except RequestError Route → Prop
  | served {tenant apiPath : Text} {apiType : ApiType} :
    Splits path tenant apiPath → apiType.Serves apiPath →
      Classifies path (.ok ⟨tenant, apiPath, apiType⟩)
  | unserved {tenant apiPath : Text} :
    Splits path tenant apiPath → (∀ apiType : ApiType, ¬apiType.Serves apiPath) →
      Classifies path (.error (.badPath apiPath))
  | unsplit : (∀ tenant apiPath, ¬Splits path tenant apiPath) →
      Classifies path (.error (.badTarget path))

theorem Route.classifies_ofPath (path : Text) : Classifies path (ofPath path) := by
  unfold ofPath
  split
  · next hnone =>
    refine .unsplit fun tenant apiPath h => ?_
    rw [h.split?] at hnone
    cases hnone
  · next tenant apiPath hsplit =>
    have hsplits := splits_of_split? hsplit
    split
    · next hnone =>
      refine .unserved hsplits fun apiType h => ?_
      rw [h.apiType?] at hnone
      cases hnone
    · next apiType htype => exact .served hsplits (apiType?_eq_some_iff.mp htype)

theorem Route.Classifies.ofPath_eq {path : Text} {r : Except RequestError Route}
    (h : Classifies path r) : ofPath path = r := by
  cases h with
  | served hsplits hserves => simp only [ofPath, hsplits.split?, hserves.apiType?]
  | @unserved tenant apiPath hsplits hnone =>
      have htype : Route.apiType? apiPath = none :=
        Option.eq_none_iff_forall_ne_some.mpr fun apiType h =>
          hnone apiType (apiType?_eq_some_iff.mp h)
      simp only [ofPath, hsplits.split?, htype]
  | unsplit hnone =>
      have hsplit : Route.split? path = none :=
        Option.eq_none_iff_forall_ne_some.mpr fun s h => hnone s.1 s.2 (splits_of_split? h)
      simp only [ofPath, hsplit]

theorem Route.ofPath_eq_iff {path : Text} {r : Except RequestError Route} :
    ofPath path = r ↔ Classifies path r :=
  ⟨fun h => h ▸ classifies_ofPath path, Classifies.ofPath_eq⟩

/-- What is served has a version, so that its path is split in front of it. -/
theorem ApiType.Serves.versioned {apiType : ApiType} {apiPath : Text} (h : apiType.Serves apiPath) :
    ∃ c rest, apiPath = "/api/v".toList ++ c :: rest := by
  obtain ⟨s, hlead, -⟩ := Option.bind_eq_some_iff.mp h.apiType?
  have hapi : apiPath = "/api/v1/".toList ++ s := Text.dropLead?_eq_some hlead
  exact ⟨'1', '/' :: s, hapi⟩

/-- A path is classified as an operation exactly when it is a first segment with the path of a
served operation behind it. It is refused for its operation exactly when the path of another
operation in some version of the API stands there, and for its shape exactly when it has no such
split; no path has two. -/
theorem Route.ofPath_exact (path : Text) :
    (∀ route : Route, ofPath path = .ok route ↔
      path = '/' :: route.tenant ++ route.apiPath ∧ route.tenant ≠ [] ∧ '/' ∉ route.tenant ∧
        route.apiType.Serves route.apiPath) ∧
    (∀ apiPath, ofPath path = .error (.badPath apiPath) ↔
      (∃ tenant, Splits path tenant apiPath) ∧ ∀ apiType : ApiType, ¬apiType.Serves apiPath) ∧
    (ofPath path = .error (.badTarget path) ↔ ∀ tenant apiPath, ¬Splits path tenant apiPath) ∧
    ∀ tenant apiPath tenant' apiPath', Splits path tenant apiPath → Splits path tenant' apiPath' →
      tenant = tenant' ∧ apiPath = apiPath' := by
  simp only [ofPath_eq_iff]
  refine ⟨fun route => ⟨fun h => ?_, ?_⟩, fun apiPath => ⟨fun h => ?_, ?_⟩, ⟨fun h => ?_, .unsplit⟩,
    fun _ _ _ _ h h' => h.unique h'⟩
  · cases h with
    | served hsplits hserves =>
        exact ⟨hsplits.joined, hsplits.nonempty, hsplits.segment, hserves⟩
  · rintro ⟨hjoined, hnonempty, hsegment, hserves⟩
    exact .served ⟨hjoined, hnonempty, hsegment, hserves.versioned⟩ hserves
  · cases h with
    | unserved hsplits hnone => exact ⟨⟨_, hsplits⟩, hnone⟩
  · rintro ⟨⟨tenant, hsplits⟩, hnone⟩
    exact .unserved hsplits hnone
  · cases h with
    | unsplit hnone => exact hnone

end TenantScope
