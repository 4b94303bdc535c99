/- What a path that is served looks like. -/
import TenantScope.Http.Route
import TenantScope.Proofs.Net.UrlPath
import TenantScope.Proofs.Query.Names

namespace TenantScope

open Query

/-- The paths of the operations that are served, by the way in which they carry their queries. -/
inductive ApiPath : ApiType → Text → Prop
  | query {operation : Text} :
    operation ∈ Route.queryOperations → ApiPath .query ("/api/v1/".toList ++ operation)
  | series {operation : Text} :
    operation ∈ Route.seriesOperations → ApiPath .series ("/api/v1/".toList ++ operation)
  | labelValues {label : Text} :
    label ≠ [] → (∀ c ∈ label, isLabelChar c = true) →
      ApiPath .series ("/api/v1/label/".toList ++ label ++ "/values".toList)
  | plain {operation : Text} :
    operation ∈ Route.plainOperations → ApiPath .plain ("/api/v1/".toList ++ operation)

/-! Classification -/

theorem Route.exists_of_dropOperation? {operations : List Text} {s rest : Text}
    (h : Route.dropOperation? operations s = some rest) :
    ∃ operation ∈ operations, s = operation ++ rest := by
  obtain ⟨operation, hmem, hdrop⟩ := List.exists_of_findSome?_eq_some h
  exact ⟨operation, hmem, Text.dropLead?_eq_some hdrop⟩

theorem Route.exists_of_dropLabelValues? {s rest : Text}
    (h : Route.dropLabelValues? s = some rest) :
    ∃ label, s = "label/".toList ++ label ++ "/values".toList ++ rest ∧ label ≠ [] ∧
      ∀ c ∈ label, isLabelChar c = true := by
  obtain ⟨t, hlead, h⟩ := Option.bind_eq_some_iff.mp h
  split at h
  · cases h
  · next hne =>
    refine ⟨t.takeWhile isLabelChar, ?_, hne, fun c hc => List.mem_takeWhile_imp hc⟩
    rw [Text.dropLead?_eq_some hlead, List.append_assoc, List.append_assoc,
      ← Text.dropLead?_eq_some h, List.takeWhile_append_dropWhile]

/-- What is read as an operation is one of the operations of its type, and what follows it. -/
theorem Route.apiPath_of_operation? {s rest : Text} {apiType : ApiType}
    (h : Route.operation? s = some (apiType, rest)) :
    ∃ operation, s = operation ++ rest ∧ ApiPath apiType ("/api/v1/".toList ++ operation) := by
  rcases Option.or_eq_some_iff.mp h with h | ⟨-, h⟩
  · obtain ⟨_, hdrop, heq⟩ := Option.map_eq_some_iff.mp h
    cases heq
    obtain ⟨operation, hmem, hs⟩ := exists_of_dropOperation? hdrop
    exact ⟨operation, hs, .query hmem⟩
  rcases Option.or_eq_some_iff.mp h with h | ⟨-, h⟩
  · obtain ⟨_, hdrop, heq⟩ := Option.map_eq_some_iff.mp h
    cases heq
    rcases Option.or_eq_some_iff.mp hdrop with hdrop | ⟨-, hdrop⟩
    · obtain ⟨operation, hmem, hs⟩ := exists_of_dropOperation? hdrop
      exact ⟨operation, hs, .series hmem⟩
    · obtain ⟨label, hs, hne, hchars⟩ := exists_of_dropLabelValues? hdrop
      exact ⟨_, hs, .labelValues hne hchars⟩
  · obtain ⟨_, hdrop, heq⟩ := Option.map_eq_some_iff.mp h
    cases heq
    obtain ⟨operation, hmem, hs⟩ := exists_of_dropOperation? hdrop
    exact ⟨operation, hs, .plain hmem⟩

theorem Route.apiPath_of_apiType? {apiPath : Text} {apiType : ApiType}
    (h : Route.apiType? apiPath = some apiType) : ApiPath apiType apiPath := by
  obtain ⟨s, hlead, h⟩ := Option.bind_eq_some_iff.mp h
  obtain ⟨⟨apiType', rest⟩, hoperation, h⟩ := Option.bind_eq_some_iff.mp h
  dsimp only at h
  split at h
  · next hrest =>
    cases h
    obtain ⟨operation, hs, hapi⟩ := apiPath_of_operation? hoperation
    rw [Text.dropLead?_eq_some hlead, hs, hrest, List.append_nil]
    exact hapi
  · cases h

/-- A path made of a first segment and of the path of an operation in some version of the API. -/
structure Route.Splits (path tenant apiPath : Text) : Prop where
  joined : path = '/' :: tenant ++ apiPath
  nonempty : tenant ≠ []
  segment : '/' ∉ tenant
  versioned : ∃ c rest, apiPath = "/api/v".toList ++ c :: rest

theorem Route.splits_of_split? {path tenant apiPath : Text}
    (h : Route.split? path = some (tenant, apiPath)) : Route.Splits path tenant apiPath := by
  unfold Route.split? at h
  split at h
  · next s =>
    dsimp only at h
    split at h
    · next c rest d more htenant hapi =>
      cases h
      refine ⟨?_, fun hnil => ?_, fun hmem => ?_, d, more, Text.dropLead?_eq_some hapi⟩
      · rw [List.cons_append, List.takeWhile_append_dropWhile]
      · rw [hnil] at htenant
        cases htenant
      · exact absurd (List.mem_takeWhile_imp hmem) (by decide)
    · cases h
  · cases h

/-- A path is classified by its first segment and by the path of the operation behind it. -/
theorem Route.ofPath_eq_ok {path : Text} {route : Route} (h : Route.ofPath path = .ok route) :
    path = '/' :: route.tenant ++ route.apiPath ∧ '/' ∉ route.tenant ∧
      ApiPath route.apiType route.apiPath := by
  unfold Route.ofPath at h
  split at h
  · cases h
  · next tenant apiPath hsplit =>
    split at h
    · cases h
    · next apiType htype =>
      cases h
      have hsplits := splits_of_split? hsplit
      exact ⟨hsplits.joined, hsplits.segment, apiPath_of_apiType? htype⟩

/-! Segments of API paths -/

theorem toLower_of_isLabelChar {c : Char} (h : isLabelChar c = true) :
    c.toLower ≠ '.' ∧ c.toLower ≠ '%' := by
  cases hupper : c.isUpper with
  | true =>
      have hcode := Text.toNat_toLower_of_isUpper hupper
      have hlow := (Text.isUpper_iff_toNat.mp hupper).1
      constructor
      · intro heq
        have hdot : c.toLower.toNat = 46 := congrArg Char.toNat heq
        omega
      · intro heq
        have hpercent : c.toLower.toNat = 37 := congrArg Char.toNat heq
        omega
  | false =>
      rw [Text.toLower_of_not_isUpper hupper]
      constructor
      · rintro rfl
        cases h
      · rintro rfl
        cases h

theorem isSolid_of_isLabelChar {segment : Text} (h : ∀ c ∈ segment, isLabelChar c = true) :
    Url.isSolid segment = true := by
  have hnot : '.' ∉ Text.lower segment ∧ '%' ∉ Text.lower segment := by
    constructor
    · intro hmem
      obtain ⟨c, hc, heq⟩ := List.mem_map.mp hmem
      exact (toLower_of_isLabelChar (h c hc)).1 heq
    · intro hmem
      obtain ⟨c, hc, heq⟩ := List.mem_map.mp hmem
      exact (toLower_of_isLabelChar (h c hc)).2 heq
  generalize hlower : Text.lower segment = lower at hnot
  simp only [Url.isSolid_eq_true, Url.isSingleDot, Url.isDoubleDot, hlower, decide_eq_false_iff_not,
    List.mem_cons, List.not_mem_nil, or_false, not_or]
  refine ⟨⟨?_, ?_⟩, ?_, ?_, ?_, ?_⟩ <;> rintro rfl <;> revert hnot <;> decide

theorem isPathChar_of_isLabelChar {c : Char} (h : isLabelChar c = true) :
    Url.isPathChar c = true ∧ SchemeKind.web.isSlash c = false := by
  have hgraph : Url.isGraph c = true := by
    rw [isLabelChar, Bool.or_eq_true, beq_iff_eq] at h
    rcases h with h | rfl
    · obtain ⟨hlow, hhigh⟩ := Text.toNat_of_isAlphanum h
      rw [Url.isGraph, Bool.and_eq_true, decide_eq_true_eq, decide_eq_true_eq]
      exact ⟨by omega, by omega⟩
    · rfl
  have hencoded : ∀ d ∈ ['"', '#', '<', '>', '?', '\x60', '\x7b', '\x7d'],
      isLabelChar d = false := by decide
  have hslashes : ∀ d ∈ ['/', '\\'], isLabelChar d = false := by decide
  constructor
  · rw [Url.isPathChar, hgraph, Bool.true_and, Bool.not_eq_true', ← Bool.not_eq_true,
      List.contains_iff_mem]
    intro hmem
    rw [hencoded c hmem] at h
    cases h
  · rw [← Bool.not_eq_true]
    intro hslash
    have hmem : c ∈ ['/', '\\'] := by
      simpa [SchemeKind.isSlash] using hslash
    rw [hslashes c hmem] at h
    cases h

theorem isPlainSegment_of_isLabelChar {segment : Text}
    (h : ∀ c ∈ segment, isLabelChar c = true) : Url.isPlainSegment segment = true := by
  rw [Url.isPlainSegment, isSolid_of_isLabelChar h, Bool.true_and, List.all_eq_true]
  intro c hc
  obtain ⟨hpath, hslash⟩ := isPathChar_of_isLabelChar (h c hc)
  rw [hpath, hslash]
  rfl

/-- The path of an operation is made of plain segments. -/
theorem ApiPath.exists_slashed {apiType : ApiType} {apiPath : Text} (h : ApiPath apiType apiPath) :
    ∃ segments, apiPath = Url.slashed segments ∧ segments ≠ [] ∧
      ∀ segment ∈ segments, Url.isPlainSegment segment = true := by
  have hlisted : ∀ operation : Text, operation ∈ Route.queryOperations ++
      Route.seriesOperations ++ Route.plainOperations → Url.isPlainSegment operation = true := by
    decide
  have hone : ∀ operation : Text, Url.isPlainSegment operation = true →
      ∃ segments, "/api/v1/".toList ++ operation = Url.slashed segments ∧ segments ≠ [] ∧
        ∀ segment ∈ segments, Url.isPlainSegment segment = true := by
    intro operation hplain
    refine ⟨["api".toList, "v1".toList, operation], ?_, List.cons_ne_nil _ _, ?_⟩
    · simp [Url.slashed]
    · intro segment hmem
      simp only [List.mem_cons, List.not_mem_nil, or_false] at hmem
      rcases hmem with rfl | rfl | rfl
      · decide
      · decide
      · exact hplain
  cases h with
  | query hmem =>
      exact hone _ (hlisted _ (List.mem_append_left _ (List.mem_append_left _ hmem)))
  | series hmem =>
      exact hone _ (hlisted _ (List.mem_append_left _ (List.mem_append_right _ hmem)))
  | plain hmem => exact hone _ (hlisted _ (List.mem_append_right _ hmem))
  | labelValues hne hchars =>
      next label =>
      refine ⟨["api".toList, "v1".toList, "label".toList, label, "values".toList], ?_,
        List.cons_ne_nil _ _, ?_⟩
      · simp [Url.slashed]
      · intro segment hmem
        simp only [List.mem_cons, List.not_mem_nil, or_false] at hmem
        rcases hmem with rfl | rfl | rfl | rfl | rfl
        · decide
        · decide
        · decide
        · exact isPlainSegment_of_isLabelChar hchars
        · decide

end TenantScope
