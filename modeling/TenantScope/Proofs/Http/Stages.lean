/- The stages of a request, of which the first one that fails decides. -/
import TenantScope.Http.Proxy
import TenantScope.Proofs.Http.Params
import TenantScope.Proofs.Text.Split

namespace TenantScope

/-! Errors that are the caller's -/

/-- An error that is found before anything is sent. -/
structure RequestError.IsRefusal (e : RequestError) : Prop where
  status : e.status = 400
  errorType : e.errorType = "bad_data".toList

theorem Route.isRefusal_of_ofPath {path : Text} {e : RequestError}
    (h : Route.ofPath path = .error e) : e.IsRefusal := by
  unfold Route.ofPath at h
  split at h
  · cases h
    exact ⟨rfl, rfl⟩
  · split at h
    · cases h
      exact ⟨rfl, rfl⟩
    · cases h

namespace Params

variable {f : Filter} {policy : Policy} {e : RequestError}

theorem Offends.isRefusal {key : Text} {values : List Text} (h : Offends f policy key values e) :
    e.IsRefusal := by
  cases h <;> exact ⟨rfl, rfl⟩

theorem isRefusal_of_scope {apiType : ApiType} {form : Form}
    (h : scope apiType form f policy = .error e) : e.IsRefusal := by
  rcases bind_eq_error h with hrequired | ⟨completed, -, h⟩
  · obtain ⟨-, -, rfl⟩ := required_eq_error_iff.mp hrequired
    exact ⟨rfl, rfl⟩
  · rcases bind_eq_error h with hentries | ⟨parts, -, h⟩
    · obtain ⟨-, _, -, -, -, hentry⟩ := mapM_eq_error_iff.mp hentries
      exact (scopeEntry_eq_error_iff.mp hentry).isRefusal
    · cases h

end Params

/-! Forms in bodies -/

namespace Request

/-- A post whose first content type can be read as text and is, up to its first semicolon and but
for blanks around it and ASCII case, the type of forms. -/
structure PostsForm (r : Request) : Prop where
  method : r.method = "POST".toList
  formType : ∃ value, (valuesOf Headers.typeName r.headers).head? = some value ∧
    isReadable value = true ∧
    Text.lower (Text.trim (value.takeWhile (· != ';'))) = Text.lower formType

/-- The octets that a request is read to carry: its body if it posts a form, and else none. -/
inductive Carries (r : Request) : Bytes → Prop
  | form : r.PostsForm → r.body.length ≤ maxFormBytes → Carries r r.body
  | nothing : ¬r.PostsForm → Carries r []

theorem isForm_iff {r : Request} :
    r.isForm = true ↔ ∃ value, (valuesOf Headers.typeName r.headers).head? = some value ∧
      isReadable value = true ∧
      Text.lower (Text.trim (value.takeWhile (· != ';'))) = Text.lower formType := by
  have hlower : Text.lower formType = formType := by decide
  rw [isForm, Headers.get?_eq_head?, hlower]
  cases (valuesOf Headers.typeName r.headers).head? with
  | none => simp only [Bool.false_eq_true, reduceCtorEq, false_and, exists_false]
  | some value =>
      simp only [splitFirst_fst, Bool.and_eq_true, beq_iff_eq, Option.some.injEq, exists_eq_left',
        bne]

theorem postsForm_iff {r : Request} :
    r.PostsForm ↔ r.method = "POST".toList ∧ r.isForm = true :=
  ⟨fun h => ⟨h.method, isForm_iff.mpr h.formType⟩, fun h => ⟨h.1, isForm_iff.mp h.2⟩⟩

theorem Carries.formBody {r : Request} {bytes : Bytes} (h : r.Carries bytes) :
    r.formBody = .ok bytes := by
  unfold Request.formBody
  cases h with
  | form hposts hle => rw [if_pos (postsForm_iff.mp hposts), if_neg (Nat.not_lt.mpr hle)]
  | nothing hposts => rw [if_neg (fun h => hposts (postsForm_iff.mpr h))]

theorem formBody_of_tooLong {r : Request} (h : r.PostsForm)
    (hlt : maxFormBytes < r.body.length) :
    r.formBody = .error (.badForm "length limit exceeded".toList) := by
  rw [formBody, if_pos (postsForm_iff.mp h), if_pos hlt]

/-! Stages -/

/-- The method is answered and the path can be decoded. -/
structure Located (r : Request) (path : Text) : Prop where
  method : r.method ∈ Proxy.methods
  decoded : r.target.decodedPath? = some path

/-- The path is that of an operation. -/
structure Routed (r : Request) (path : Text) (route : Route) : Prop extends r.Located path where
  classified : Route.ofPath path = .ok route

end Request

namespace Proxy

/-- The tenant in the path has a filter. -/
structure Filtered (p : Proxy) (r : Request) (path : Text) (route : Route) (f : Filter) : Prop
    extends r.Routed path route where
  filtered : Filter.ofTenant route.tenant p.tenantLabel = .ok f

/-- The form of a request is complete. -/
structure Gathered (p : Proxy) (r : Request) (path : Text) (route : Route) (f : Filter)
    (bytes : Bytes) : Prop extends p.Filtered r path route f where
  body : r.Carries bytes

/-- A request fails at some stage, with the given error, and at none before it. -/
inductive Refuses (p : Proxy) (r : Request) : RequestError → Prop
  | method : r.method ∉ methods → Refuses p r (.badMethod r.method)
  | path : r.method ∈ methods → r.target.decodedPath? = none →
    Refuses p r (.badTarget r.target.path)
  | route {path : Text} {e : RequestError} :
    r.Located path → Route.ofPath path = .error e → Refuses p r e
  | filter {path : Text} {route : Route} {e : ScopeError} :
    r.Routed path route → Filter.ofTenant route.tenant p.tenantLabel = .error e →
      Refuses p r (.unscoped e)
  | body {path : Text} {route : Route} {f : Filter} :
    p.Filtered r path route f → r.PostsForm → Request.maxFormBytes < r.body.length →
      Refuses p r (.badForm "length limit exceeded".toList)
  | params {path : Text} {route : Route} {f : Filter} {bytes : Bytes} {e : RequestError} :
    p.Gathered r path route f bytes →
      Params.scope route.apiType (Form.ofParts bytes r.target.query) f p.policy = .error e →
        Refuses p r e

/-- A request passes all stages and is to be answered by an operation with some parameters. -/
inductive Accepts (p : Proxy) (r : Request) (apiPath : Text) (params : List (Text × Text)) : Prop
  | intro {path : Text} {route : Route} {f : Filter} {bytes : Bytes} :
    p.Gathered r path route f bytes → route.apiPath = apiPath →
      Params.scope route.apiType (Form.ofParts bytes r.target.query) f p.policy = .ok params →
        Accepts p r apiPath params

/-- The plan for a request whose path can be decoded. -/
theorem plan_of_located (p : Proxy) {r : Request} {path : Text} (h : r.Located path) :
    p.plan r = do
      let route ← Route.ofPath path
      let filter ← (Filter.ofTenant route.tenant p.tenantLabel).mapError .unscoped
      let body ← r.formBody
      let params ← Params.scope route.apiType (Form.ofParts body r.target.query) filter p.policy
      return p.backend.forCall p.pathHead route.apiPath params := by
  unfold plan
  rw [if_neg (not_not.mpr h.method), h.decoded]
  rfl

/-- One of the stages fails first, or none does. -/
theorem refuses_or_accepts (p : Proxy) (r : Request) :
    (∃ e, p.Refuses r e) ∨ ∃ apiPath params, p.Accepts r apiPath params := by
  by_cases hmethod : r.method ∈ methods
  · cases hpath : r.target.decodedPath? with
    | none => exact .inl ⟨_, .path hmethod hpath⟩
    | some path =>
      have hlocated : r.Located path := ⟨hmethod, hpath⟩
      cases hroute : Route.ofPath path with
      | error e => exact .inl ⟨e, .route hlocated hroute⟩
      | ok route =>
        have hrouted : r.Routed path route := ⟨hlocated, hroute⟩
        cases hfilter : Filter.ofTenant route.tenant p.tenantLabel with
        | error e => exact .inl ⟨_, .filter hrouted hfilter⟩
        | ok f =>
          have hfiltered : p.Filtered r path route f := ⟨hrouted, hfilter⟩
          by_cases hlong : r.PostsForm ∧ Request.maxFormBytes < r.body.length
          · exact .inl ⟨_, .body hfiltered hlong.1 hlong.2⟩
          · obtain ⟨bytes, hbytes⟩ : ∃ bytes, r.Carries bytes := by
              by_cases hposts : r.PostsForm
              · exact ⟨_, .form hposts (Nat.not_lt.mp fun hlt => hlong ⟨hposts, hlt⟩)⟩
              · exact ⟨_, .nothing hposts⟩
            have hgathered : p.Gathered r path route f bytes := ⟨hfiltered, hbytes⟩
            cases hparams : Params.scope route.apiType (Form.ofParts bytes r.target.query) f
                p.policy with
            | error e => exact .inl ⟨e, .params hgathered hparams⟩
            | ok params => exact .inr ⟨_, params, .intro hgathered rfl hparams⟩
  · exact .inl ⟨_, .method hmethod⟩

theorem Refuses.plan {p : Proxy} {r : Request} {e : RequestError} (h : p.Refuses r e) :
    p.plan r = .error e := by
  cases h with
  | method hmethod =>
      unfold Proxy.plan
      rw [if_pos hmethod]
      rfl
  | path hmethod hpath =>
      unfold Proxy.plan
      rw [if_neg (not_not.mpr hmethod), hpath]
      rfl
  | route hlocated hroute =>
      rw [p.plan_of_located hlocated, hroute]
      rfl
  | filter hrouted hfilter =>
      rw [p.plan_of_located hrouted.toLocated, hrouted.classified]
      simp only [bind, Except.bind, hfilter, Except.mapError]
  | body hfiltered hposts hlong =>
      rw [p.plan_of_located hfiltered.toLocated, hfiltered.classified]
      simp only [bind, Except.bind, hfiltered.filtered, Except.mapError,
        Request.formBody_of_tooLong hposts hlong]
  | params hgathered hparams =>
      rw [p.plan_of_located hgathered.toLocated, hgathered.classified]
      simp only [bind, Except.bind, hgathered.filtered, Except.mapError, hgathered.body.formBody,
        hparams]

theorem Accepts.plan {p : Proxy} {r : Request} {apiPath : Text} {params : List (Text × Text)}
    (h : p.Accepts r apiPath params) :
    p.plan r = .ok (p.backend.forCall p.pathHead apiPath params) := by
  obtain ⟨hgathered, rfl, hparams⟩ := h
  rw [p.plan_of_located hgathered.toLocated, hgathered.classified]
  simp only [bind, Except.bind, hgathered.filtered, Except.mapError, hgathered.body.formBody,
    hparams, pure, Except.pure]

theorem Refuses.isRefusal {p : Proxy} {r : Request} {e : RequestError} (h : p.Refuses r e) :
    e.IsRefusal := by
  cases h with
  | method hmethod => exact ⟨rfl, rfl⟩
  | path hmethod hpath => exact ⟨rfl, rfl⟩
  | route hlocated hroute => exact Route.isRefusal_of_ofPath hroute
  | filter hrouted hfilter => exact ⟨rfl, rfl⟩
  | body hfiltered hposts hlong => exact ⟨rfl, rfl⟩
  | params hgathered hparams => exact Params.isRefusal_of_scope hparams

end Proxy
end TenantScope
