/- Every call of the backend is confined to the tenant whose path was asked for. -/
import TenantScope.Proofs.Http.Form
import TenantScope.Proofs.Http.Params
import TenantScope.Proofs.Http.Route
import TenantScope.Proofs.Http.Stages
import TenantScope.Proofs.Net.UrlReader
import TenantScope.Proofs.Scope.Acceptance

namespace TenantScope

open Query

/-! Calls -/

/-- The keys and values that the query string of a URL is decoded to. -/
def Url.parameters (u : Url) : List (Text × Text) := Form.pairs (Utf8.encode (u.query.getD []))

/-- The path of a request leads to a route, whose tenant has a filter. -/
structure Proxy.Serves (p : Proxy) (r : Request) (route : Route) (f : Filter) : Prop where
  path : r.target.decodedPath? = some ('/' :: route.tenant ++ route.apiPath)
  one_segment : '/' ∉ route.tenant
  api : ApiPath route.apiType route.apiPath
  filter : Filter.ofTenant route.tenant p.tenantLabel = .ok f

/-- A tree of which every selector carries every matcher of a filter. -/
def Filter.Confines (f : Filter) (e : Expr) : Prop :=
  ∀ d : Expr, d.Occurs e → ∀ s, d.ownSelector? = some s → ∀ m ∈ f.matchers, m ∈ s.allMatchers

/-- A URL calls the operation of a route and asks for nothing that a filter does not leave. -/
structure Url.Confined (url : Url) (front : Text) (route : Route) (f : Filter) : Prop where
  path : url.path = front ++ route.apiPath
  keys : ∀ p ∈ url.parameters, p.1 ∈ Params.sentKeys
  selectors : ∀ p ∈ url.parameters, p.1 ∈ Params.scopedKeys →
    ∃ e, Query.read p.2 = .ok e ∧ f.Confines e
  one_query : route.apiType = .query → (url.parameters.map Prod.fst).count Params.queryKey = 1
  some_match : route.apiType = .series → Params.matchKey ∈ url.parameters.map Prod.fst

theorem Url.parameters_forCall (backend : Url) (pathHead apiPath : Text)
    (params : List (Text × Text)) :
    (backend.forCall pathHead apiPath params).parameters = params := by
  rw [Url.parameters, Url.forCall]
  dsimp only
  split
  · next hnil =>
    rw [hnil]
    rfl
  · exact Form.pairs_encode params

/-- A text that is scoped under the strict policy is read as a confined tree. -/
theorem Filter.confines_of_scopeQuery {f : Filter} {query text : Text}
    (h : f.scopeQuery .reject query = .ok text) :
    ∃ e, Query.read text = .ok e ∧ f.Confines e := by
  obtain ⟨e, hread, hcarry⟩ := f.read_scoped h
  exact ⟨e, hread, fun d hd s hs => hcarry s (Expr.mem_selectors_iff.mpr ⟨d, hd, hs⟩)⟩

/-! Plans -/

namespace Proxy

/-- Only what is planned is called. -/
theorem plan_of_mem_calls {p : Proxy} {send : Url → Except CallFailure BackendAnswer} {r : Request}
    {url : Url} (h : url ∈ (p.handle send r).calls) : p.plan r = .ok url := by
  unfold handle at h
  split at h
  · cases h
  · next planned hplan =>
    have hmem : url ∈ [planned] := by split at h <;> exact h
    rw [List.mem_singleton.mp hmem]
    exact hplan

/-- A planned call is the one of a route, with the parameters that are scoped to its tenant. -/
theorem plan_eq_ok {p : Proxy} {r : Request} {url : Url} (h : p.plan r = .ok url) :
    ∃ route f body params, p.Serves r route f ∧
      Params.scope route.apiType (Form.ofParts body r.target.query) f p.policy = .ok params ∧
      url = p.backend.forCall p.pathHead route.apiPath params := by
  rcases p.refuses_or_accepts r with ⟨e, hrefuses⟩ | ⟨apiPath, params, haccepts⟩
  · rw [hrefuses.plan] at h
    cases h
  · rw [haccepts.plan] at h
    cases h
    obtain ⟨hgathered, rfl, hparams⟩ := haccepts
    next path route f bytes =>
    obtain ⟨hsplit, hsegment, hapi⟩ := Route.ofPath_eq_ok hgathered.classified
    exact ⟨route, f, bytes, params,
      ⟨hsplit ▸ hgathered.decoded, hsegment, hapi, hgathered.filtered⟩, hparams, rfl⟩

/-- Under the strict policy, what is planned for a backend with a host is confined to the tenant. -/
theorem confined_of_plan {p : Proxy} (hkind : p.backend.kind = .web)
    (hslashes : p.backend.isOpaque = false) (hpolicy : p.policy = .reject) {r : Request} {url : Url}
    (h : p.plan r = .ok url) :
    ∃ route f, p.Serves r route f ∧ url.Confined (p.backend.writtenFront p.pathHead) route f := by
  obtain ⟨route, f, body, params, hserves, hparams, rfl⟩ := plan_eq_ok h
  rw [hpolicy] at hparams
  have hconfined := Params.scope_eq_ok (Form.wellFormed_ofPairs _) hparams
  obtain ⟨segments, hsegments, hne, hplain⟩ := hserves.api.exists_slashed
  refine ⟨route, f, hserves, ?_⟩
  constructor
  · rw [hsegments]
    exact Url.path_withPath_append hkind hslashes p.pathHead hne hplain
  all_goals rw [Url.parameters_forCall]
  · exact hconfined.keys_sent
  · intro q hq hkey
    obtain ⟨value, hvalue⟩ := hconfined.carries q hq hkey
    exact Filter.confines_of_scopeQuery hvalue
  · exact hconfined.one_query
  · exact hconfined.some_match

end Proxy

/-! Settings -/

namespace Settings

theorem ofText_of_backendUrl {s : Settings} {url : Url} (h : s.backendUrl = .ok url) :
    url.kind = .web ∧ ∃ text, text ⊆ "http://".toList ++ s.backendAddress ∧
      Url.ofText text = .ok url := by
  have haddress := Text.trimBy_subset Text.isSpace s.backendAddress
  unfold backendUrl at h
  obtain ⟨read, hread, h⟩ := bind_eq_ok h
  split at h
  · next hscheme =>
    cases h
    have hkinds : ∀ scheme ∈ backendSchemes, Url.kindOf scheme = .web := by decide
    refine ⟨hkinds _ hscheme, _, fun c hc => ?_, mapError_eq_ok hread⟩
    split at hc
    · exact List.mem_append_right _ (haddress hc)
    · rcases List.mem_append.mp hc with hc | hc
      · exact List.mem_append_left _ hc
      · exact List.mem_append_right _ (haddress hc)
  · cases h

theorem backendUrl_eq_ok {s : Settings} {url : Url} (h : s.backendUrl = .ok url) :
    url.kind = .web ∧ url.isOpaque = false := by
  obtain ⟨hkind, text, -, hread⟩ := ofText_of_backendUrl h
  exact ⟨hkind, Url.isOpaque_of_ofText hread hkind⟩

/-- The backend's URL has a host, which is not checked on its own therefore. -/
theorem authorityIn_of_backendUrl {s : Settings} {url : Url} (h : s.backendUrl = .ok url) :
    ∃ a, url.front = .authority a ∧ Url.AuthorityIn ("http://".toList ++ s.backendAddress) a := by
  obtain ⟨hkind, text, hsubset, hread⟩ := ofText_of_backendUrl h
  obtain ⟨a, ha, hin⟩ := Url.authorityIn_of_ofText hread hkind
  exact ⟨a, ha, hin.mono hsubset⟩

/-- Whatever is asked of a proxy with the strict policy, a call that it sends is confined to the
tenant in the path: behind the front that the backend's URL writes for the path of the settings
stands the path of an operation, and every selector of its queries carries the tenant's matchers. A
front of plain segments is written as it is. -/
theorem confined_of_mem_calls {s : Settings} {p : Proxy} (hp : s.proxy = .ok p)
    (hpolicy : s.policy = .reject) (send : Url → Except CallFailure BackendAnswer) (r : Request)
    {url : Url} (hurl : url ∈ (p.handle send r).calls) :
    (∃ route f, p.Serves r route f ∧ url.Confined (p.backend.writtenFront s.pathHead) route f) ∧
      ∀ segments, s.pathHead = Url.slashed segments →
        (∀ segment ∈ segments, Url.isPlainSegment segment = true) →
          p.backend.writtenFront s.pathHead = s.pathHead := by
  obtain ⟨backend, hbackend, h⟩ := bind_eq_ok hp
  cases h
  obtain ⟨hkind, hslashes⟩ := backendUrl_eq_ok hbackend
  refine ⟨Proxy.confined_of_plan hkind hslashes hpolicy (Proxy.plan_of_mem_calls hurl), ?_⟩
  intro segments hsegments hplain
  rw [hsegments]
  exact Url.writtenFront_slashed hkind hslashes hplain

/-- The backend of the settings of one machine. -/
def oneBackend : Url where
  scheme := "http".toList
  front := .authority ⟨[], "[::1]".toList, none⟩
  path := ['/']
  query := none
  fragment := none

/-- The proxy of the settings of one machine with the given path. -/
def oneProxy (pathHead : Text) : Proxy := ⟨oneBackend, pathHead, "tenant".toList, .reject⟩

/-- A request for one metric. -/
def oneRequest : Request :=
  ⟨"GET".toList, ⟨"/t1/api/v1/query".toList, some "query=a".toList⟩, [], []⟩

/-- The call for one metric behind the given path. -/
def oneCall (path : Text) : Url :=
  { oneBackend with path, query := some "query=a%7Btenant%3D%22t1%22%7D".toList }

theorem proxy_eq_ok_of_toOption {s : Settings} {p : Proxy} (h : s.proxy.toOption = some p) :
    s.proxy = .ok p := by
  cases hp : s.proxy with
  | error error => rw [hp] at h; cases h
  | ok q => rw [hp] at h; cases h; rfl

/-- A request for the ratio of a sum of rates and a metric, behind the path of the settings. -/
theorem confined_of_mem_calls_ratio :
    let s : Settings := { oneMachine with backendPath := "/x/".toList }
    let r : Request := ⟨"GET".toList, ⟨"/t1/api/v1/query".toList,
      some "query=sum(rate(a[5m]))/b&time=1&z=1".toList⟩, [], []⟩
    let url : Url := { oneBackend with
      path := "/x/api/v1/query".toList
      query := some ("query=sum%28rate%28a%7Btenant%3D%22t1%22%7D%5B5m%5D%29%29+%2F+" ++
        "b%7Btenant%3D%22t1%22%7D&time=1").toList }
    s.proxy = .ok (oneProxy "/x".toList) ∧ s.policy = .reject ∧
      url ∈ ((oneProxy "/x".toList).handle (fun _ => .error []) r).calls ∧
      (∃ route f, (oneProxy "/x".toList).Serves r route f ∧
        url.Confined (oneBackend.writtenFront "/x".toList) route f) ∧
      oneBackend.writtenFront "/x".toList = "/x".toList := by
  intro s r url
  have hproxy : s.proxy = .ok (oneProxy "/x".toList) :=
    proxy_eq_ok_of_toOption (by decide +kernel)
  have hcall : url ∈ ((oneProxy "/x".toList).handle (fun _ => .error []) r).calls := by
    decide +kernel
  obtain ⟨hconfined, hfront⟩ := confined_of_mem_calls hproxy rfl _ _ hcall
  exact ⟨hproxy, rfl, hcall, hconfined, hfront [['x']] (by decide) (by decide)⟩

/-- Segments of the path of the settings that stand for directories are resolved, so that the path
of a call need not begin with that path. -/
theorem not_pathHead_of_mem_calls_dots :
    let s : Settings := { oneMachine with backendPath := "/a/../b".toList }
    s.validate = .ok () ∧ s.policy = .reject ∧ ∃ p url, s.proxy = .ok p ∧
      url ∈ (p.handle (fun _ => .error []) oneRequest).calls ∧
        ∀ apiType apiPath, ApiPath apiType apiPath → url.path ≠ s.pathHead ++ apiPath := by
  intro s
  have hvalid : s.validate = .ok () := validate_of_isOk (by decide +kernel)
  have hproxy : s.proxy = .ok (oneProxy "/a/../b".toList) :=
    proxy_eq_ok_of_toOption (by decide +kernel)
  have hcall : oneCall "/b/api/v1/query".toList ∈
      ((oneProxy "/a/../b".toList).handle (fun _ => .error []) oneRequest).calls := by
    decide +kernel
  refine ⟨hvalid, rfl, _, _, hproxy, hcall, fun apiType apiPath _ heq => ?_⟩
  have hfront : ['/', 'b'] = ['/', 'a'] := congrArg (List.take 2) heq
  exact absurd hfront (by decide)

end Settings
end TenantScope
