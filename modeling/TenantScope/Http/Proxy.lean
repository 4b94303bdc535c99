/- The proxy: from a request to at most one call of the backend, and back. -/
import TenantScope.Http.Message
import TenantScope.Http.Params
import TenantScope.Net.UrlPath

namespace TenantScope

/-- What a proxy knows: the backend, the path put in front of API paths, the label that bare
tenants are matched with, and the policy. -/
structure Proxy where
  backend : Url
  pathHead : Text
  tenantLabel : Text
  policy : Policy
  deriving DecidableEq, Repr

/-- The URL of a call: the backend's with its own path, query and fragment replaced. -/
def Url.forCall (backend : Url) (pathHead apiPath : Text) (params : List (Text × Text)) : Url :=
  { backend.withPath (pathHead ++ apiPath) with
    query := if params = [] then none else some (Form.encode params) }

/-- A call that got no answer: the message of the transport. -/
abbrev CallFailure := Text

/-- The characters that a host may hold but that no request can name. -/
def unnameable : List Char := ['"', '`', '{', '}']

/-- The most characters of a URL that a request can name. -/
def maxTargetLength : Nat := 65534

def Url.isCallable (url : Url) : Bool :=
  decide (url.print.length ≤ maxTargetLength) &&
    match url.front with
    | .authority a => a.host.all fun c => !unnameable.contains c
    | _ => true

/-- The transport's message about a URL that it could not reach, or for which it could not even
build a request. User information is not shown. -/
def unreachable (url : Url) : CallFailure :=
  let shown := url.anonymous
  (if shown.isCallable then "error sending request" else "builder error").toList ++
    " for url (".toList ++ shown.print ++ ")".toList

/-- The URLs that the client is asked for, by one GET each, and the response to the caller. Whether the
client can build a request for such a URL, and redirects that it follows from it, do not show here. -/
structure Exchange where
  calls : List Url
  response : Response
  deriving DecidableEq, Repr

namespace Proxy

/-- The methods that are answered. -/
def methods : List Text := ["GET".toList, "POST".toList]

/-- The URL to call for a request, or the first reason to refuse it: the method, the path, the
tenant, the body and the parameters are looked at in this order. -/
def plan (p : Proxy) (r : Request) : Except RequestError Url := do
  if r.method ∉ methods then
    throw (.badMethod r.method)
  let path ← match r.target.decodedPath? with
    | some path => .ok path
    | none => .error (.badTarget r.target.path)
  let route ← Route.ofPath path
  let filter ← (Filter.ofTenant route.tenant p.tenantLabel).mapError .unscoped
  let body ← r.formBody
  let params ← Params.scope route.apiType (Form.ofParts body r.target.query) filter p.policy
  return p.backend.forCall p.pathHead route.apiPath params

/-- Answers a request. The client `send` is asked for a URL of the backend: it builds the request,
follows redirects, and answers or fails as a whole. -/
def handle (p : Proxy) (send : Url → Except CallFailure BackendAnswer) (r : Request) : Exchange :=
  match p.plan r with
  | .error e => ⟨[], e.response⟩
  | .ok url =>
    match send url with
    | .ok answer => ⟨[url], answer.response⟩
    | .error failure =>
      ⟨[url], (RequestError.unavailable (url.print ++ ": ".toList ++ failure)).response⟩

end Proxy
end TenantScope
