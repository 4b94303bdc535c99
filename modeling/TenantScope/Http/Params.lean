/- The parameters sent to the backend, scoped to a tenant. -/
import TenantScope.Http.Form
import TenantScope.Http.Route
import TenantScope.Scope.Query

namespace TenantScope

namespace Params

def queryKey : Text := "query".toList

/-- The parameter that holds a selector and may be repeated. -/
def matchKey : Text := "match[]".toList

/-- The selector that matches everything, which stands for an absent selector parameter. -/
def everything : Text := "\x7b\x7d".toList

/-- The parameters that are sent as they are. -/
def copiedKeys : List Text :=
  ["start", "end", "step", "time", "limit", "timeout"].map String.toList

/-- A form with what an operation requires: a query must be there, and an absent selector parameter
is added. -/
def required (apiType : ApiType) (form : Form) : Except RequestError Form :=
  match apiType with
  | .query =>
    if form.hasKey queryKey then .ok form else .error (.missingParameter queryKey)
  | .series =>
    .ok (if form.hasKey matchKey then form else Form.addFirst matchKey everything form)
  | .plain => .ok form

/-- A query scoped to a filter, with its error as one of requests. -/
def scopeValue (f : Filter) (policy : Policy) (value : Text) : Except RequestError Text :=
  (f.scopeQuery policy value).mapError .unscoped

/-- The parameters that one key of a form becomes; keys that are neither scoped nor copied are
dropped. -/
def scopeEntry (f : Filter) (policy : Policy) (key : Text) (values : List Text) :
    Except RequestError (List (Text × Text)) :=
  if key = queryKey then
    match values with
    | [value] => (scopeValue f policy value).map fun v => [(key, v)]
    | values => .error (.parameterCount queryKey values.length)
  else if key = matchKey then
    values.mapM fun value => (scopeValue f policy value).map fun v => (key, v)
  else if key ∈ copiedKeys then .ok (values.map fun v => (key, v))
  else .ok []

/-- The parameters of a form in the order of their keys; the first failure is the failure. -/
def scope (apiType : ApiType) (form : Form) (f : Filter) (policy : Policy) :
    Except RequestError (List (Text × Text)) := do
  let form ← required apiType form
  let parts ← form.mapM fun e => scopeEntry f policy e.1 e.2
  return parts.flatten

end Params
end TenantScope
