/- Why a query cannot be scoped to a tenant. -/
import TenantScope.Query.Failure

namespace TenantScope

/-- The reasons for which a query or a tenant is refused before anything is sent. -/
inductive ScopeError
  | badQuery (query message : Text)
  | badFilter (filter message : Text)
  | unisolated (query reason : Text)
  deriving DecidableEq, Repr

def ScopeError.message : ScopeError → Text
  | .badQuery query message =>
    "promql parse error in ".toList ++ Text.inspect query ++ ": ".toList ++ message
  | .badFilter filter message =>
    "malformed tenant filter ".toList ++ Text.inspect filter ++ ": ".toList ++ message
  | .unisolated query reason =>
    "rewritten query ".toList ++ Text.inspect query ++ " is not isolated: ".toList ++ reason

end TenantScope
