/- Queries scoped to a tenant. -/
import TenantScope.Scope.Injection
import TenantScope.Scope.Isolation
import TenantScope.Scope.Policy

namespace TenantScope

/-- Scopes a query to a filter: the filter is injected into its tree, and the printed tree is
checked to be isolated. What fails the check is kept only if the policy forwards it. -/
def Filter.scopeQuery (f : Filter) (policy : Policy) (query : Text) : Except ScopeError Text := do
  let e ← readQuery query
  let text := (f.inject 0 e).tree.print
  match f.checkIsolated text, policy with
  | .error error, .reject => .error error
  | _, _ => return text

end TenantScope
