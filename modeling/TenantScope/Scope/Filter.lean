/- Tenant filters: the matchers that a tenant's series meet. -/
import TenantScope.Query.Printer
import TenantScope.Query.SelectorReader
import TenantScope.Scope.Error

namespace TenantScope

open Query

/-- A filter is a list of at least one matcher. -/
structure Filter where
  matchers : List Matcher
  nonempty : matchers ≠ []
  deriving DecidableEq, Repr

namespace Filter

def emptyMessage : Text := "filter has no matchers".toList

/-- The filter of some matchers, which must not be absent. -/
def ofMatchers (matchers : List Matcher) : Except ScopeError Filter :=
  if h : matchers = [] then .error (.badFilter [] emptyMessage) else .ok ⟨matchers, h⟩

/-- Reads a matcher list in braces that blanks but no comments may follow. -/
def matchersOfText (s : Text) : Except Failure (List Matcher) := do
  let (ms, rest) ← matcherList s
  match skipBlanks rest with
  | [] => return ms
  | rest => .error ⟨rest, .ending⟩

/-- A trimmed matcher list with braces put around it where they are missing. -/
def braced (s : Text) : Text :=
  match Text.trim s with
  | '{' :: rest => '{' :: rest
  | trimmed => '{' :: trimmed ++ ['}']

/-- Reads a filter written as a matcher list with or without its braces. -/
def ofText (s : Text) : Except ScopeError Filter :=
  match matchersOfText (braced s) with
  | .error f => .error (.badFilter s f.message)
  | .ok ms => (ofMatchers ms).mapError fun _ => .badFilter s emptyMessage

/-- The characters that make a tenant a matcher list instead of a bare name. -/
def isMatcherChar (c : Char) : Bool :=
  ['=', '!', '~', '"', '\'', '`', '{', '}', ','].contains c

/-- The filter of a tenant: a bare name is matched with the tenant label, and anything else is
read as a matcher list. -/
def ofTenant (tenant label : Text) : Except ScopeError Filter :=
  if tenant.any isMatcherChar then ofText tenant else ofMatchers [⟨label, .equal, tenant⟩]

/-- The text of a filter, which is that of a selector without a name. -/
def print (f : Filter) : Text := (⟨none, f.matchers, .empty⟩ : Selector).print

/-- Whether a selector carries every matcher of the filter. -/
def appliesTo (f : Filter) (s : Selector) : Bool :=
  f.matchers.all fun m => s.allMatchers.contains m

end Filter
end TenantScope
