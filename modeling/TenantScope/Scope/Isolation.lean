/- The check that a query text is confined to a filter. -/
import TenantScope.Query.Reader
import TenantScope.Query.Walk
import TenantScope.Scope.Filter

namespace TenantScope

open Query

/-- Reads a query, with its text in the error. -/
def readQuery (query : Text) : Except ScopeError Expr :=
  (Query.read query).mapError fun f => .badQuery query f.message

/-- What a check has seen: the number of selectors, and the texts of those that lack a matcher. -/
structure Census where
  selectors : Nat
  lacking : List Text
  deriving DecidableEq, Repr

/-- The census with one more selector. -/
def Filter.enrol (f : Filter) (seen : Census) (s : Selector) : Census :=
  ⟨seen.selectors + 1, if f.appliesTo s then seen.lacking else seen.lacking ++ [s.print]⟩

/-- Enrols the selectors it meets and changes nothing. -/
def Filter.enroller (f : Filter) : Visitor Census := fun seen e =>
  match e with
  | .vector s => .same (f.enrol seen s) (.vector s) .enter
  | .matrix s range => .same (f.enrol seen s) (.matrix s range) .enter
  | e => .same seen e .enter

def Filter.census (f : Filter) (e : Expr) : Census := (walk f.enroller ⟨0, []⟩ e).state

/-- The reason given when some selectors of a query do not carry the filter. -/
def Census.reason (c : Census) : Text :=
  Text.ofNat c.lacking.length ++ " of ".toList ++ Text.ofNat c.selectors ++
    " selectors lack the filter: ".toList ++ commaList c.lacking

/-- The reason given when a printed query cannot be read again. -/
def unreadableReason (error : ScopeError) : Text :=
  "printed query does not parse back: ".toList ++ error.message

/-- Succeeds on the texts that read as a query of which every selector carries the filter. -/
def Filter.checkIsolated (f : Filter) (text : Text) : Except ScopeError Unit :=
  match readQuery text with
  | .error error => .error (.unisolated text (unreadableReason error))
  | .ok e =>
    if (f.census e).lacking = [] then .ok ()
    else .error (.unisolated text (f.census e).reason)

end TenantScope
