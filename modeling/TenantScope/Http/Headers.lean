/- HTTP headers. -/
import TenantScope.Text.Basic

namespace TenantScope

/-- Headers in their order, with names in lower case. -/
abbrev Headers := List (Text × Text)

namespace Headers

def ofPairs (pairs : List (Text × Text)) : Headers := pairs.map fun p => (Text.lower p.1, p.2)

/-- The first value of a name. -/
def get? (headers : Headers) (name : Text) : Option Text :=
  (headers.find? fun h => h.1 = name).map Prod.snd

def lengthName : Text := "content-length".toList

def typeName : Text := "content-type".toList

/-- The headers without the length of the body, which the relayed body need not have. -/
def withoutLength (headers : Headers) : Headers := headers.filter fun h => h.1 ≠ lengthName

end Headers
end TenantScope
