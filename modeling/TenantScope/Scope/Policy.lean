/- What becomes of a query that cannot be shown to be isolated. -/
import TenantScope.Text.Inspected

namespace TenantScope

/-- A query that is not shown to be isolated is refused, or sent all the same. -/
inductive Policy
  | reject | forward
  deriving DecidableEq, Repr, Inhabited

namespace Policy

def text : Policy → Text
  | .reject => "reject".toList
  | .forward => "forward".toList

/-- The policy of a word in any ASCII case. -/
def ofText? (s : Text) : Option Policy :=
  [reject, forward].find? fun p => p.text = Text.lower s

/-- The message for a word that names no policy. -/
def unknownMessage (s : Text) : Text :=
  "unknown policy ".toList ++ Text.inspect (Text.lower s) ++
    ", expected \"reject\" or \"forward\"".toList

end Policy
end TenantScope
