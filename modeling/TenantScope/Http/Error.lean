/- Errors of the proxy as its callers see them. -/
import TenantScope.Scope.Error

namespace TenantScope

/-- The reasons for which a request is not answered by the backend. -/
inductive RequestError
  | badMethod (method : Text)
  | badPath (apiPath : Text)
  | badTarget (path : Text)
  | missingParameter (name : Text)
  | parameterCount (name : Text) (count : Nat)
  | badForm (reason : Text)
  | unscoped (error : ScopeError)
  | unavailable (reason : Text)
  deriving DecidableEq, Repr

namespace RequestError

def message : RequestError → Text
  | badMethod method => "Unsupported method ".toList ++ method
  | badPath apiPath => "Unsupported path ".toList ++ apiPath
  | badTarget path => "Unsupported request ".toList ++ path
  | missingParameter name => "missing required parameter ".toList ++ Text.inspect name
  | parameterCount name count =>
    "expected exactly one ".toList ++ Text.inspect name ++ " parameter, got ".toList ++
      Text.ofNat count
  | badForm reason => "invalid form: ".toList ++ reason
  | unscoped error => error.message
  | unavailable reason => "upstream error: ".toList ++ reason

def status : RequestError → Nat
  | unavailable _ => 502
  | _ => 400

/-- The class of an error in the envelope of the query API. -/
def errorType : RequestError → Text
  | unavailable _ => "unavailable".toList
  | _ => "bad_data".toList

/-- Whether the caller is at fault, which is what a status from 400 to 499 means. -/
def isClientError (e : RequestError) : Bool := 400 ≤ e.status && e.status < 500

end RequestError

/-! The envelope -/

def jsonChar (c : Char) : Text :=
  if c = '"' then ['\\', '"']
  else if c = '\\' then ['\\', '\\']
  else if c = '\x08' then ['\\', 'b']
  else if c = '\x0c' then ['\\', 'f']
  else if c = '\n' then ['\\', 'n']
  else if c = '\r' then ['\\', 'r']
  else if c = '\t' then ['\\', 't']
  else if c.toNat < 0x20 then ['\\', 'u'] ++ Text.padZeros 4 (Text.hex c.toNat)
  else [c]

def jsonString (s : Text) : Text := '"' :: s.flatMap jsonChar ++ ['"']

/-- A member of an object, whose value is a string too. -/
def jsonMember (m : Text × Text) : Text := jsonString m.1 ++ ':' :: jsonString m.2

def jsonObject (members : List (Text × Text)) : Text :=
  '{' :: Text.join [','] (members.map jsonMember) ++ ['}']

/-- The body that tells a caller about an error. -/
def RequestError.envelope (e : RequestError) : Text :=
  jsonObject [("error".toList, e.message), ("errorType".toList, e.errorType),
    ("status".toList, "error".toList)]

end TenantScope
