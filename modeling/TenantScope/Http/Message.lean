/- HTTP requests and responses. -/
import TenantScope.Http.Error
import TenantScope.Http.Headers
import TenantScope.Http.Relay
import TenantScope.Text.Percent
import TenantScope.Text.Split

namespace TenantScope

/-- The target of a request: its path, still percent-encoded, and its query string. -/
structure Target where
  path : Text
  query : Option Text
  deriving DecidableEq, Repr

namespace Target

/-- The text behind the first colon with two slashes. -/
def afterScheme? : Text → Option Text
  | ':' :: '/' :: '/' :: rest => some rest
  | _ :: rest => afterScheme? rest
  | [] => none

/-- The path of a target without query: that of a whole URL follows its host and is not empty. -/
def pathOf : Text → Text
  | '/' :: s => '/' :: s
  | s =>
    match afterScheme? s with
    | none => s
    | some rest => '/' :: (rest.dropWhile (· ≠ '/')).drop 1

/-- Reads a target and leaves out its fragment. -/
def ofText (s : Text) : Target :=
  let (path, query) := splitFirst (· == '?') (splitFirst (· == '#') s).1
  ⟨pathOf path, query⟩

/-- The decoded path, if it is well-formed UTF-8. -/
def decodedPath? (t : Target) : Option Text :=
  Utf8.decode? (Percent.decode (Utf8.encode t.path))

end Target

structure Request where
  method : Text
  target : Target
  headers : Headers
  body : Bytes
  deriving DecidableEq, Repr

namespace Request

def formType : Text := "application/x-www-form-urlencoded".toList

/-- Whether a header value can be taken as text: printable ASCII and tabs. -/
def isReadable (value : Text) : Bool :=
  value.all fun c => (0x20 ≤ c.toNat && c.toNat < 0x7F) || c == '\t'

/-- Whether the first content type is that of forms, its parameters and ASCII case aside. -/
def isForm (r : Request) : Bool :=
  match r.headers.get? Headers.typeName with
  | some value =>
    isReadable value && Text.lower (Text.trim (splitFirst (· == ';') value).1) == formType
  | none => false

def maxFormBytes : Nat := 10 * 1024 * 1024

/-- The octets of the form that a request carries in its body; only posted forms have any. -/
def formBody (r : Request) : Except RequestError Bytes :=
  if r.method = "POST".toList ∧ r.isForm then
    if maxFormBytes < r.body.length then .error (.badForm "length limit exceeded".toList)
    else .ok r.body
  else .ok []

end Request

/-- The body of a response: known as a whole, or relayed item by item. -/
inductive Body
  | whole (bytes : Bytes)
  | relayed (relay : Relay)
  deriving DecidableEq, Repr

structure Response where
  status : Nat
  headers : Headers
  body : Body
  deriving DecidableEq, Repr

def RequestError.response (e : RequestError) : Response :=
  ⟨e.status, [(Headers.typeName, "application/json".toList)], .whole (Utf8.encode e.envelope)⟩

/-- A backend's answer before it is relayed. -/
structure BackendAnswer where
  status : Nat
  headers : Headers
  items : List StreamItem
  deriving DecidableEq, Repr

/-- The response that relays a backend's answer: its status, its headers without the length of the
body, and its items. -/
def BackendAnswer.response (a : BackendAnswer) : Response :=
  ⟨a.status, a.headers.withoutLength, .relayed (.ofItems a.items)⟩

end TenantScope
