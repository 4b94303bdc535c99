/- The settings of a proxy and their validity. -/
import TenantScope.Http.Proxy
import TenantScope.Net.UrlReader

namespace TenantScope

/-- The settings as they are given. The timeout is in seconds. -/
structure Settings where
  verbose : Bool
  backendAddress : Text
  backendPath : Text
  listenAddress : Text
  tenantLabel : Text
  connectTimeout : Nat
  policy : Policy
  deriving DecidableEq, Repr

/-- Why settings are not valid. -/
inductive SettingsError
  | badListenAddress (address : Text)
  | badBackend (address : Text) (cause : UrlError)
  | badScheme (scheme : Text)
  | badPath (path : Text)
  | badLabel (label : Text)
  | zeroTimeout
  deriving DecidableEq, Repr

namespace SettingsError

/-- The message of an error without its cause. -/
def summary : SettingsError → Text
  | badListenAddress address => "invalid listen address ".toList ++ Text.inspect address
  | badBackend address _ => "invalid upstream address ".toList ++ Text.inspect address
  | badScheme scheme => "unsupported upstream scheme ".toList ++ Text.inspect scheme
  | badPath path =>
    "upstream prefix path ".toList ++ Text.inspect path ++ " must start with '/'".toList
  | badLabel label => "tenant label ".toList ++ Text.inspect label ++
      " is not a valid label name".toList
  | zeroTimeout => "upstream connect timeout must be at least one second".toList

/-- The cause of an error that lies in the text of an address. -/
def cause? : SettingsError → Option Text
  | badListenAddress _ => some "invalid socket address syntax".toList
  | badBackend _ cause => some cause.message
  | _ => none

/-- The message of an error with its cause. -/
def message (e : SettingsError) : Text :=
  e.summary ++
    match e.cause? with
    | some cause => ": ".toList ++ cause
    | none => []

end SettingsError

namespace Settings

/-- Whether a text holds a colon with two slashes. -/
def hasScheme (s : Text) : Bool := (Target.afterScheme? s).isSome

def backendSchemes : List Text := ["http".toList, "https".toList]

/-- The URL of the backend; plain HTTP is understood where the address has no scheme. A URL with one
of the schemes of backends always has a host, so that a missing one is no failure of its own. -/
def backendUrl (s : Settings) : Except SettingsError Url := do
  let address := Text.trim s.backendAddress
  let text := if hasScheme address then address else "http://".toList ++ address
  let url ← (Url.ofText text).mapError fun cause => .badBackend s.backendAddress cause
  if url.scheme ∈ backendSchemes then return url else throw (.badScheme url.scheme)

/-- The path put in front of API paths, without the slashes at its end. -/
def pathHead (s : Settings) : Text := (s.backendPath.reverse.dropWhile (· = '/')).reverse

/-- The address to listen on. -/
def listenSocket (s : Settings) : Except SettingsError SocketAddress :=
  match SocketAddress.ofText? s.listenAddress with
  | some address => .ok address
  | none => .error (.badListenAddress s.listenAddress)

/-- Whether a text is a label name as a whole. -/
def isLabelName (s : Text) : Bool :=
  match Query.labelName? s with
  | some (_, []) => true
  | _ => false

/-- Checks every setting; the first failure is the failure. -/
def validate (s : Settings) : Except SettingsError Unit := do
  let _ ← s.listenSocket
  let _ ← s.backendUrl
  if s.pathHead ≠ [] ∧ s.pathHead.head? ≠ some '/' then
    throw (.badPath s.pathHead)
  if !isLabelName s.tenantLabel then
    throw (.badLabel s.tenantLabel)
  if s.connectTimeout = 0 then
    throw .zeroTimeout

/-- The proxy of some settings, of which only the backend is checked. -/
def proxy (s : Settings) : Except SettingsError Proxy := do
  let url ← s.backendUrl
  return ⟨url, s.pathHead, s.tenantLabel, s.policy⟩

/-- What a server needs to start: the address to listen on and the proxy, checked in this order. -/
def server (s : Settings) : Except SettingsError (SocketAddress × Proxy) := do
  let address ← s.listenSocket
  let proxy ← s.proxy
  return (address, proxy)

def bindMessage (address : Text) : Text := "failed to bind ".toList ++ address

end Settings
end TenantScope
