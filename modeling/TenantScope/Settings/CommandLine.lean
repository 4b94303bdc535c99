/- Settings from command line arguments and environment variables. -/
import TenantScope.Settings.Basic

namespace TenantScope

/-- The settings that take a value on the command line. -/
inductive Flag
  | backendAddress | backendPath | listenAddress | tenantLabel | connectTimeout | policy
  deriving DecidableEq, Repr

namespace Flag

def all : List Flag :=
  [backendAddress, backendPath, listenAddress, tenantLabel, connectTimeout, policy]

/-- The name of a flag behind its two dashes. -/
def name : Flag → Text
  | backendAddress => "upstream.addr".toList
  | backendPath => "upstream.prefix-path".toList
  | listenAddress => "proxy.listen-addr".toList
  | tenantLabel => "tenant.label".toList
  | connectTimeout => "upstream.connect-timeout".toList
  | policy => "rewrite.unfiltered".toList

/-- The environment variable that stands in for a flag. -/
def environmentName : Flag → Text
  | backendAddress => "PROMQL_PROXY_UPSTREAM_ADDR".toList
  | backendPath => "PROMQL_PROXY_UPSTREAM_PREFIX_PATH".toList
  | listenAddress => "PROMQL_PROXY_LISTEN_ADDR".toList
  | tenantLabel => "PROMQL_PROXY_TENANT_LABEL".toList
  | connectTimeout => "PROMQL_PROXY_UPSTREAM_CONNECT_TIMEOUT".toList
  | policy => "PROMQL_PROXY_REWRITE_UNFILTERED".toList

/-- The value of a flag that is given nowhere; the two addresses have none. -/
def default? : Flag → Option Text
  | backendAddress | listenAddress => none
  | backendPath => some []
  | tenantLabel => some "tenant".toList
  | connectTimeout => some "10".toList
  | policy => some Policy.reject.text

/-- Reads a number of seconds: digits behind an optional plus sign, below 2^64. -/
def seconds? (s : Text) : Option Nat :=
  let digits := match s with
    | '+' :: digits => digits
    | digits => digits
  if digits ≠ [] ∧ digits.all Char.isDigit ∧ Text.toNat 10 digits < 2 ^ 64 then
    some (Text.toNat 10 digits)
  else none

/-- Whether a flag takes a value. -/
def accepts (flag : Flag) (value : Text) : Bool :=
  match flag with
  | connectTimeout => (seconds? value).isSome
  | policy => (Policy.ofText? value).isSome
  | _ => true

end Flag

/-- Why a command line yields no settings. -/
inductive Usage
  | missingArgument | unknownArgument | repeatedArgument | missingValue | extraValue | badValue
  | help | version
  deriving DecidableEq, Repr

/-- What a command line gives. -/
structure Given where
  verbose : Bool
  values : List (Flag × Text)
  deriving DecidableEq, Repr

/-- A flag whose value is not settled yet, with the value as soon as it is read. -/
structure Waiting where
  flag : Flag
  value : Option Text
  deriving DecidableEq, Repr

namespace Given

def nothing : Given := ⟨false, []⟩

def value? (g : Given) (flag : Flag) : Option Text :=
  (g.values.find? fun v => v.1 = flag).map Prod.snd

/-- Adds the value of a flag, which must be acceptable and the first. -/
def add (g : Given) (flag : Flag) (value : Text) : Except Usage Given :=
  if (g.value? flag).isSome then .error .repeatedArgument
  else if !flag.accepts value then .error .badValue
  else .ok { g with values := g.values ++ [(flag, value)] }

/-- Adds the switch for more messages, which must be the first. -/
def addVerbose (g : Given) : Except Usage Given :=
  if g.verbose then .error .repeatedArgument else .ok { g with verbose := true }

/-- Adds the switches of a cluster of letters. -/
def addSwitches (g : Given) : Text → Except Usage Given
  | [] => .ok g
  | 'v' :: rest => do addSwitches (← g.addVerbose) rest
  | 'h' :: _ => .error .help
  | 'V' :: _ => .error .version
  | _ => .error .unknownArgument

/-- The names of the long flags without a value. -/
def switches : List Text := ["verbose".toList, "help".toList, "version".toList]

/-- The letters of the flags without a value. -/
def switchLetters : List Char := ['v', 'h', 'V']

/-- Adds a long flag without a value. -/
def addLong (g : Given) (name : Text) : Except Usage Given :=
  if name = "verbose".toList then g.addVerbose
  else if name = "help".toList then .error .help
  else .error .version

/-- Settles the flag that waits, if there is one: its value must be there. -/
def settle (g : Given) : Option Waiting → Except Usage Given
  | none => .ok g
  | some ⟨_, none⟩ => .error .missingValue
  | some ⟨flag, some value⟩ => g.add flag value

/-- Reads the arguments one by one. A flag with its value in the next argument waits for the flag
behind it or for the end. -/
def collect (g : Given) (waiting : Option Waiting) : List Text → Except Usage Given
  | [] => g.settle waiting
  | ['-', '-'] :: rest => if rest = [] then g.settle waiting else .error .unknownArgument
  | ('-' :: '-' :: body) :: rest =>
    let (name, written) := splitFirst (· == '=') body
    if name ∈ switches then
      if written.isSome then .error .extraValue
      else do collect (← (← g.settle waiting).addLong name) none rest
    else match Flag.all.find? (fun flag => flag.name = name), written with
      -- not to understand an argument counts before what is wrong with the flag that waits
      | none, _ => .error .unknownArgument
      | some flag, some value => do collect (← (← g.settle waiting).add flag value) none rest
      | some flag, none => do collect (← g.settle waiting) (some ⟨flag, none⟩) rest
  | ('-' :: c :: letters) :: rest =>
    if c ∈ switchLetters then do
      collect (← (← g.settle waiting).addSwitches (c :: letters)) none rest
    else .error .unknownArgument
  | value :: rest =>
    match waiting with
    | some ⟨flag, none⟩ => collect g (some ⟨flag, some value⟩) rest
    | _ => .error .unknownArgument

end Given

namespace Settings

/-- The value of a flag in an environment, of which later variables replace earlier ones. -/
def fromEnvironment? (environment : List (Text × Text)) (flag : Flag) : Option Text :=
  (environment.reverse.find? fun v => v.1 = flag.environmentName).map Prod.snd

/-- The settings given on a command line, each one missing there taken from the environment and
then from its default. -/
def ofGiven (g : Given) (environment : List (Text × Text)) : Except Usage Settings := do
  let value? (flag : Flag) : Option Text :=
    (g.value? flag).or ((fromEnvironment? environment flag).or flag.default?)
  let accepted := Flag.all.all fun flag => ((value? flag).map flag.accepts).getD true
  if !accepted then
    throw .badValue
  match value? .backendAddress, value? .listenAddress with
  | some backendAddress, some listenAddress =>
    return {
      verbose := g.verbose
      backendAddress
      backendPath := (value? .backendPath).getD []
      listenAddress
      tenantLabel := (value? .tenantLabel).getD []
      connectTimeout := ((value? .connectTimeout).bind Flag.seconds?).getD 0
      policy := ((value? .policy).bind Policy.ofText?).getD .reject }
  | _, _ => throw .missingArgument

/-- The settings of some arguments and environment variables. -/
def ofCommandLine (arguments : List Text) (environment : List (Text × Text)) :
    Except Usage Settings := do
  ofGiven (← Given.nothing.collect none arguments) environment

end Settings
end TenantScope
