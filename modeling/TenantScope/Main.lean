/- The command line of the proxy. -/
import TenantScope.Settings.CommandLine

namespace TenantScope

def Usage.message : Usage → String
  | .missingArgument => "the backend address and the listen address are required"
  | .unknownArgument => "unexpected argument"
  | .repeatedArgument => "an argument cannot be used twice"
  | .missingValue => "an argument lacks its value"
  | .extraValue => "an argument takes no value"
  | .badValue => "invalid value"
  | .help =>
    "Options: -v, --upstream.addr, --upstream.prefix-path, --proxy.listen-addr, --tenant.label, " ++
      "--upstream.connect-timeout, --rewrite.unfiltered, -h, -V"
  | .version => "0.1.0"

/-- The flags' environment variables that are set. -/
def readEnvironment : IO (List (Text × Text)) :=
  Flag.all.filterMapM fun flag => do
    let value ← IO.getEnv (String.ofList flag.environmentName)
    return value.map fun v => (flag.environmentName, v.toList)

/-- What a request line, a method and a target with a blank between them, leads to: the URL of the
call, or the body of the error response. -/
def Proxy.trace (p : Proxy) (line : Text) : Text :=
  let (method, target) := splitFirst (· == ' ') line
  match p.plan ⟨method, Target.ofText (target.getD []), [], []⟩ with
  | .ok url => url.print
  | .error e => e.envelope

/-- Traces every request line of standard input. -/
partial def traceLines (p : Proxy) (input output : IO.FS.Stream) : IO Unit := do
  let line ← input.getLine
  if line.isEmpty then return ()
  output.putStrLn (String.ofList (p.trace (Text.trim line.toList)))
  traceLines p input output

/-- Checks the settings and traces request lines with the proxy that they describe. -/
def run (arguments : List String) : IO UInt32 := do
  match Settings.ofCommandLine (arguments.map String.toList) (← readEnvironment) with
  | .error usage =>
    if usage = .help ∨ usage = .version then
      IO.println usage.message
      return 0
    else
      IO.eprintln usage.message
      return 2
  | .ok settings =>
    match settings.validate, settings.proxy with
    | .ok _, .ok proxy =>
      traceLines proxy (← IO.getStdin) (← IO.getStdout)
      return 0
    | .error e, _ | _, .error e =>
      IO.eprintln (String.ofList e.message)
      return 1

end TenantScope

def main (arguments : List String) : IO UInt32 := TenantScope.run arguments
