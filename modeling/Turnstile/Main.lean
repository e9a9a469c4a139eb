/-
The command line program: hands its arguments and variables over, writes what comes of
them and exits.  The network is not part of it: a launch that would listen ends well.
-/
import Turnstile.Command.Launch

open Turnstile Turnstile.Command

/-- The variables that the program looks at. -/
def readEnvironment : IO Environment := do
  let names := Launch.filterVariable :: Switch.all.filterMap Switch.envName?
  let found ← names.mapM fun name => do
    return (← IO.getEnv name).map (name, ·)
  return found.filterMap id

def main (arguments : List String) : IO UInt32 := do
  let launch := Launch.ofArguments arguments (← readEnvironment)
  for event in launch.log do
    IO.println (if launch.jsonLogs then event.json.compact else event.line)
  for line in launch.stdout do
    IO.println line
  for line in launch.stderr do
    IO.eprintln line
  return (launch.exit.getD 0).toUInt32
