/-
Launching the program.

A launch ends at the command line, at settings that make no sense or at an address that
cannot be taken; or it does not end, because the program listens.  Everything it writes is
listed: plain lines on both streams, and the events of the log that its filter shows.
-/
import Turnstile.Command.Help

namespace Turnstile.Command

/-- What a launch comes to. -/
structure Launch where
  /-- The exit status; none while the program listens. -/
  exit : Option UInt8
  stdout : List String := []
  stderr : List String := []
  log : List Log.Event := []
  /-- Whether the log is written as JSON. -/
  jsonLogs : Bool := false

namespace Launch

/-- The variable that sets the filter of the log. -/
def filterVariable : String := "RUST_LOG"

/-- The part of the program that reports on the launch. -/
def target : String := "rolegate_server"

/-- The parts of the program that the log level is about. -/
def levelTargets : List String := ["rolegate_api_server", "rolegate_authz"]

/-- The filter of the log: the one of the variable if it can be read, or else the level. -/
def filter (environment : Environment) (level : Log.Level) : Log.Filter :=
  ((environment.lookup filterVariable).bind Log.Filter.ofText?).getD (.upTo level levelTargets)

def info (message : String) : Log.Event := { level := .info, target, message }

/-- The causes of a failure below its message, numbered if there are several. -/
def causeLines : List String → List String
  | [] => []
  | [cause] => ["", "Caused by:", "    " ++ cause]
  | causes =>
    ["", "Caused by:"] ++ causes.zipIdx.map fun (cause, i) =>
      "    " ++ Decimal.natText i ++ ": " ++ cause

/-- How a failure is told that ends the program. -/
def failureLines (f : Failure) : List String := ("Error: " ++ f.message) :: causeLines f.causes

/-- A failure with its causes on one line. -/
def failureLine (f : Failure) : String := ": ".intercalate f.chain

/-- Launches the service that a command line asks for. -/
def service (a : Arguments) (environment : Environment) : Launch :=
  let level := Log.Level.ofText? a.logLevel
  let warning :=
    if level.isSome then []
    else Text.split '\n' ("Invalid log level '" ++ a.logLevel ++ "', using 'info'")
  let shown := (filter environment (level.getD .info)).shows
  let opening := [info "Starting rolegate API server", info ("Version: " ++ Demo.version)]
  match a.service.build with
  | .error failure =>
    { exit := some 1, stderr := warning ++ failureLines failure, log := opening.filter shown
      jsonLogs := a.jsonLogs }
  | .ok service =>
    let ready :=
      [ info ("Health check: http://" ++ service.address ++ "/health")
      , info "Press Ctrl+C to shutdown gracefully" ]
    let start := service.start
    let (exit, closing) : Option UInt8 × List Log.Event :=
      match start.outcome with
      | .ok () => (none, [])
      | .error failure =>
        (some 1,
          [{ level := .error, target, message := "Server error: " ++ failureLine failure }])
    { exit, stderr := warning, jsonLogs := a.jsonLogs
      log := (opening ++ ready ++ start.events ++ closing).filter shown }

/-- Launches the program. -/
def ofArguments (arguments : List String) (environment : Environment) : Launch :=
  match Arguments.parse arguments environment with
  | .error (.mistake m) => { exit := some 2, stderr := [m.message] }
  | .error (.help long) => { exit := some 0, stdout := Help.lines long environment }
  | .error .version => { exit := some 0, stdout := [versionLine] }
  | .ok a => service a environment

end Launch

end Turnstile.Command
