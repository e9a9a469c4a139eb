/-
The guard: a checkpoint in front of one route's handler.

The guard asks the checkpoint about the matched pattern, not about the path of the
request.  A request for the head only is served by the handler for `GET` where the route
has none of its own for `HEAD`, so it is decided on as the `GET` it becomes.
-/
import Turnstile.Checkpoint
import Turnstile.Http.Problem

namespace Turnstile

open Http

/-- A checkpoint for requests with the registration of the route it stands before. -/
structure Guard where
  checkpoint : Checkpoint Request
  registration : Registration

namespace Guard

/-- The method that a request is decided on as. -/
def effectiveMethod (registration : Registration) (method : String) : String :=
  if method = "HEAD" ∧ registration.keyFor "HEAD" = none then "GET" else method

/-- The ruling on a request for a pattern. -/
def ruling (g : Guard) (roster : Roster) (pattern : String) (request : Request) : Ruling :=
  g.checkpoint.decide roster
    { method := effectiveMethod g.registration request.method, path := pattern }
    (some g.registration) request

/-- What an outcome comes to: none when the request may go on to its handler. -/
def refusal? : Except Fault Decision → Option Problem
  | .error fault => some (.fault fault)
  | .ok (.forbid _ message) => some (.forbidden message)
  | .ok (.allow _) => none

/-- The response to a request: the handler's, or the guard's own in place of it. -/
def respond (g : Guard) (roster : Roster) (pattern : String) (request : Request)
    (handler : Unit → Response) : Response :=
  match refusal? (g.ruling roster pattern request).outcome with
  | some problem => problem.response
  | none => handler ()

end Guard

end Turnstile
