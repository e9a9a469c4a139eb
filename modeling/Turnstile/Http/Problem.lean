/-
Problems: what a client is told instead of an answer.

A denial and a missing thing are told with their message.  A fault in authorising the
call is told with a message that is always the same, so that nothing of the cause leaks.
-/
import Turnstile.Fault
import Turnstile.Http.Message

namespace Turnstile.Http

inductive Problem where
  | forbidden (message : String)
  | fault (cause : Fault)
  | notFound (message : String)
  deriving DecidableEq, Repr

namespace Problem

def status : Problem → Nat
  | forbidden _ => 403
  | fault _ => 500
  | notFound _ => 404

/-- What the client reads. -/
def publicMessage : Problem → String
  | forbidden message => message
  | fault _ => "Internal Server Error"
  | notFound message => message

/-- What the operator reads. -/
def text : Problem → String
  | forbidden message => "Forbidden: " ++ message
  | fault cause => "Authorization error: " ++ cause.message
  | notFound message => "Not found: " ++ message

/-- The causes below the problem, outermost first. -/
def sources : Problem → List String
  | forbidden _ => []
  | fault cause => cause.failure.chain
  | notFound _ => []

/-- The body: the status, its words and the public message. -/
def body (p : Problem) : Json :=
  .object
    [ ("statusCode", .number (.integer p.status))
    , ("error", .string (reason p.status))
    , ("message", .string p.publicMessage) ]

def response (p : Problem) : Response := { status := p.status, body := .json p.body }

end Problem

end Turnstile.Http
