/-
Accounts, as the demo site shows and takes them.

There is one kind of account, and it is called primary: every number is the identifier of
one.  Opening an account takes a name, as the field of an object or as the only item of
an array; what follows the value in the body is not looked at.
-/
import Turnstile.Http.MediaType
import Turnstile.Http.Problem
import Turnstile.Json.Reader

namespace Turnstile.Demo

open Http

structure Account where
  id : String
  name : String
  deriving DecidableEq, Repr

namespace Account

def json (a : Account) : Json := .object [("id", .string a.id), ("name", .string a.name)]

/-- The name of every account that is there already. -/
def standingName : String := "primary"

/-- The account that is listed. -/
def listed : Account := { id := "1", name := standingName }

/-- The account that is opened under a name. -/
def opened (name : String) : Account := { id := "2", name }

/-- Whether a text can identify an account: decimal digits, and at least one. -/
def isIdentifier (id : String) : Bool := !id.toList.isEmpty && id.toList.all Char.isDigit

/-- The account of an identifier. -/
def find (id : String) : Except Http.Problem Account :=
  if isIdentifier id then .ok { id, name := standingName }
  else .error (.notFound ("Account " ++ id))

/-! ### The body of a request to open an account -/

/-- The name of the field that holds the account's name. -/
def nameField : String := "name"

/-- Reads one field of the body, or passes over it. -/
def readField (key : String) (given : Option String) (cs : List Char) :
    Except Json.Problem (Option String × List Char) := do
  if key = nameField then Json.textField given cs
  else .ok (given, ← Json.passField cs)

/-- Reads the name as the only item of an array. -/
def readItem (cs : List Char) : Except Json.Problem String := do
  match ← Json.nextItem true cs with
  | none => .error .mistyped
  | some cs =>
    let (name, cs) ← Json.readText cs
    let _ ← Json.closeArray cs
    .ok name

/-- Reads the name that a body gives. -/
def readName (body : String) : Except Json.Problem String := do
  match Json.skipBlanks body.toList with
  | '[' :: rest => readItem rest
  | '{' :: rest =>
    let (given, _) ← Json.foldFields readField (Json.stepsFor rest) true none rest
    match given with
    | some name => .ok name
    | none => .error .mistyped
  | rest => .error (Json.wrongType rest)

/-- The status of a body that gives no name. -/
def refusalStatus : Json.Problem → Nat
  | .truncated => 400
  | .malformed => 400
  | .mistyped => 422

/-- The name that a request gives, or the status it is refused with. -/
def nameOf (r : Request) : Except Nat String :=
  match r.header? "content-type" with
  | none => .error 415
  | some mediaType =>
    if MediaType.isJson mediaType then (readName r.body).mapError refusalStatus
    else .error 415

end Account

end Turnstile.Demo
