/-
Requests and responses.

A header value is a list of bytes, because a client may send any; names of headers are
compared without regard to case, and of several headers of one name the first is the one
that counts.
-/
import Turnstile.Json
import Turnstile.Text.Cut

namespace Turnstile.Http

/-! ### Requests -/

structure Request where
  method : String
  /-- The target as the client wrote it, with its query and maybe a scheme and a host. -/
  target : String
  headers : List (String × List UInt8)
  body : String
  deriving Repr

namespace Request

/-- The value of the first header of a name. -/
def header? (r : Request) (name : String) : Option (List UInt8) :=
  (r.headers.find? fun header => Text.sameIgnoringCase header.1 name).map (·.2)

/-- Whether a character ends the path of a target. -/
def endsPath (c : Char) : Bool := c = '?' || c = '#'

/-- What stands after the scheme and the slashes of an absolute target. -/
def afterScheme? (target : List Char) : Option (List Char) :=
  match (Text.cutChars ':' target).2 with
  | some ('/' :: '/' :: rest) => some rest
  | _ => none

/-- The path of a target: up to its query, and without scheme and host.  A target that is
neither a path nor absolute has none, except the lone asterisk. -/
def pathChars (target : List Char) : List Char :=
  match target with
  | '/' :: _ => target.takeWhile (!endsPath ·)
  | ['*'] => ['*']
  | _ =>
    match afterScheme? target with
    | none => []
    | some rest =>
      match (rest.dropWhile fun c => !(c = '/' || endsPath c)).takeWhile (!endsPath ·) with
      | [] => ['/']
      | path => path

/-- The path that is asked for. -/
def path (r : Request) : String := .ofList (pathChars r.target.toList)

end Request

/-! ### Header values -/

/-- Whether a byte of a header value is visible text: a tab, a space or a printable ASCII
character. -/
def isVisible (b : UInt8) : Bool := b = 9 || (32 ≤ b && b ≤ 126)

/-- A header value as text; none when it holds anything but visible bytes. -/
def visibleText? (value : List UInt8) : Option (List Char) :=
  if value.all isVisible then some (value.map fun b => Char.ofNat b.toNat) else none

/-! ### Responses -/

inductive Body where
  | empty
  | json (value : Json)
  | text (s : String)
  deriving Repr

structure Response where
  status : Nat
  body : Body
  deriving Repr

namespace Response

/-- A response of a status alone. -/
def ofStatus (status : Nat) : Response := { status, body := .empty }

/-- The response as a client sees it who asked for the head only. -/
def headOnly (r : Response) : Response := { r with body := .empty }

end Response

/-- The words that go with a status. -/
def reason : Nat → String
  | 403 => "Forbidden"
  | 404 => "Not Found"
  | 500 => "Internal Server Error"
  | _ => ""

end Turnstile.Http
