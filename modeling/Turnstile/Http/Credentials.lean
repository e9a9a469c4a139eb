/-
The privileges a client presents.

They stand in the first `x-roles` header, separated by commas, with spaces and tabs
around them that do not count and empty items that count for nothing.  A value that is
not visible text is refused as a whole.
-/
import Turnstile.Fault
import Turnstile.Http.Message

namespace Turnstile.Http.Credentials

/-- The header that clients present their privileges in. -/
def header : String := "x-roles"

/-- Whether a character around an item does not count. -/
def isPadding (c : Char) : Bool := c = ' ' || c = '\t'

/-- A text without the padding at both its ends. -/
def trim (cs : List Char) : List Char :=
  ((cs.dropWhile isPadding).reverse.dropWhile isPadding).reverse

/-- The items of a list separated by commas, trimmed, empty ones left out. -/
def items (cs : List Char) : List String :=
  (((Text.splitChars ',' cs).map trim).filter (!·.isEmpty)).map String.ofList

/-- What is wrong with a value that is not visible text. -/
def opaqueValue : Failure := { message := "failed to convert header to a str", causes := [] }

/-- The privileges that header values present, the first value only. -/
def ofValues (values : List (List UInt8)) : Except Failure (List String) :=
  match values with
  | [] => .ok []
  | value :: _ =>
    match visibleText? value with
    | none => .error opaqueValue
    | some text => .ok (items text)

/-- The privileges that a request presents. -/
def ofRequest (r : Request) : Except Failure (List String) := ofValues (r.header? header).toList

end Turnstile.Http.Credentials
