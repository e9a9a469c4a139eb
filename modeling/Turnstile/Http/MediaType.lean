/-
Media types, as far as it takes to tell whether a body is JSON.

A media type is a type, a slash, a subtype whose last plus sign sets off a suffix, and
parameters after semicolons.  JSON is `application/json`, or any application subtype with
the suffix `json`; letters count in any case.
-/
import Turnstile.Http.Message

namespace Turnstile.Http.MediaType

/-- Whether a character may stand in a token. -/
def isToken (c : Char) : Bool :=
  c.isAlphanum || c ∈ ['!', '#', '$', '%', '&', '\x27', '*', '+', '-', '.', '^', '_', '\x60', '|', '~']

/-- Whether a character may stand between quotes. -/
def isQuotable (c : Char) : Bool := 32 ≤ c.toNat && c.toNat ≠ 127

/-- Where the reader stands among parameters. -/
inductive Place where
  /-- Before or in a name, which may still be empty. -/
  | name (started : Bool)
  /-- Before or in a bare value. -/
  | bare (started : Bool)
  /-- Between quotes; the text there may still be empty. -/
  | inQuotes (started : Bool)
  /-- After the closing quote. -/
  | afterQuotes
  deriving DecidableEq, Repr

/-- Whether the text after a semicolon is a list of parameters. -/
def parametersOk : Place → List Char → Bool
  | .name started, [] => !started
  | .bare _, [] => true
  | .inQuotes _, [] => false
  | .afterQuotes, [] => true
  | .name started, c :: cs =>
    if c = ' ' && !started then parametersOk (.name false) cs
    else if isToken c then parametersOk (.name true) cs
    else if c = '=' && started then parametersOk (.bare false) cs
    else false
  | .bare started, c :: cs =>
    if c = '"' && !started then parametersOk (.inQuotes false) cs
    else if isToken c then parametersOk (.bare true) cs
    else if c = ';' && started then parametersOk (.name false) cs
    else false
  | .inQuotes started, c :: cs =>
    if c = '"' && started then parametersOk .afterQuotes cs
    else if isQuotable c then parametersOk (.inQuotes true) cs
    else false
  | .afterQuotes, c :: cs =>
    if c = ';' then parametersOk (.name false) cs
    else if c = ' ' then parametersOk .afterQuotes cs
    else false

/-- A subtype cut at its last plus sign, unless that is its first character. -/
def cutSuffix (subtype : List Char) : List Char × Option (List Char) :=
  match Text.cutChars '+' subtype.reverse with
  | (suffix, some (c :: name)) => ((c :: name).reverse, some suffix.reverse)
  | _ => (subtype, none)

/-- Whether a media type, in lower case, says JSON. -/
def isJsonChars (text : List Char) : Bool :=
  match Text.cutChars '/' text with
  | (_, none) => false
  | (type, some rest) =>
    let (subtype, parameters) := Text.cutChars ';' rest
    let (name, suffix) := cutSuffix subtype
    type = "application".toList && subtype.all isToken &&
      (name = "json".toList || suffix = some "json".toList) &&
      match parameters with
      | none => true
      | some parameters => parametersOk (.name false) parameters

/-- Whether a header value is a media type that says JSON. -/
def isJson (value : List UInt8) : Bool :=
  match visibleText? value with
  | none => false
  | some text => isJsonChars (text.map Char.toLower)

end Turnstile.Http.MediaType
