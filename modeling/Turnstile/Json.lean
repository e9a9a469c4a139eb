/-
JSON values and their compact text.

An object is kept as the list of its writes, so that building one is appending to it.
Read as a map, a later write of a key replaces an earlier one, and the text shows that
map: each key once, keys in the order of their code points, at every depth.  Two values
with the same text are therefore the same up to the order in which objects were filled.
-/
import Std.Data.TreeMap
import Turnstile.Json.Number

namespace Turnstile

/-- A JSON value. -/
inductive Json where
  | null
  | bool (b : Bool)
  | number (n : Json.Number)
  | string (s : String)
  | array (items : List Json)
  /-- The writes that filled the object, oldest first. -/
  | object (writes : List (String × Json))
  deriving Repr

namespace Json

/-! ### Strings -/

/-- The digit of a number below sixteen, in lower case. -/
def hexDigit (n : Nat) : Char := Nat.digitChar n

/-- A character inside quotes: only the quote, the backslash and control characters are
escaped. -/
def escaped (c : Char) : List Char :=
  if c = '"' then ['\\', '"']
  else if c = '\\' then ['\\', '\\']
  else if c = '\x08' then ['\\', 'b']
  else if c = '\t' then ['\\', 't']
  else if c = '\n' then ['\\', 'n']
  else if c = '\x0c' then ['\\', 'f']
  else if c = '\r' then ['\\', 'r']
  else if c.toNat < 32 then
    ['\\', 'u', '0', '0', hexDigit (c.toNat / 16), hexDigit (c.toNat % 16)]
  else [c]

/-- A string between quotes. -/
def quoted (s : String) : List Char := '"' :: s.toList.flatMap escaped ++ ['"']

/-! ### Objects as maps -/

/-- The writes of a map in key order, each key with what was written to it last. -/
def settled {α : Type} (writes : List (String × α)) : List (String × α) :=
  (Std.TreeMap.ofList writes : Std.TreeMap String α).toList

/-- What was written to a key last. -/
def lastWrite? {α : Type} (writes : List (String × α)) (key : String) : Option α :=
  writes.reverse.lookup key

/-! ### Text -/

/-- Texts with commas between them. -/
def separated : List (List Char) → List Char
  | [] => []
  | [text] => text
  | text :: next :: rest => text ++ ',' :: separated (next :: rest)

/-- A field: its key, a colon and the text of its value. -/
def fieldText (field : String × List Char) : List Char := quoted field.1 ++ ':' :: field.2

mutual

/-- The compact text of a value. -/
def chars : Json → List Char
  | null => ['n', 'u', 'l', 'l']
  | bool true => ['t', 'r', 'u', 'e']
  | bool false => ['f', 'a', 'l', 's', 'e']
  | number n => n.chars
  | string s => quoted s
  | array items => '[' :: separated (itemChars items) ++ [']']
  | object writes => '{' :: separated ((settled (writeChars writes)).map fieldText) ++ ['}']

/-- The compact texts of the items of an array. -/
def itemChars : List Json → List (List Char)
  | [] => []
  | item :: items => chars item :: itemChars items

/-- The writes of an object with the compact text of each value. -/
def writeChars : List (String × Json) → List (String × List Char)
  | [] => []
  | (key, value) :: writes => (key, chars value) :: writeChars writes

end

/-- The compact text of a value. -/
def compact (v : Json) : String := String.ofList v.chars

/-- A list of strings as a value. -/
def strings (texts : List String) : Json := array (texts.map string)

end Json

end Turnstile
