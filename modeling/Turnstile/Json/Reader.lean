/-
Reading JSON values, and passing over them.

A reader descends into arrays and objects, and each step into one or along one uses up a
character, so a number of steps computed from the length of the text is always enough.
A value nobody needs is passed over by the same grammar with two liberties: the size of
its numbers is not looked at, and the halves of escaped characters need not pair up.
-/
import Turnstile.Json
import Turnstile.Json.Numeral

namespace Turnstile.Json

/-- Enough steps for any text of this length. -/
def stepsFor (cs : List Char) : Nat := 2 * cs.length + 2

/-! ### Passing over a value -/

mutual

/-- What is left after a value that stands next. -/
def passValue : Nat → List Char → Except Problem (List Char)
  | 0, _ => .error .truncated
  | steps + 1, cs =>
    match skipBlanks cs with
    | [] => .error .truncated
    | 'n' :: rest => expect ['u', 'l', 'l'] rest
    | 't' :: rest => expect ['r', 'u', 'e'] rest
    | 'f' :: rest => expect ['a', 'l', 's', 'e'] rest
    | '"' :: rest => passString .plain rest
    | '[' :: rest => passItems steps true rest
    | '{' :: rest => passFields steps true rest
    | c :: rest =>
      if Numeral.canStart c then (Numeral.read .malformed (c :: rest)).map (·.2)
      else .error .malformed

/-- What is left after the items of an array and its bracket. -/
def passItems : Nat → Bool → List Char → Except Problem (List Char)
  | 0, _, _ => .error .truncated
  | steps + 1, first, cs =>
    match nextItem first cs with
    | .error problem => .error problem
    | .ok none => closeArray cs
    | .ok (some rest) =>
      match passValue steps rest with
      | .error problem => .error problem
      | .ok rest => passItems steps false rest

/-- What is left after the fields of an object and its brace. -/
def passFields : Nat → Bool → List Char → Except Problem (List Char)
  | 0, _, _ => .error .truncated
  | steps + 1, first, cs =>
    match nextField first cs with
    | .error problem => .error problem
    | .ok none => closeObject cs
    | .ok (some rest) =>
      match passString .plain rest >>= passColon >>= passValue steps with
      | .error problem => .error problem
      | .ok rest => passFields steps false rest

end

/-! ### Reading any value -/

/-- Reads a numeral as a number; one beyond the range of doubles is malformed. -/
def readNumber (cs : List Char) : Except Problem (Number × List Char) :=
  match Numeral.read .truncated cs with
  | .error problem => .error problem
  | .ok (numeral, rest) =>
    match numeral.number? with
    | none => .error .malformed
    | some n => .ok (n, rest)

mutual

/-- Reads the value that stands next. -/
def readValue : Nat → List Char → Except Problem (Json × List Char)
  | 0, _ => .error .truncated
  | steps + 1, cs =>
    match skipBlanks cs with
    | [] => .error .truncated
    | 'n' :: rest => (expect ['u', 'l', 'l'] rest).map (null, ·)
    | 't' :: rest => (expect ['r', 'u', 'e'] rest).map (bool true, ·)
    | 'f' :: rest => (expect ['a', 'l', 's', 'e'] rest).map (bool false, ·)
    | '"' :: rest => (readString .plain rest).map fun (s, rest) => (string (.ofList s), rest)
    | '[' :: rest => (readItems steps true rest).map fun (items, rest) => (array items, rest)
    | '{' :: rest => (readFields steps true rest).map fun (writes, rest) => (object writes, rest)
    | c :: rest =>
      if Numeral.canStart c then (readNumber (c :: rest)).map fun (n, rest) => (number n, rest)
      else .error .malformed

/-- Reads the items of an array and its bracket. -/
def readItems : Nat → Bool → List Char → Except Problem (List Json × List Char)
  | 0, _, _ => .error .truncated
  | steps + 1, first, cs =>
    match nextItem first cs with
    | .error problem => .error problem
    | .ok none => (closeArray cs).map ([], ·)
    | .ok (some rest) => do
      let (item, rest) ← readValue steps rest
      let (items, rest) ← readItems steps false rest
      .ok (item :: items, rest)

/-- Reads the fields of an object and its brace. -/
def readFields : Nat → Bool → List Char → Except Problem (List (String × Json) × List Char)
  | 0, _, _ => .error .truncated
  | steps + 1, first, cs =>
    match nextField first cs with
    | .error problem => .error problem
    | .ok none => (closeObject cs).map ([], ·)
    | .ok (some rest) => do
      let (key, rest) ← readString .plain rest
      let rest ← passColon rest
      let (value, rest) ← readValue steps rest
      let (writes, rest) ← readFields steps false rest
      .ok ((.ofList key, value) :: writes, rest)

end

/-- Reads a text that holds one value and nothing else. -/
def parse (text : String) : Except Problem Json := do
  let cs := text.toList
  let (value, rest) ← readValue (stepsFor cs) cs
  expectEnd rest
  .ok value

/-! ### Reading values of a known type -/

/-- What is wrong with a value of another type than the one looked for: its own fault if it
has one, otherwise only its type. -/
def wrongType (cs : List Char) : Problem :=
  let blame {α : Type} : Except Problem α → Problem
    | .error problem => problem
    | .ok _ => .mistyped
  match cs with
  | [] => .truncated
  | 'n' :: rest => blame (expect ['u', 'l', 'l'] rest)
  | 't' :: rest => blame (expect ['r', 'u', 'e'] rest)
  | 'f' :: rest => blame (expect ['a', 'l', 's', 'e'] rest)
  | '"' :: rest => blame (readString .plain rest)
  | '[' :: _ => .mistyped
  | '{' :: _ => .mistyped
  | c :: rest =>
    if Numeral.canStart c then blame (readNumber (c :: rest)) else .malformed

/-- Reads a string. -/
def readText (cs : List Char) : Except Problem (String × List Char) :=
  match skipBlanks cs with
  | '"' :: rest => (readString .plain rest).map fun (s, rest) => (.ofList s, rest)
  | rest => .error (wrongType rest)

/-- Reads the items of an array of strings and its bracket. -/
def readTextItems : Nat → Bool → List Char → Except Problem (List String × List Char)
  | 0, _, _ => .error .truncated
  | steps + 1, first, cs =>
    match nextItem first cs with
    | .error problem => .error problem
    | .ok none => (closeArray cs).map ([], ·)
    | .ok (some rest) => do
      let (item, rest) ← readText rest
      let (items, rest) ← readTextItems steps false rest
      .ok (item :: items, rest)

/-- Reads an array of strings. -/
def readTexts (cs : List Char) : Except Problem (List String × List Char) :=
  match skipBlanks cs with
  | '[' :: rest => readTextItems (stepsFor rest) true rest
  | rest => .error (wrongType rest)

/-- Reads the fields of an object and its brace: `field` takes a key and what is left after
it, colon included, and updates what was read so far. -/
def foldFields {σ : Type} (field : String → σ → List Char → Except Problem (σ × List Char)) :
    Nat → Bool → σ → List Char → Except Problem (σ × List Char)
  | 0, _, _, _ => .error .truncated
  | steps + 1, first, state, cs =>
    match nextField first cs with
    | .error problem => .error problem
    | .ok none => (closeObject cs).map (state, ·)
    | .ok (some rest) => do
      let (key, rest) ← readString .plain rest
      let (state, rest) ← field (.ofList key) state rest
      foldFields field steps false state rest

/-- A field's value that is a string, once; a second one is of the wrong type. -/
def textField (before : Option String) (cs : List Char) :
    Except Problem (Option String × List Char) :=
  match before with
  | some _ => .error .mistyped
  | none => do
    let (value, rest) ← readText (← passColon cs)
    .ok (some value, rest)

/-- A field's value that is a list of strings, once; a second one is of the wrong type. -/
def textsField (before : Option (List String)) (cs : List Char) :
    Except Problem (Option (List String) × List Char) :=
  match before with
  | some _ => .error .mistyped
  | none => do
    let (value, rest) ← readTexts (← passColon cs)
    .ok (some value, rest)

/-- What is left after the value of a field nobody looks at. -/
def passField (cs : List Char) : Except Problem (List Char) := do
  let rest ← passColon cs
  passValue (stepsFor rest) rest

end Turnstile.Json
