/-
The JSON form of the settings.

An object may give the two fields in any order among fields of other names; one it does
not give keeps its default.  An array gives them by position.  What is written has both
fields, the message first, and reads back as the same settings.
-/
import Turnstile.Json.Reader
import Turnstile.Settings

namespace Turnstile.Settings

open Json

/-- The name of the field that holds the message. -/
def messageField : String := "forbidden_message"

/-- The name of the field that holds the privileges. -/
def privilegesField : String := "additional_privileges"

/-- What a text has given so far. -/
structure Given where
  message : Option String := none
  privileges : Option (List String) := none
  deriving DecidableEq, Repr

/-- The settings a text gave, with the defaults for what it left out. -/
def Given.settings (g : Given) : Settings where
  forbiddenMessage := g.message.getD ({} : Settings).forbiddenMessage
  additionalPrivileges := g.privileges.getD ({} : Settings).additionalPrivileges

/-- Reads one field of an object, or passes over it. -/
def readField (key : String) (given : Given) (cs : List Char) :
    Except Problem (Given × List Char) := do
  if key = messageField then
    let (message, rest) ← textField given.message cs
    .ok ({ given with message }, rest)
  else if key = privilegesField then
    let (privileges, rest) ← textsField given.privileges cs
    .ok ({ given with privileges }, rest)
  else
    .ok (given, ← passField cs)

/-- Reads the settings of an array by position, up to and with its bracket. -/
def readPositions (cs : List Char) : Except Problem (Given × List Char) := do
  match ← nextItem true cs with
  | none => .ok ({}, ← closeArray cs)
  | some cs =>
    let (message, cs) ← readText cs
    match ← nextItem false cs with
    | none => .ok ({ message := some message }, ← closeArray cs)
    | some cs =>
      let (privileges, cs) ← readTexts cs
      .ok ({ message := some message, privileges := some privileges }, ← closeArray cs)

/-- Reads settings that stand next. -/
def readGiven (cs : List Char) : Except Problem (Given × List Char) :=
  match skipBlanks cs with
  | '[' :: rest => readPositions rest
  | '{' :: rest => foldFields readField (stepsFor rest) true {} rest
  | rest => .error (wrongType rest)

/-- Reads a text that holds settings and nothing else. -/
def parse (text : String) : Except Problem Settings := do
  let (given, rest) ← readGiven text.toList
  expectEnd rest
  .ok given.settings

/-- The compact text of the settings, the message first. -/
def serialize (s : Settings) : String :=
  .ofList ('{' :: separated
    [ fieldText (messageField, quoted s.forbiddenMessage)
    , fieldText (privilegesField, (Json.strings s.additionalPrivileges).chars) ] ++ ['}'])

end Turnstile.Settings
