/-
Help, in short and at length.

Both list the switches in the same order.  The short form puts what a switch means, its
variable and its default on one line; the long form gives each a line of its own.

Names are set in bold.  Help is shown as plain text, and what the variables hold is part of
it: a sequence that a variable leaves open takes the text up to the next name with it.
-/
import Turnstile.Command.Arguments

namespace Turnstile.Command

/-- What help says about a switch. -/
structure Entry where
  switch : Switch
  /-- The meaning, in the short form. -/
  meaning : String
  /-- The meaning, in the long form. -/
  longMeaning : String
  default : Option String := none
  /-- The values that can be chosen, with what each means. -/
  choices : List (String × String) := []

namespace Help

/-- What the program is. -/
def about : String := "Demo API server guarded by rolegate RBAC"

def usage : String := "Usage: rolegate-server [OPTIONS]"

/-- An entry whose meaning is the same in both forms. -/
def entry (switch : Switch) (meaning : String) (default : Option String) : Entry :=
  { switch, meaning, longMeaning := meaning, default }

def entries : List Entry :=
  [ entry .host "Host to bind to" (some ({} : Service).host)
  , entry .port "Port to listen on" (some (Service.portText ({} : Service).port))
  , entry .forbiddenMessage "Message carried by 403 responses"
      (some ("\"" ++ ({} : Settings).forbiddenMessage ++ "\""))
  , entry .additionalPrivileges "Extra roles merged into the role registry" none
  , { entry .check "Check function used by routes without an override"
        (some ({} : Service).policy.word) with
      choices :=
        [ (Policy.Shipped.wildcard.word,
            "Resource/operation matching, role sub-segment ignored")
        , (Policy.Shipped.bestMatch.word, "Weighted three-segment best match") ] }
  , entry .jsonLogs "Enable JSON logging format" none
  , entry .logLevel "Log level (trace, debug, info, warn, error)" (some "info")
  , { entry .help "Print help (see more with '--help')" none with
      longMeaning := "Print help (see a summary with '-h')" }
  , entry .version "Print version" none ]

/-- The line that names a switch. -/
def heading (s : Switch) : String :=
  let letter := match s.letter? with
    | some letter => Text.bold (.ofList ['-', letter]) ++ ", "
    | none => "    "
  let value := match s.valueName? with
    | some value => " <" ++ value ++ ">"
    | none => ""
  "  " ++ letter ++ Text.bold ("--" ++ s.name) ++ value

/-- Moves every line of a text to the right. -/
def indent (text : String) : String :=
  "\n".intercalate ((Text.split '\n' text).map ("          " ++ ·))

/-- A note in brackets. -/
def note (name value : String) : String := "[" ++ name ++ ": " ++ value ++ "]"

/-- The notes on the variable of a switch, with its value if it is set, and on the default. -/
def notes (environment : Environment) (e : Entry) : List String :=
  (e.switch.envName?.map fun name =>
      note "env" (name ++ "=" ++ (environment.lookup name).getD "")).toList ++
    (e.default.map (note "default")).toList

/-- An entry of the short form. -/
def short (environment : Environment) (e : Entry) : List String :=
  let choices := match e.choices with
    | [] => []
    | choices => [note "possible values" (", ".intercalate (choices.map (·.1)))]
  [heading e.switch, indent (" ".intercalate (e.meaning :: notes environment e ++ choices))]

/-- The lines on the choices of a switch, their meanings one below the other. -/
def choiceLines (choices : List (String × String)) : List String :=
  let width := (choices.map fun choice => choice.1.length).foldl max 0
  choices.map fun (word, meaning) =>
    indent ("- " ++ Text.bold word ++ ":" ++
      .ofList (List.replicate (width - word.length + 1) ' ') ++ meaning)

/-- An entry of the long form. -/
def long (environment : Environment) (e : Entry) : List String :=
  let choices := match e.choices with
    | [] => []
    | choices => ["", indent "Possible values:"] ++ choiceLines choices
  let notes := match notes environment e with
    | [] => []
    | notes => indent "" :: notes.map indent
  [heading e.switch, indent e.longMeaning] ++ choices ++ notes

/-- Lists of lines with an empty line between them. -/
def spaced : List (List String) → List String
  | [] => []
  | [lines] => lines
  | lines :: next :: rest => lines ++ "" :: spaced (next :: rest)

/-- The help as it is written. -/
def text (isLong : Bool) (environment : Environment) : String :=
  let body :=
    if isLong then spaced (entries.map (long environment))
    else entries.flatMap (short environment)
  "\n".intercalate ([about, "", usage, "", "Options:"] ++ body)

/-- The lines of the help as they are shown. -/
def lines (isLong : Bool) (environment : Environment) : List String :=
  Text.split '\n' (Text.plain (text isLong environment))

end Help

/-- The line that tells the version. -/
def versionLine : String := "rolegate-server " ++ Demo.version

end Turnstile.Command
