/-
The command line and the variables beside it.

Arguments are read from left to right.  A switch that takes a value takes what follows its
name after an equals sign, or else the next argument, which must not look like a switch
itself.  Such a value is looked at only when the next switch comes or the line ends; an
argument that means nothing is refused at once, ahead of it.  Variables stand in for
switches that were not given.
-/
import Turnstile.Service
import Turnstile.Text.Plain

namespace Turnstile.Command

/-! ### Switches -/

/-- The switches of the program. -/
inductive Switch where
  | host
  | port
  | forbiddenMessage
  | additionalPrivileges
  | check
  | jsonLogs
  | logLevel
  | help
  | version
  deriving DecidableEq, Repr

namespace Switch

def all : List Switch :=
  [host, port, forbiddenMessage, additionalPrivileges, check, jsonLogs, logLevel, help, version]

/-- The name after two dashes. -/
def name : Switch → String
  | host => "host"
  | port => "port"
  | forbiddenMessage => "forbidden-message"
  | additionalPrivileges => "additional-privileges"
  | check => "check"
  | jsonLogs => "json-logs"
  | logLevel => "log-level"
  | help => "help"
  | version => "version"

/-- The letter after one dash. -/
def letter? : Switch → Option Char
  | host => some 'H'
  | port => some 'p'
  | logLevel => some 'l'
  | help => some 'h'
  | version => some 'V'
  | _ => none

/-- How the value of a switch is called; none if it takes no value. -/
def valueName? : Switch → Option String
  | host => some "HOST"
  | port => some "PORT"
  | forbiddenMessage => some "FORBIDDEN_MESSAGE"
  | additionalPrivileges => some "ADDITIONAL_PRIVILEGES"
  | check => some "CHECK"
  | logLevel => some "LOG_LEVEL"
  | _ => none

def takesValue (s : Switch) : Bool := s.valueName?.isSome

/-- The variable that stands in for a switch. -/
def envName? : Switch → Option String
  | host => some "ROLEGATE_HOST"
  | port => some "ROLEGATE_PORT"
  | forbiddenMessage => some "ROLEGATE_FORBIDDEN_MESSAGE"
  | additionalPrivileges => some "ROLEGATE_ADDITIONAL_PRIVILEGES"
  | jsonLogs => some "ROLEGATE_JSON_LOGS"
  | _ => none

/-- How messages show a switch. -/
def text (s : Switch) : String :=
  match s.valueName? with
  | none => "--" ++ s.name
  | some value => "--" ++ s.name ++ " <" ++ value ++ ">"

def ofName? (name : String) : Option Switch := all.find? fun s => s.name = name

def ofLetter? (letter : Char) : Option Switch := all.find? fun s => s.letter? = some letter

end Switch

/-! ### Mistakes -/

/-- What is wrong with a command line. -/
inductive Mistake where
  | unexpectedArgument (argument : String)
  | missingValue (switch : Switch)
  | repeated (switch : Switch)
  /-- A value for a switch that takes none. -/
  | unexpectedValue (value : String) (switch : Switch)
  /-- A value that does not suit its switch, sometimes with the reason. -/
  | invalidValue (value : String) (switch : Switch) (reason : Option String)
  deriving DecidableEq, Repr

/-- What the user is told.  What they wrote is told as plain text. -/
def Mistake.text : Mistake → String
  | unexpectedArgument argument =>
    "error: unexpected argument '" ++ Text.plain argument ++ "' found"
  | missingValue switch =>
    "error: a value is required for '" ++ switch.text ++ "' but none was supplied"
  | repeated switch =>
    "error: the argument '" ++ switch.text ++ "' cannot be used multiple times"
  | unexpectedValue value switch =>
    "error: unexpected value '" ++ Text.plain value ++ "' for '" ++ switch.text ++
      "' found; no more were expected"
  | invalidValue value switch reason =>
    "error: invalid value '" ++ Text.plain value ++ "' for '" ++ switch.text ++ "'" ++
      match reason with
      | none => ""
      | some reason => ": " ++ reason

/-- The line that the user is told: the first of the text. -/
def Mistake.message (m : Mistake) : String := (Text.cut '\n' m.text).1

/-! ### Values -/

/-- The values given so far. -/
structure Given where
  host : Option String := none
  port : Option UInt16 := none
  forbiddenMessage : Option String := none
  additionalPrivileges : Option (List String) := none
  check : Option Policy.Shipped := none
  jsonLogs : Option Bool := none
  logLevel : Option String := none

namespace Given

/-- Whether a switch was given. -/
def has (g : Given) : Switch → Bool
  | .host => g.host.isSome
  | .port => g.port.isSome
  | .forbiddenMessage => g.forbiddenMessage.isSome
  | .additionalPrivileges => g.additionalPrivileges.isSome
  | .check => g.check.isSome
  | .jsonLogs => g.jsonLogs.isSome
  | .logLevel => g.logLevel.isSome
  | .help => false
  | .version => false

/-- Whether a switch may be given more than once. -/
def mayRepeat (s : Switch) : Bool := s = .additionalPrivileges

/-- How far below zero a whole number of 64 bits reaches. -/
def farthest : Nat := 0x8000000000000000

/-- Why digits spell no number from -2⁶³ to 2⁶³ - 1; they are read from the left, and the first
reason met counts. -/
def wholeDigits (negative : Bool) (n : Nat) : List Char → Except String Nat
  | [] => .ok n
  | c :: cs =>
    if !c.isDigit then .error "invalid digit found in string"
    else
      let next := n * 10 + (c.toNat - '0'.toNat)
      if negative && farthest < next then .error "number too small to fit in target type"
      else if !negative && farthest ≤ next then .error "number too large to fit in target type"
      else wholeDigits negative next cs

/-- The whole number that a text spells, after at most one sign. -/
def wholeNumber (text : List Char) : Except String Int :=
  match text with
  | [] => .error "cannot parse integer from empty string"
  | ['+'] => .error "invalid digit found in string"
  | ['-'] => .error "invalid digit found in string"
  | '+' :: digits => (wholeDigits false 0 digits).map fun n => (n : Int)
  | '-' :: digits => (wholeDigits true 0 digits).map fun n => -(n : Int)
  | digits => (wholeDigits false 0 digits).map fun n => (n : Int)

/-- The text of a whole number. -/
def wholeText (n : Int) : String :=
  if n < 0 then "-" ++ Decimal.natText n.natAbs else Decimal.natText n.natAbs

/-- The port that a text spells. -/
def portNumber (text : String) : Except String UInt16 := do
  let n ← wholeNumber text.toList
  if 0 ≤ n ∧ n ≤ 65535 then .ok (UInt16.ofNat n.toNat)
  else .error (wholeText n ++ " is not in 0..=65535")

/-- Notes the value of a switch. -/
def store (g : Given) (switch : Switch) (value : String) : Except Mistake Given :=
  let invalid (reason : Option String) : Mistake :=
    if value.isEmpty && reason.isNone then .missingValue switch
    else .invalidValue value switch reason
  match switch with
  | .host => .ok { g with host := some value }
  | .port =>
    match portNumber value with
    | .ok port => .ok { g with port := some port }
    | .error reason => .error (invalid (some reason))
  | .forbiddenMessage => .ok { g with forbiddenMessage := some value }
  | .additionalPrivileges =>
    let before := g.additionalPrivileges.getD []
    .ok { g with additionalPrivileges := some (before ++ Text.split ',' value) }
  | .check =>
    match Policy.Shipped.ofWord value false with
    | .ok policy => .ok { g with check := some policy }
    | .error _ => .error (invalid none)
  | .jsonLogs =>
    if value = "true" then .ok { g with jsonLogs := some true }
    else if value = "false" then .ok { g with jsonLogs := some false }
    else .error (invalid none)
  | .logLevel => .ok { g with logLevel := some value }
  | .help => .ok g
  | .version => .ok g

/-- Takes the value of a switch from the command line. -/
def accept (g : Given) (switch : Switch) (value : String) : Except Mistake Given :=
  if g.has switch && !mayRepeat switch then .error (.repeated switch) else g.store switch value

end Given

/-! ### Reading the line -/

/-- Why reading the line stops early. -/
inductive Stop where
  | mistake (m : Mistake)
  /-- Help is asked for, in short or at length. -/
  | help (long : Bool)
  | version
  deriving DecidableEq, Repr

/-- A switch whose value is yet to come, or yet to be looked at. -/
structure Waiting where
  switch : Switch
  value : Option String

/-- How far the line was read. -/
structure Scan where
  given : Given := {}
  waiting : Option Waiting := none

namespace Scan

/-- A mistake stops the reading. -/
def check {α : Type} : Except Mistake α → Except Stop α
  | .ok a => .ok a
  | .error m => .error (.mistake m)

/-- Looks at the value that is waiting. -/
def settle (s : Scan) : Except Stop Scan :=
  match s.waiting with
  | none => .ok s
  | some { switch, value := none } => .error (.mistake (.missingValue switch))
  | some { switch, value := some value } => do
    .ok { given := ← check (s.given.accept switch value), waiting := none }

/-- Gives a switch a value that is attached to it. -/
def attach (s : Scan) (switch : Switch) (value : String) : Except Stop Scan := do
  let s ← s.settle
  .ok { s with given := ← check (s.given.accept switch value) }

/-- Lets a switch wait for its value. -/
def await (s : Scan) (switch : Switch) : Except Stop Scan := do
  let s ← s.settle
  .ok { s with waiting := some { switch, value := none } }

/-- Gives a switch that takes no value; `long` says whether by its name. -/
def flag (s : Scan) (switch : Switch) (long : Bool) : Except Stop Scan := do
  let s ← s.settle
  match switch with
  | .help => .error (.help long)
  | .version => .error .version
  | switch => s.attach switch "true"

/-- Reads an argument that starts with two dashes, without them. -/
def byName (s : Scan) (argument : String) : Except Stop Scan :=
  let (name, value) := Text.cut '=' argument
  match Switch.ofName? name, value with
  | none, _ => .error (.mistake (.unexpectedArgument ("--" ++ name)))
  | some switch, none => if switch.takesValue then s.await switch else s.flag switch true
  | some switch, some value =>
    if switch.takesValue then s.attach switch value
    else .error (.mistake (.unexpectedValue value switch))

/-- Reads an argument that starts with one dash, without it: letters of switches, the last of
which may have its value attached. -/
def byLetters (s : Scan) : List Char → Except Stop Scan
  | [] => .ok s
  | c :: cs =>
    match Switch.ofLetter? c with
    | none => .error (.mistake (.unexpectedArgument (.ofList ['-', c])))
    | some switch =>
      if switch.takesValue then
        match cs with
        | [] => s.await switch
        | '=' :: value => s.attach switch (.ofList value)
        | value => s.attach switch (.ofList value)
      else do
        let s ← s.flag switch false
        s.byLetters cs

/-- Reads an argument that is a value, or nothing that is known. -/
def plain (s : Scan) (argument : String) : Except Stop Scan :=
  match s.waiting with
  | some { switch, value := none } =>
    .ok { s with waiting := some { switch, value := some argument } }
  | _ => .error (.mistake (.unexpectedArgument argument))

/-- Reads the arguments; after two dashes alone no argument is known. -/
def arguments (s : Scan) : List String → Except Stop Scan
  | [] => s.settle
  | argument :: rest => do
    match argument.toList with
    | ['-', '-'] =>
      match rest with
      | [] => s.settle
      | next :: _ => .error (.mistake (.unexpectedArgument next))
    | '-' :: '-' :: name => (← s.byName (.ofList name)).arguments rest
    | '-' :: c :: letters => (← s.byLetters (c :: letters)).arguments rest
    | _ => (← s.plain argument).arguments rest

end Scan

/-! ### Variables -/

/-- The variables a program is run with, by name. -/
abbrev Environment := List (String × String)

/-- Takes the value of a switch from its variable, unless it was given. -/
def Given.fromVariable (environment : Environment) (g : Given) (switch : Switch) :
    Except Mistake Given :=
  if g.has switch then .ok g
  else
    match switch.envName?.bind fun name => environment.lookup name with
    | none => .ok g
    | some value => g.store switch value

/-! ### The result -/

/-- What a command line asks for. -/
structure Arguments where
  service : Service
  jsonLogs : Bool
  logLevel : String

/-- The values given, with the defaults of those that were not. -/
def Given.complete (g : Given) : Arguments where
  service :=
    { host := g.host.getD ({} : Service).host
      port := g.port.getD ({} : Service).port
      settings :=
        { forbiddenMessage := g.forbiddenMessage.getD ({} : Settings).forbiddenMessage
          additionalPrivileges := g.additionalPrivileges.getD [] }
      policy := g.check.getD ({} : Service).policy }
  jsonLogs := g.jsonLogs.getD false
  logLevel := g.logLevel.getD "info"

/-- Reads the command line, then the variables. -/
def Arguments.parse (arguments : List String) (environment : Environment) :
    Except Stop Arguments := do
  let scan ← ({} : Scan).arguments arguments
  let given ← Switch.all.foldlM
    (fun given switch => Scan.check (Given.fromVariable environment given switch)) scan.given
  .ok given.complete

end Turnstile.Command
