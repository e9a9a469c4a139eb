/-
The log: what a program reports while it runs, and which of it is shown.

An event has a level, the part of the program it comes from, a message and named fields.
A filter is a list of directives; of those whose target the event's target starts with,
the longest decides how verbose the event may be, and of equally long ones the last.  An
event that no directive is about is not shown.
-/
import Turnstile.Json
import Turnstile.Text.Cut
import Turnstile.Text.Unseen

namespace Turnstile.Log

/-! ### Levels -/

inductive Level where
  | error
  | warn
  | info
  | debug
  | trace
  deriving DecidableEq, Repr

namespace Level

/-- The name under which a level is shown. -/
def name : Level → String
  | error => "ERROR"
  | warn => "WARN"
  | info => "INFO"
  | debug => "DEBUG"
  | trace => "TRACE"

/-- How verbose a level is. -/
def verbosity : Level → Nat
  | error => 1
  | warn => 2
  | info => 3
  | debug => 4
  | trace => 5

def all : List Level := [error, warn, info, debug, trace]

/-- The number that a text spells with decimal digits, after at most one plus sign. -/
def natural? (text : List Char) : Option Nat :=
  let digits := match text with
    | '+' :: rest => rest
    | rest => rest
  if !digits.isEmpty && digits.all Char.isDigit then
    some (digits.foldl (fun n c => n * 10 + (c.toNat - '0'.toNat)) 0)
  else none

/-- The level that a text means: its name in any case, or its verbosity. -/
def ofText? (text : String) : Option Level :=
  match natural? text.toList with
  | some n => all.find? fun level => level.verbosity = n
  | none => all.find? fun level => Text.sameIgnoringCase level.name text

end Level

/-! ### Events -/

structure Event where
  level : Level
  target : String
  message : String
  fields : List (String × String) := []
  deriving DecidableEq, Repr

namespace Event

/-- The message with the fields after it. -/
def text (e : Event) : String :=
  e.fields.foldl (fun text (name, value) => text ++ " " ++ name ++ "=" ++ value) e.message

/-- The event as one line. -/
def line (e : Event) : String := e.level.name ++ " " ++ e.target ++ ": " ++ e.text

/-- The event as a JSON value. -/
def json (e : Event) : Json :=
  .object
    [ ("level", .string e.level.name)
    , ("target", .string e.target)
    , ("fields", .object (("message", .string e.message) ::
        e.fields.map fun (name, value) => (name, .string value))) ]

end Event

/-! ### Filters -/

/-- Up to which verbosity events of some targets are shown. -/
structure Directive where
  target : String
  verbosity : Nat
  deriving DecidableEq, Repr

abbrev Filter := List Directive

namespace Directive

/-- Whether the directive is about a target. -/
def covers (d : Directive) (target : String) : Bool := d.target.toList.isPrefixOf target.toList

/-- The verbosity that a word means: a level, or none of them. -/
def verbosity? (word : String) : Option Nat :=
  if Text.sameIgnoringCase word "off" || Level.natural? word.toList == some 0 then some 0
  else (Level.ofText? word).map Level.verbosity

/-- A directive that shows everything of a target. -/
def everything (target : String) : Directive := { target, verbosity := Level.trace.verbosity }

/-- Whether a directive can start with the character: any that can be seen beyond ASCII, and
of ASCII a letter, a digit, a dash, a colon or an underscore. -/
def canStart (c : Char) : Bool :=
  c.isAlphanum || c = '-' || c = ':' || c = '_' || (0x80 ≤ c.toNat && !Text.isUnseen c)

/-- Reads a directive: a verbosity for all targets, a target with its verbosity, or a target
of which everything is shown. -/
def ofText? (text : String) : Option Directive :=
  if !text.toList.head?.any canStart then none
  else
    match Text.cut '=' text with
    | (word, none) =>
      match verbosity? word with
      | some verbosity => some { target := "", verbosity }
      | none => some (everything word)
    | (target, some "") => some (everything target)
    | (target, some word) => (verbosity? word).map fun verbosity => { target, verbosity }

end Directive

namespace Filter

/-- Reads directives separated by commas; none if one of them cannot be read. -/
def ofText? (text : String) : Option Filter :=
  ((Text.split ',' text).filter (!·.isEmpty)).mapM Directive.ofText?

/-- The same verbosity for each of some targets. -/
def upTo (level : Level) (targets : List String) : Filter :=
  targets.map fun target => { target, verbosity := level.verbosity }

/-- The more decisive of two directives that both cover a target. -/
def closer (best : Option Directive) (d : Directive) : Option Directive :=
  match best with
  | none => some d
  | some b => if b.target.length ≤ d.target.length then some d else some b

/-- The directive that decides on a target. -/
def deciding? (f : Filter) (target : String) : Option Directive :=
  (f.filter (·.covers target)).foldl closer none

/-- Whether an event is shown. -/
def shows (f : Filter) (e : Event) : Bool :=
  match f.deciding? e.target with
  | none => false
  | some d => e.level.verbosity ≤ d.verbosity

end Filter

end Turnstile.Log
