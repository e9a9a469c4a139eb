/-
Text without terminal control sequences.

A message may end up in a file, so the control sequences of terminals are taken out of it,
whoever put them in.  A sequence starts at an escape character, the next character tells
its kind, and the kind tells how far it reaches; one that is not complete reaches to the
end.  Other control characters go too, apart from those that part words and lines.

The characters shown come in runs, and a run ends only at a character that is never shown.
So a blank within a control sequence, which starts a run, shows the rest of the sequence.
-/
namespace Turnstile.Text

/-- What kind of sequence a reader is in. -/
inductive Sequence where
  /-- None: the characters are text. -/
  | outside
  /-- One whose kind is not known yet. -/
  | opened
  /-- One that ends at its first letter or digit. -/
  | short
  /-- A control sequence: numbers, ended by a letter. -/
  | control
  /-- A command to the system, ended by a bell. -/
  | command
  /-- The head of a device string. -/
  | device
  /-- The numbers of a device string. -/
  | deviceNumbers
  /-- The marks between the numbers and the data of a device string. -/
  | deviceMarks
  /-- The data of a device string, or a private string. -/
  | data
  deriving DecidableEq, Repr

namespace Sequence

/-- Whether a character lies between two, both included. -/
def between (first last c : Char) : Bool := first ≤ c && c ≤ last

/-- A mark, which goes before the character that ends a sequence. -/
def isMark (c : Char) : Bool := between ' ' '/' c

/-- A character that data ends at: its encoding holds the byte that terminates strings. -/
def endsData (c : Char) : Bool := (String.utf8EncodeChar c).contains 0x9c

/-- What a character that is not shown leads to. -/
def next (s : Sequence) (c : Char) : Sequence :=
  if c = '\x1b' then .opened
  else if c = '\x18' || c = '\x1a' then .outside
  else
    match s with
    | .outside => .outside
    | .opened =>
      if isMark c then .short
      else if c = '[' then .control
      else if c = ']' then .command
      else if c = 'P' then .device
      else if c = 'X' || c = '^' || c = '_' then .data
      else if between '0' '~' c then .outside
      else .opened
    | .short => if between '0' '~' c then .outside else .short
    | .control => if between '@' '~' c then .outside else .control
    | .command => if c = '\x07' then .outside else .command
    | .device =>
      if isMark c then .deviceMarks
      else if between '0' '?' c then .deviceNumbers
      else if between '@' '~' c then .data
      else .device
    | .deviceNumbers =>
      if isMark c then .deviceMarks
      else if between '<' '~' c then .data
      else .deviceNumbers
    | .deviceMarks => if between '0' '~' c then .data else .deviceMarks
    | .data => if endsData c then .outside else .data

/-- The control characters that part words and lines. -/
def isBlank (c : Char) : Bool := c = '\t' || c = '\n' || c = '\x0c' || c = '\r'

/-- Whether a character is shown. -/
def shows (s : Sequence) (c : Char) : Bool :=
  match s with
  | .outside => isBlank c || (' ' ≤ c && c ≠ '\x7f')
  | .opened => isBlank c
  | .short => isBlank c
  | .control => isBlank c
  | _ => false

end Sequence

/-- The characters shown; `running` says whether the one before was. -/
def plainChars (s : Sequence) (running : Bool) : List Char → List Char
  | [] => []
  | c :: cs =>
    if (if running then Sequence.outside else s).shows c then
      c :: plainChars (if c.toNat < 0x80 then s else .outside) true cs
    else plainChars (s.next c) false cs

/-- The text without terminal control sequences. -/
def plain (s : String) : String := .ofList (plainChars .outside false s.toList)

/-- The text in bold, as terminals show it. -/
def bold (s : String) : String := "\x1b[1m" ++ s ++ "\x1b[0m"

end Turnstile.Text
