/-
Path patterns.

A pattern is a path in which a part `:name` stands for one segment and a last part `*name`
for all that is left.  Names do not matter to matching, so a pattern is read into pieces
without them.
-/
namespace Turnstile.Http

/-- One piece of a pattern. -/
inductive Piece where
  | literal (c : Char)
  /-- A segment, up to the next slash. -/
  | segment
  /-- All that is left. -/
  | rest
  deriving DecidableEq, Repr

abbrev Pattern := List Piece

namespace Pattern

/-- Where the reader stands in a pattern. -/
inductive Place where
  /-- Among literal characters. -/
  | literal
  /-- In the name of a segment, which may still be empty. -/
  | segmentName (named : Bool)
  /-- In the name of a rest, which may still be empty. -/
  | restName (named : Bool)
  deriving DecidableEq, Repr

/-- The pieces of a pattern.  A name is not empty and holds no colon or asterisk, and a rest
is the last piece. -/
def pieces? : Place → List Char → Option Pattern
  | .literal, [] => some []
  | .segmentName named, [] => if named then some [] else none
  | .restName named, [] => if named then some [] else none
  | .literal, c :: cs =>
    if c = ':' then (pieces? (.segmentName false) cs).map (.segment :: ·)
    else if c = '*' then (pieces? (.restName false) cs).map (.rest :: ·)
    else (pieces? .literal cs).map (.literal c :: ·)
  | .segmentName named, c :: cs =>
    if c = '/' then
      if named then (pieces? .literal cs).map (.literal '/' :: ·) else none
    else if c = ':' || c = '*' then none
    else pieces? (.segmentName true) cs
  | .restName _, c :: cs =>
    if c = '/' || c = ':' || c = '*' then none else pieces? (.restName true) cs

/-- How many segments a pattern may capture. -/
def mostSegments : Nat := 25

/-- Reads a pattern, which starts with a slash. -/
def ofString? (path : String) : Option Pattern :=
  match path.toList with
  | '/' :: cs => do
    let pieces ← pieces? .literal cs
    if pieces.count .segment ≤ mostSegments then some (.literal '/' :: pieces) else none
  | _ => none

end Pattern

end Turnstile.Http
