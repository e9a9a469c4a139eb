/-
How well a held privilege answers a required one.

Two privileges match when all three positions agree.  A wildcard on either side
agrees with any literal; in the role position, and only there, it also agrees with a
role that was not written.  Every wildcard and every absent position, on either side,
costs one point of the nine that two equal literal privileges score, so the weight
says how specific the match is.  Of many matching pairs the heaviest is taken, and of
equally heavy ones the earliest, required privileges before held ones.
-/
import Turnstile.Privilege

namespace Turnstile

/-- What comparing one position of two privileges finds. -/
structure Comparison where
  agrees : Bool
  /-- How many of the two sides are wildcards. -/
  wildcards : Nat
  /-- How many of the two sides are absent. -/
  absences : Nat
  deriving DecidableEq, Repr

namespace Comparison

/-- The points the position costs. -/
def penalty (c : Comparison) : Nat := c.wildcards + c.absences

end Comparison

namespace Segment

/-- Whether `wild` is a wildcard that may stand for `other`; for an absent position only
where absence is `lenient`. -/
def standsFor (lenient : Bool) (wild other : Segment) : Bool :=
  wild.isWildcard && (lenient || !other.isAbsent)

/-- Compares one position of a required and a held privilege. -/
def compare (lenient : Bool) (required held : Segment) : Comparison where
  agrees := required == held || standsFor lenient required held || standsFor lenient held required
  wildcards := required.isWildcard.toNat + held.isWildcard.toNat
  absences := required.isAbsent.toNat + held.isAbsent.toNat

end Segment

/-- The weight of a match in which every position is a literal. -/
def fullWeight : Nat := 9

namespace Privilege

/-- The weight of the match, if all three positions agree. -/
def weight? (required held : Privilege) : Option Nat :=
  let resource := Segment.compare false required.resource held.resource
  let role := Segment.compare true required.role held.role
  let operation := Segment.compare false required.operation held.operation
  if resource.agrees && role.agrees && operation.agrees then
    some (fullWeight - (resource.penalty + role.penalty + operation.penalty))
  else none

end Privilege

/-- A required and a held privilege that match, with the weight of the match. -/
structure Match where
  required : String
  held : String
  weight : Nat
  deriving DecidableEq, Repr

namespace Match

/-- The match of two privileges that were read already, if they match. -/
def ofRead? (required held : String × Privilege) : Option Match :=
  (Privilege.weight? required.2 held.2).map fun weight =>
    { required := required.1, held := held.1, weight }

/-- The match of one pair, if it is one. -/
def ofPair? (required held : String) : Option Match :=
  ofRead? (required, .parse required) (held, .parse held)

/-- Keeps what was found before unless the new match is strictly heavier. -/
def heavier (best : Option Match) (next : Option Match) : Option Match :=
  match best, next with
  | best, none => best
  | none, next => next
  | some b, some m => if b.weight < m.weight then some m else some b

/-- The heaviest match between two lists, the earliest of equals.  Each held privilege is read
once, before the first required one. -/
def best? (required held : List String) : Option Match :=
  let allHeld := held.map fun h => (h, Privilege.parse h)
  required.foldl (fun best r =>
    let wanted := (r, Privilege.parse r)
    allHeld.foldl (fun best h => heavier best (ofRead? wanted h)) best) none

end Match

end Turnstile
