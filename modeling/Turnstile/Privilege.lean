/-
Privileges: what a route requires and what a caller holds.

A privilege is written `resource:operation` or `resource:role:operation`.  Only the
first two colons separate: the operation is all that is left and may hold colons of
its own.  A token that is exactly the asterisk stands for anything.  Writing a parsed
privilege gives its text back, except that a text without a colon gains one.
-/
import Turnstile.Text.Cut

namespace Turnstile

/-- One position of a privilege. -/
inductive Segment where
  /-- Stands for any value. -/
  | wildcard
  /-- The position was not written at all. -/
  | absent
  /-- A literal token, the empty one included. -/
  | value (token : String)
  deriving DecidableEq, Repr

namespace Segment

/-- The asterisk is the wildcard, every other token a literal. -/
def ofToken (token : String) : Segment :=
  if token = "*" then wildcard else value token

/-- How the position is written; an absent one leaves no trace. -/
def text : Segment → String
  | wildcard => "*"
  | absent => ""
  | value token => token

def isWildcard (s : Segment) : Bool := s = wildcard

def isAbsent (s : Segment) : Bool := s = absent

end Segment

/-- A privilege read position by position. -/
structure Privilege where
  resource : Segment
  role : Segment
  operation : Segment
  deriving DecidableEq, Repr

namespace Privilege

/-- Reads a privilege; with one colon or none it has no role, with none no operation text. -/
def parse (s : String) : Privilege :=
  let (resource, rest) := Text.cut ':' s
  match Text.cut ':' (rest.getD "") with
  | (operation, none) =>
    { resource := .ofToken resource, role := .absent, operation := .ofToken operation }
  | (role, some operation) =>
    { resource := .ofToken resource, role := .ofToken role, operation := .ofToken operation }

/-- Writes a privilege, leaving out the role when there is none. -/
def text (p : Privilege) : String :=
  match p.role with
  | .absent => p.resource.text ++ ":" ++ p.operation.text
  | role => p.resource.text ++ ":" ++ role.text ++ ":" ++ p.operation.text

/-- A privilege that is a wildcard in all three positions. -/
def isUniversal (p : Privilege) : Bool :=
  p.resource.isWildcard && p.role.isWildcard && p.operation.isWildcard

end Privilege

end Turnstile
