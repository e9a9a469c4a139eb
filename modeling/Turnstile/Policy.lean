/-
Policies: whether the privileges a caller holds satisfy those a route requires.

Two policies are shipped.  The wildcard policy cuts each privilege once and takes all
after the first colon as the operation; a lone asterisk on either side grants
everything.  The best-match policy reads privileges in three positions and grants
when some pair matches.
-/
import Turnstile.Fault
import Turnstile.Privilege.Match

namespace Turnstile

/-- Answers whether the second list, what is held, satisfies the first, what is required. -/
abbrev Policy := List String → List String → Except Failure Bool

namespace Policy

/-- Equal tokens agree, and an asterisk agrees with every token. -/
def tokensAgree (a b : String) : Bool := a == "*" || b == "*" || a == b

/-- A privilege cut at its first colon; without one the operation is empty. -/
def halves (s : String) : String × String :=
  let (resource, rest) := Text.cut ':' s
  (resource, rest.getD "")

/-- Whether both halves of two privileges agree. -/
def halvesAgree (required held : String) : Bool :=
  tokensAgree (halves required).1 (halves held).1 &&
    tokensAgree (halves required).2 (halves held).2

/-- The wildcard policy as a plain answer: it never fails. -/
def wildcardAllows (required held : List String) : Bool :=
  (held ++ required).any (· == "*") || held.any fun h => required.any fun r => halvesAgree r h

/-- The best-match policy as a plain answer: it never fails. -/
def bestMatchAllows (required held : List String) : Bool := (Match.best? required held).isSome

def wildcard : Policy := fun required held => .ok (wildcardAllows required held)

def bestMatch : Policy := fun required held => .ok (bestMatchAllows required held)

/-- The policies that can be chosen by name. -/
inductive Shipped where
  | wildcard
  | bestMatch
  deriving DecidableEq, Repr

namespace Shipped

def policy : Shipped → Policy
  | wildcard => Policy.wildcard
  | bestMatch => Policy.bestMatch

/-- The word that chooses the policy. -/
def word : Shipped → String
  | wildcard => "wildcard"
  | bestMatch => "best-match"

/-- The name under which the choice is reported. -/
def name : Shipped → String
  | wildcard => "Wildcard"
  | bestMatch => "BestMatch"

def all : List Shipped := [wildcard, bestMatch]

/-- The policy a word chooses, on request in any case of letters. -/
def ofWord (word : String) (ignoreCase : Bool) : Except String Shipped :=
  match all.find? fun p =>
      if ignoreCase then Text.sameIgnoringCase p.word word else p.word == word with
  | some p => .ok p
  | none => .error ("invalid variant: " ++ word)

end Shipped

end Policy

end Turnstile
