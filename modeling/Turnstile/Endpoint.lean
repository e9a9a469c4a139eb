/-
Endpoints: what a program declares about its routes.

An endpoint is served at a path for some methods, possibly under constraints, and may
carry a rule that names the resource it belongs to and the operations it performs on
it.  Its key, method and path and constraints in one text, is what required
privileges are filed under.
-/
import Turnstile.Json
import Turnstile.Policy
import Turnstile.Text.Quoted

namespace Turnstile

/-! ### Constraints -/

/-- What a route asks of a call besides method and path: named values, the last one given
under a name counting. -/
structure Constraints where
  /-- The values in the order in which they were given. -/
  writes : List (String × Json) := []

namespace Constraints

instance : EmptyCollection Constraints := ⟨{}⟩

def isEmpty (c : Constraints) : Bool := c.writes.isEmpty

/-- The value under a name. -/
def get? (c : Constraints) (name : String) : Option Json := Json.lastWrite? c.writes name

def contains (c : Constraints) (name : String) : Bool := (c.get? name).isSome

/-- Gives a value, in place of any under the same name. -/
def insert (c : Constraints) (name : String) (value : Json) : Constraints :=
  { writes := c.writes ++ [(name, value)] }

/-- Gives all values of `later`, in place of those under the same names. -/
def overlay (c later : Constraints) : Constraints := { writes := c.writes ++ later.writes }

/-- The compact text, which does not depend on the order in which values were given. -/
def text (c : Constraints) : String := (Json.object c.writes).compact

end Constraints

/-! ### Rules -/

/-- What a route declares about who may call it. -/
structure Rule where
  /-- The resource the route belongs to; a rule without one protects nothing. -/
  resource : Option String := none
  /-- The operations the route performs; none or an empty list stands for all. -/
  operations : Option (List String) := none
  /-- Lets every call through. -/
  skip : Bool := false
  /-- A policy of the route's own, in place of the checkpoint's. -/
  policy : Option Policy := none

namespace Rule

/-- The operations, with the wildcard for none. -/
def normalizedOperations (r : Rule) : List String :=
  match r.operations with
  | some (operation :: operations) => operation :: operations
  | _ => ["*"]

/-- The privilege to perform an operation on a resource. -/
def privilege (resource operation : String) : String := resource ++ ":" ++ operation

/-- A value that may be missing, in a description. -/
def describeOption {α : Type} (describe : α → String) : Option α → String
  | none => "None"
  | some a => "Some(" ++ describe a ++ ")"

/-- The rule on one line; of a policy of its own only that there is one. -/
def describe (r : Rule) : String :=
  "RbacRouteConfig \x7b resource: " ++ describeOption Text.quoted r.resource ++
    ", operations: " ++ describeOption Text.quotedList r.operations ++
    ", skip: " ++ (if r.skip then "true" else "false") ++
    ", check: " ++ describeOption (fun _ => Text.quoted "<override>") r.policy ++ " \x7d"

end Rule

/-! ### Endpoints -/

/-- A route as a program declares it. -/
structure Endpoint where
  methods : List String
  path : String
  constraints : Option Constraints := none
  rule : Option Rule := none

namespace Endpoint

/-- The key that required privileges are filed under; methods differing in case share it. -/
def key (method path : String) (constraints : Option Constraints) : String :=
  let route := Text.upper method ++ ":" ++ path
  match constraints with
  | none => route
  | some c => route ++ " - " ++ c.text

/-- The endpoint under one more constraint. -/
def constrain (e : Endpoint) (name : String) (value : Json) : Endpoint :=
  { e with constraints := some ((e.constraints.getD ∅).insert name value) }

end Endpoint

/-- What registering an endpoint leaves with it for the calls it will get. -/
structure Registration where
  rule : Option Rule := none
  constraints : Option Constraints := none
  /-- For each method in upper case whose key this endpoint was the first to claim, the key. -/
  keys : List (String × String) := []

namespace Registration

/-- The key this endpoint claimed for a method, whatever the method's case. -/
def keyFor (r : Registration) (method : String) : Option String :=
  r.keys.lookup (Text.upper method)

/-- Notes the key claimed for a method. -/
def claim (r : Registration) (method key : String) : Registration :=
  { r with keys := r.keys ++ [(Text.upper method, key)] }

end Registration

end Turnstile
