/-
The catalog: every privilege that routes require, gathered while a program starts.

Endpoints are registered one after the other.  Each method of an endpoint with a
resource claims its key; the first claim of a key stands and later ones change nothing,
neither the roster nor the list of privileges nor the operations known of a resource.
-/
import Turnstile.Endpoint
import Turnstile.Roster
import Turnstile.Settings

namespace Turnstile

/-- The first occurrence of every element that is not in `seen`, in order. -/
def distinctFrom {α : Type} [DecidableEq α] (seen : List α) : List α → List α
  | [] => []
  | x :: xs => if x ∈ seen then distinctFrom seen xs else x :: distinctFrom (x :: seen) xs

/-- The first occurrence of every element, in order. -/
def distinct {α : Type} [DecidableEq α] (xs : List α) : List α := distinctFrom [] xs

/-- The privileges of a program, ready to be consulted. -/
structure Catalog where
  /-- Every privilege once: the additional ones first, then those that routes require. -/
  privileges : List String
  /-- The operations known of each resource, resources in the order of their code points. -/
  hierarchy : List (String × List String)
  /-- The privileges that each key requires. -/
  roster : Roster

namespace Catalog

/-- A catalog that still takes registrations. -/
structure Draft where
  roster : Roster
  hierarchy : Std.TreeMap String (List String)
  privileges : List String
  /-- Constraints that follow from an endpoint's declaration. -/
  derive : Endpoint → Option Constraints

namespace Draft

def new (settings : Settings) : Draft where
  roster := ∅
  hierarchy := ∅
  privileges := settings.additionalPrivileges
  derive := fun _ => none

/-- Has constraints derived from every endpoint that is registered from now on. -/
def withDeriver (d : Draft) (derive : Endpoint → Option Constraints) : Draft := { d with derive }

/-- The endpoint with the constraints that follow from it laid over its own; nothing
derived, or nothing in it, leaves the endpoint as it is. -/
def derived (d : Draft) (e : Endpoint) : Endpoint :=
  match d.derive e with
  | none => e
  | some implied =>
    if implied.isEmpty then e
    else { e with constraints := some ((e.constraints.getD ∅).overlay implied) }

/-- Claims the key of one method for an endpoint with a resource, unless it is taken. -/
def claim (resource : String) (operations : List String) (e : Endpoint)
    (state : Draft × Registration) (method : String) : Draft × Registration :=
  let (d, registration) := state
  let key := Endpoint.key method e.path e.constraints
  if d.roster.contains key then (d, registration)
  else
    let required := operations.map (Rule.privilege resource)
    let known := d.hierarchy.getD resource ["*"]
    ({ d with
        roster := d.roster.insert key required
        hierarchy := d.hierarchy.insert resource (known ++ operations)
        privileges := d.privileges ++ Rule.privilege resource "*" :: required },
      registration.claim method key)

/-- Registers an endpoint. -/
def register (d : Draft) (endpoint : Endpoint) : Draft × Registration :=
  let e := d.derived endpoint
  let unclaimed : Registration := { rule := e.rule, constraints := e.constraints }
  match e.rule with
  | none => (d, unclaimed)
  | some rule =>
    match rule.resource with
    | none => (d, unclaimed)
    | some resource =>
      e.methods.foldl (claim resource rule.normalizedOperations e) (d, unclaimed)

/-- Registers endpoints in order. -/
def registerAll (d : Draft) : List Endpoint → Draft × List Registration
  | [] => (d, [])
  | e :: es =>
    let (d, registration) := d.register e
    let (d, registrations) := d.registerAll es
    (d, registration :: registrations)

/-- Ends registration: privileges and operations are listed once each. -/
def finalize (d : Draft) : Catalog where
  privileges := distinct d.privileges
  hierarchy := d.hierarchy.toList.map fun (resource, operations) => (resource, distinct operations)
  roster := d.roster

end Draft

/-- The privileges that a key requires. -/
def required? (c : Catalog) (key : String) : Option (List String) := c.roster.get? key

/-- The catalog with the roster replaced. -/
def withRoster (c : Catalog) (roster : Roster) : Catalog := { c with roster }

end Catalog

end Turnstile
