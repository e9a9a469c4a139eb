/-
The demo site: its routes, its paths and its router.

The routes are read off the declarations: one that is open to everybody and seven that require
one privilege each.  Their paths make one plain tree, so a path is found exactly under the
pattern it belongs to, literally or as that of one account.  None of this depends on the
settings, which is why the site can be built whatever they list.
-/
import Turnstile.Demo.Site
import Turnstile.Proofs.Building
import Turnstile.Proofs.Enforcement
import Turnstile.Proofs.Paths

namespace Turnstile

open Http

namespace Demo

/-! ### The routes of the site -/

/-- A route that requires one privilege. -/
structure Protected where
  method : String
  path : String
  handler : Handler
  resource : String
  operation : String

namespace Protected

/-- The privilege that the route requires. -/
def privilege (p : Protected) : String := p.resource ++ ":" ++ p.operation

def route (p : Protected) : Route where
  path := p.path
  methods := [p.method]
  handler := p.handler
  rule := requiring p.resource p.operation

end Protected

/-- The pattern of the path of one account. -/
def accountPattern : String := "/accounts/:id"

/-- A node without branches behind which a pattern ends. -/
def leaf (label route : String) : Tree := .node label.toList (some route) .nil .closed

def forest (trees : List Tree) : Forest := trees.foldr .cons .nil

/-- The tree of the paths of the site. -/
def tree : Tree :=
  .node [] none (forest [.node ['/'] none (forest
    [ .node "accounts".toList (some "/accounts")
        (forest [.node ['/'] none .nil (.segment accountPattern)]) .closed
    , leaf "health" "/health"
    , .node "rbac/".toList none (forest
        [ leaf "hierarchy" "/rbac/hierarchy"
        , .node "ro".toList none
            (forest [leaf "utes" "/rbac/routes", leaf "les" "/rbac/roles"]) .closed ]) .closed ])
    .closed]) .closed

/-- The checkpoint of the site. -/
def checkpoint (settings : Settings) (policy : Policy.Shipped) : Checkpoint Request where
  retriever := .ofHeader
  policy := policy.policy
  forbiddenMessage := settings.forbiddenMessage

/-- How the checkpoint of the site is set up. -/
def configure (settings : Settings) (policy : Policy.Shipped) (setup : Checkpoint.Setup Request) :
    Checkpoint.Setup Request :=
  ((setup.withRetriever .ofHeader).withSettings settings).withPolicy policy.policy

end Demo

end Turnstile
