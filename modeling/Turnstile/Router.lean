/-
The router: routes that are guarded as they are declared.

Adding a route registers its declaration in the catalog and, apart from that, claims its
methods at its path: of several routes that list a method at a path the first serves it.
A route that is left with methods to serve is mounted.  Building the router ends
registration, sets the checkpoint up and puts one guard before each mounted route.

A claimed method is the method of the requests that are served, but for `CONNECT`: a tunnel
is nothing that a path could ask for, so a claim on it serves requests for `OPTIONS`.

A request goes to the pattern that matches its path and there to the route that serves
its method.  A request for the head only goes to the route for `GET` where no route serves
`HEAD`.
-/
import Turnstile.Guard
import Turnstile.Http.Credentials
import Turnstile.Http.Tree

namespace Turnstile

open Http

/-- What a handler works on. -/
structure Visit where
  /-- The catalog, with the roster as it is now. -/
  catalog : Catalog
  request : Request
  /-- What the pattern captured of the path, as it was sent. -/
  captures : List String

abbrev Handler := Visit → Response

/-- A route with the methods of the requests it serves. -/
structure Mount where
  path : String
  methods : List String
  registration : Registration
  handler : Handler

/-- A router in use. -/
structure Router where
  catalog : Catalog
  checkpoint : Checkpoint Request
  mounts : List Mount
  /-- The paths of the mounts. -/
  tree : Tree

namespace Router

/-- The methods that can be claimed. -/
def servable : List String :=
  ["CONNECT", "DELETE", "GET", "HEAD", "OPTIONS", "PATCH", "POST", "PUT", "TRACE"]

/-- The method of the requests that a claim on a method serves. -/
def requested (method : String) : String := if method = "CONNECT" then "OPTIONS" else method

/-! ### Adding routes -/

/-- A router that still takes routes. -/
structure Draft where
  catalog : Catalog.Draft
  mounts : List Mount
  /-- The pairs of path and method that some route claimed. -/
  served : List (String × String)
  /-- The first method, with its path, that cannot be served. -/
  unsupported : Option (String × String)
  /-- Whether some route claims the same requests twice. -/
  collided : Bool

namespace Draft

def new (settings : Settings) : Draft where
  catalog := .new settings
  mounts := []
  served := []
  unsupported := none
  collided := false

/-- Has constraints derived from every route that is added from now on. -/
def withDeriver (d : Draft) (derive : Endpoint → Option Constraints) : Draft :=
  { d with catalog := d.catalog.withDeriver derive }

/-- What claiming methods at a path comes to. -/
structure Claims where
  served : List (String × String)
  unsupported : Option (String × String)
  /-- The methods claimed first that can be served. -/
  methods : List String

/-- Claims one method at a path. -/
def claim (path : String) (c : Claims) (method : String) : Claims :=
  if (path, method) ∈ c.served then c
  else
    let served := (path, method) :: c.served
    if method ∈ servable then { c with served, methods := c.methods ++ [method] }
    else { c with served, unsupported := c.unsupported.or (some (path, method)) }

/-- Adds a route. -/
def route (d : Draft) (path : String) (methods : List String) (handler : Handler)
    (rule : Option Rule) : Draft :=
  let (catalog, registration) := d.catalog.register { methods, path, rule }
  let claims := methods.foldl (claim path)
    { served := d.served, unsupported := d.unsupported, methods := [] }
  let methods := claims.methods.map requested
  let mounts :=
    match methods with
    | [] => d.mounts
    | methods => d.mounts ++ [{ path, methods, registration, handler }]
  { catalog, mounts, served := claims.served, unsupported := claims.unsupported
    collided := d.collided || !decide methods.Nodup }

end Draft

/-! ### Building -/

/-- Why no router could be built. -/
inductive Defect where
  /-- A route lists a method that cannot be served. -/
  | unsupportedMethod (path method : String)
  /-- The checkpoint could not be set up. -/
  | checkpoint (fault : Fault)
  /-- Paths that do not go together, or routes that serve the same requests. -/
  | unroutable
  deriving DecidableEq, Repr

namespace Defect

/-- The defect as a failure; routes that do not go together are the program's own mistake and
have no text. -/
def failure? : Defect → Option Failure
  | unsupportedMethod path method =>
    some { message := "Unsupported route method"
           causes := [method ++ " " ++ path ++ ": no `MethodFilter` for `" ++ method ++ "`"] }
  | checkpoint fault => some fault.failure
  | unroutable => none

end Defect

/-- Whether two routes serve the same requests. -/
def overlap (a b : Mount) : Bool := a.path = b.path && a.methods.any b.methods.contains

/-- Whether some routes serve the same requests. -/
def overlapping : List Mount → Bool
  | [] => false
  | mount :: mounts => mounts.any (overlap mount) || overlapping mounts

/-- The tree of the paths of some routes; none when the routes do not go together. -/
def tree? (mounts : List Mount) : Option Tree :=
  if overlapping mounts then none else Tree.ofPaths? (distinct (mounts.map (·.path)))

/-- Ends registration and sets the checkpoint up.  A route that claims the same requests twice
is found out first. -/
def Draft.build (d : Draft) (configure : Checkpoint.Setup Request → Checkpoint.Setup Request) :
    Except Defect Router :=
  if d.collided then .error .unroutable
  else
    match d.unsupported with
    | some (path, method) => .error (.unsupportedMethod path method)
    | none =>
      match (configure {}).build with
      | .error fault => .error (.checkpoint fault)
      | .ok checkpoint =>
        match tree? d.mounts with
        | some tree => .ok { catalog := d.catalog.finalize, checkpoint, mounts := d.mounts, tree }
        | none => .error .unroutable

/-! ### Serving -/

/-- The route that serves a method at a pattern. -/
def serving? (r : Router) (path method : String) : Option Mount :=
  r.mounts.find? fun mount => mount.path = path && mount.methods.contains method

/-- The route that a request of a method goes to at a pattern. -/
def target? (r : Router) (path method : String) : Option Mount :=
  match r.serving? path method with
  | some mount => some mount
  | none => if method = "HEAD" then r.serving? path "GET" else none

/-- The guard before a route. -/
def guard (r : Router) (mount : Mount) : Guard where
  checkpoint := r.checkpoint
  registration := mount.registration

/-- What becomes of a request. -/
inductive Course where
  /-- No pattern matches its path. -/
  | unmatched
  /-- No route at the pattern serves its method. -/
  | unserved
  /-- The guard answers, and no handler runs. -/
  | refused (problem : Problem)
  /-- The handler of the route runs. -/
  | handled (handler : Handler) (visit : Visit)

/-- The response that a request gets. -/
def Course.response : Course → Response
  | unmatched => .ofStatus 404
  | unserved => .ofStatus 405
  | refused problem => problem.response
  | handled handler visit => handler visit

/-- What becomes of a request at a pattern. -/
def courseAt (r : Router) (roster : Roster) (path : String) (captures : List String)
    (request : Request) : Course :=
  match r.target? path request.method with
  | none => .unserved
  | some mount =>
    let ruling := (r.guard mount).ruling roster path request
    match Guard.refusal? ruling.outcome with
    | some problem => .refused problem
    | none =>
      .handled mount.handler { catalog := r.catalog.withRoster ruling.roster, request, captures }

/-- What becomes of a request. -/
def course (r : Router) (roster : Roster) (request : Request) : Course :=
  match r.tree.find? request.path with
  | none => .unmatched
  | some (path, captures) => r.courseAt roster path captures request

/-- The response to a request, with its body. -/
def answer (r : Router) (roster : Roster) (request : Request) : Response :=
  (r.course roster request).response

/-- The response to a request as the client sees it. -/
def respond (r : Router) (roster : Roster) (request : Request) : Response :=
  let response := r.answer roster request
  if request.method = "HEAD" then response.headOnly else response

end Router

/-- Finds out what a request presents in its header. -/
def Retriever.ofHeader : Retriever Request := { retrieve := Credentials.ofRequest }

end Turnstile
