/-
The service: the demo site at an address.

A configuration is looked at when the service is set up and again when it starts, and the
site is built before the address is taken, so a mistake in the configuration shows before
any request could be accepted.  What happens after the address is taken is the network's
business and not described here.
-/
import Turnstile.Demo.Site
import Turnstile.Log

namespace Turnstile

/-- Where and how the demo site is served. -/
structure Service where
  host : String := "0.0.0.0"
  port : UInt16 := 8080
  settings : Settings := {}
  policy : Policy.Shipped := .wildcard
  deriving DecidableEq, Repr

/-- The settings on one line. -/
def Settings.describe (s : Settings) : String :=
  "RbacOptions \x7b forbidden_message: " ++ Text.quoted s.forbiddenMessage ++
    ", additional_privileges: " ++ Text.quotedList s.additionalPrivileges ++ " \x7d"

namespace Service

/-- A port as text. -/
def portText (port : UInt16) : String := Decimal.natText port.toNat

/-- Host and port. -/
def address (s : Service) : String := s.host ++ ":" ++ portText s.port

/-- The configuration on one line. -/
def describe (s : Service) : String :=
  "ServerConfig \x7b host: " ++ Text.quoted s.host ++ ", port: " ++ portText s.port ++
    ", rbac: " ++ s.settings.describe ++ ", default_check: " ++ s.policy.name ++ " \x7d"

/-- Sets a service up, unless its settings make no sense. -/
def build (s : Service) : Except Failure Service :=
  match s.settings.validate with
  | .error fault => .error (fault.failure.within "Invalid RBAC options")
  | .ok () => .ok s

/-! ### Taking the address -/

/-- Whether a port is kept for privileged programs.  Port 0 is none of them: it leaves the
choice of a port to the system. -/
def isPrivileged (port : UInt16) : Bool := 0 < port && port < 1024

/-- Takes the address, which a program without privileges cannot at a privileged port. -/
def listen (s : Service) : Except Failure Unit :=
  if isPrivileged s.port then
    .error { message := "Failed to bind to " ++ s.address
             causes := ["Permission denied (os error 13)"] }
  else .ok ()

/-! ### Starting -/

/-- The part of the program that reports the start of a service. -/
def target : String := "rolegate_api_server::server"

/-- The part of the program that reports registrations. -/
def catalogTarget : String := "rolegate_authz::catalog::registry"

/-- The part of the program that reports on the site. -/
def siteTarget : String := "rolegate_api_server::routes"

/-- What is reported while a catalog fills. -/
def catalogEvents (c : Catalog) : List Log.Event :=
  c.roster.toList.map (fun (key, required) =>
    { level := .debug, target := catalogTarget, message := "Registered route roles"
      fields := [("key", key), ("roles", Text.quotedList required)] }) ++
  [{ level := .info, target := catalogTarget
     message := "RBAC catalog finalized with " ++ Decimal.natText c.privileges.length ++
       " roles, " ++ Decimal.natText c.roster.size ++ " routes, " ++
       Decimal.natText c.hierarchy.length ++ " resources" }]

/-- What is reported while the site is built. -/
def siteEvents (router : Router) (policy : Policy.Shipped) : List Log.Event :=
  catalogEvents router.catalog ++
  [{ level := .info, target := siteTarget, message := "RBAC gate configured"
     fields := [("check", policy.name)] }]

/-- What a start reports, and how it ends: with a failure, or listening. -/
structure Start where
  events : List Log.Event
  outcome : Except Failure Unit

/-- The failure that a defect of the site comes to. -/
def siteFailure (defect : Router.Defect) : Failure :=
  (defect.failure?.getD { message := "", causes := [] }).within "Failed to build router"

/-- Starts the service: builds the site, then takes the address. -/
def start (s : Service) : Start :=
  let opening : List Log.Event :=
    [ { level := .info, target, message := "Starting rolegate API server" }
    , { level := .info, target, message := "Configuration: " ++ s.describe } ]
  match Demo.site s.settings s.policy with
  | .error defect => { events := opening, outcome := .error (siteFailure defect) }
  | .ok router => { events := opening ++ siteEvents router s.policy, outcome := s.listen }

end Service

end Turnstile
