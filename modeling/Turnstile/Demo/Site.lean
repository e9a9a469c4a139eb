/-
The demo site: a few accounts and a look at the catalog, behind the router.

Everything but the health of the site is declared: each protected route requires one
privilege.  The caller's privileges are those of the header, and denials carry the
message of the settings.
-/
import Turnstile.Demo.Account
import Turnstile.Http.Percent
import Turnstile.Router

namespace Turnstile.Demo

open Http

/-- The version of the program. -/
def version : String := "0.1.0"

/-! ### Handlers -/

/-- A response with a JSON body. -/
def answer (status : Nat) (value : Json) : Response := { status, body := .json value }

def health : Handler := fun _ =>
  answer 200 (.object [("status", .string "healthy"), ("version", .string version)])

def listPrivileges : Handler := fun visit => answer 200 (.strings visit.catalog.privileges)

def listRoutes : Handler := fun visit =>
  answer 200 (.array (visit.catalog.roster.toList.map fun (key, required) =>
    .object [("key", .string key), ("roles", .strings required)]))

def showHierarchy : Handler := fun visit =>
  answer 200 (.object (visit.catalog.hierarchy.map fun (resource, operations) =>
    (resource, .strings operations)))

def listAccounts : Handler := fun _ => answer 200 (.array [Account.listed.json])

/-- Runs a handler on the captured identifier, which has to be text once decoded. -/
def withIdentifier (handler : String → Response) : Handler := fun visit =>
  match visit.captures with
  | captured :: _ =>
    match decodeText? captured.toList with
    | some id => handler id
    | none => .ofStatus 400
  | [] => .ofStatus 500

def showAccount : Handler := withIdentifier fun id =>
  match Account.find id with
  | .ok account => answer 200 account.json
  | .error problem => problem.response

def openAccount : Handler := fun visit =>
  match Account.nameOf visit.request with
  | .ok name => answer 201 (Account.opened name).json
  | .error status => .ofStatus status

def closeAccount : Handler := withIdentifier fun _ => .ofStatus 204

/-! ### Routes -/

/-- A rule that requires one privilege. -/
def requiring (resource operation : String) : Option Rule :=
  some { resource := some resource, operations := some [operation] }

/-- The routes of the site, declared in order. -/
def routes (settings : Settings) : Router.Draft :=
  Router.Draft.new settings
    |>.route "/health" ["GET"] health none
    |>.route "/accounts" ["GET"] listAccounts (requiring "account" "read")
    |>.route "/accounts" ["POST"] openAccount (requiring "account" "create")
    |>.route "/accounts/:id" ["GET"] showAccount (requiring "account" "read")
    |>.route "/accounts/:id" ["DELETE"] closeAccount (requiring "account" "admin:delete")
    |>.route "/rbac/roles" ["GET"] listPrivileges (requiring "rbac" "read")
    |>.route "/rbac/routes" ["GET"] listRoutes (requiring "rbac" "read")
    |>.route "/rbac/hierarchy" ["GET"] showHierarchy (requiring "rbac" "read")

/-- The site as a router; the settings are looked at first. -/
def site (settings : Settings) (policy : Policy.Shipped) : Except Router.Defect Router :=
  match settings.validate with
  | .error fault => .error (.checkpoint fault)
  | .ok () =>
    (routes settings).build fun setup =>
      setup.withRetriever .ofHeader |>.withSettings settings |>.withPolicy policy.policy

end Turnstile.Demo
