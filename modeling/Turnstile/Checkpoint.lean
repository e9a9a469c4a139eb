/-
The checkpoint: whether a call may proceed to its route.

A call passes unasked when its route declares nothing, is to be skipped, names no
resource or requires nothing that is on the roster.  Every other call is looked into:
first the retriever says what the caller holds, then one policy, the route's own or
else the checkpoint's, says whether that is enough.  A retriever or policy that fails is
a fault, never a pass.

What is required is fixed when the key is looked up, before anyone is asked, so what
happens to the roster afterwards is no concern of a decision under way.
-/
import Turnstile.Catalog

namespace Turnstile

/-- A call, as far as a decision on it goes. -/
structure Call where
  method : String
  path : String
  deriving DecidableEq, Repr

/-- Why a call may proceed. -/
inductive Reason where
  | noDeclaration
  | skipped
  | noResource
  | noCatalogEntry
  | checkPassed
  deriving DecidableEq, Repr

/-- The name under which a reason is reported. -/
def Reason.name : Reason → String
  | noDeclaration => "NoDeclaration"
  | skipped => "Skipped"
  | noResource => "NoResource"
  | noCatalogEntry => "NoCatalogEntry"
  | checkPassed => "CheckPassed"

/-- The status of a denial. -/
def forbiddenStatus : Nat := 403

inductive Decision where
  | allow (reason : Reason)
  | forbid (status : Nat) (message : String)
  deriving DecidableEq, Repr

/-- Finds out what the caller of a context holds. -/
structure Retriever (κ : Type) where
  retrieve : κ → Except Failure (List String)
  /-- What finding out does to the roster in use. -/
  revise : κ → Roster → Roster := fun _ roster => roster

/-- A collaborator that was asked, with what it was asked. -/
inductive Consultation where
  | retriever
  /-- The policy, the route's own or the checkpoint's, with both lists. -/
  | policy (ofRoute : Bool) (required held : List String)
  deriving DecidableEq, Repr

/-- What looking a call up finds. -/
inductive Lookup where
  /-- The call passes unasked. -/
  | pass (reason : Reason)
  /-- The call is to be looked into. -/
  | consult (rule : Rule) (required : List String)

namespace Lookup

/-- The key of a call: the one its route claimed, or else the one it has without constraints. -/
def key (call : Call) (registration : Registration) : String :=
  (registration.keyFor call.method).getD (Endpoint.key call.method call.path none)

/-- Looks a call up on a roster. -/
def of (roster : Roster) (call : Call) (registration : Option Registration) : Lookup :=
  match registration with
  | none => pass .noDeclaration
  | some registration =>
    match registration.rule with
    | none => pass .noDeclaration
    | some rule =>
      if rule.skip then pass .skipped
      else if rule.resource.isNone then pass .noResource
      else
        match roster.get? (key call registration) with
        | none => pass .noCatalogEntry
        | some required => consult rule required

end Lookup

/-- All that bears on one decision. -/
structure Ruling where
  outcome : Except Fault Decision
  /-- Who was asked, in order. -/
  consulted : List Consultation
  /-- The roster after the decision. -/
  roster : Roster

/-- A place where calls are decided on. -/
structure Checkpoint (κ : Type) where
  retriever : Retriever κ
  /-- Decides for routes without a policy of their own. -/
  policy : Policy
  forbiddenMessage : String

namespace Checkpoint

variable {κ : Type}

/-- The policy that decides for a route. -/
def policyFor (c : Checkpoint κ) (rule : Rule) : Policy := rule.policy.getD c.policy

/-- The decision once it is known what is required and what is held. -/
def judge (c : Checkpoint κ) (rule : Rule) (required held : List String) :
    Except Fault Decision :=
  match c.policyFor rule required held with
  | .error failure => .error (.policy failure)
  | .ok true => .ok (.allow .checkPassed)
  | .ok false => .ok (.forbid forbiddenStatus c.forbiddenMessage)

/-- Decides on a call that was looked up. -/
def settle (c : Checkpoint κ) (roster : Roster) (lookup : Lookup) (context : κ) : Ruling :=
  match lookup with
  | .pass reason => { outcome := .ok (.allow reason), consulted := [], roster }
  | .consult rule required =>
    let roster := c.retriever.revise context roster
    match c.retriever.retrieve context with
    | .error failure =>
      { outcome := .error (.retrieval failure), consulted := [.retriever], roster }
    | .ok held =>
      { outcome := c.judge rule required held
        consulted := [.retriever, .policy rule.policy.isSome required held]
        roster }

/-- Decides on a call. -/
def decide (c : Checkpoint κ) (roster : Roster) (call : Call)
    (registration : Option Registration) (context : κ) : Ruling :=
  c.settle roster (.of roster call registration) context

/-- A checkpoint that is being set up; what is installed last counts. -/
structure Setup (κ : Type) where
  retriever : Option (Retriever κ) := none
  policy : Option Policy := none
  forbiddenMessage : String := ({} : Settings).forbiddenMessage

namespace Setup

def withRetriever (s : Setup κ) (retriever : Retriever κ) : Setup κ :=
  { s with retriever := some retriever }

def withPolicy (s : Setup κ) (policy : Policy) : Setup κ := { s with policy := some policy }

def withMessage (s : Setup κ) (message : String) : Setup κ :=
  { s with forbiddenMessage := message }

/-- Takes over the message of the settings. -/
def withSettings (s : Setup κ) (settings : Settings) : Setup κ :=
  s.withMessage settings.forbiddenMessage

/-- The checkpoint, unless a collaborator is missing; the retriever is missed first. -/
def build (s : Setup κ) : Except Fault (Checkpoint κ) :=
  match s.retriever, s.policy with
  | none, _ => .error (.missing .retriever)
  | some _, none => .error (.missing .policy)
  | some retriever, some policy =>
    .ok { retriever, policy, forbiddenMessage := s.forbiddenMessage }

end Setup

end Checkpoint

end Turnstile
