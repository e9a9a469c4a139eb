/-
What can go wrong while a call is authorised.

A failure is what a collaborator reports: a text and the causes below it.  A fault is
what the checkpoint makes of it, and says who failed.
-/
namespace Turnstile

/-- An error text with the causes below it, outermost first. -/
structure Failure where
  message : String
  causes : List String
  deriving DecidableEq, Repr

namespace Failure

/-- The whole chain, from the error itself down to its root cause. -/
def chain (f : Failure) : List String := f.message :: f.causes

/-- The failure with a new outermost text. -/
def within (f : Failure) (context : String) : Failure where
  message := context
  causes := f.chain

end Failure

/-- What a checkpoint cannot do without. -/
inductive Collaborator where
  | retriever
  | policy
  deriving DecidableEq, Repr

/-- How messages name a collaborator. -/
def Collaborator.text : Collaborator → String
  | retriever => "role_retriever"
  | policy => "check"

/-- Why there is no answer to whether a call may proceed. -/
inductive Fault where
  /-- The checkpoint was set up without one of its collaborators. -/
  | missing (what : Collaborator)
  /-- The settings make no sense. -/
  | invalidSettings (reason : String)
  /-- The caller's privileges could not be found out. -/
  | retrieval (cause : Failure)
  /-- The policy gave no answer. -/
  | policy (cause : Failure)
  deriving DecidableEq, Repr

namespace Fault

def message : Fault → String
  | missing what => "\"" ++ what.text ++ "\" must be configured"
  | invalidSettings reason => "Invalid configuration: " ++ reason
  | retrieval cause => "Role retrieval failed: " ++ cause.message
  | policy cause => "Role check failed: " ++ cause.message

/-- The causes below the fault; a collaborator's failure is listed with its whole chain. -/
def sources : Fault → List String
  | missing _ => []
  | invalidSettings _ => []
  | retrieval cause => cause.chain
  | policy cause => cause.chain

/-- The fault as a failure, for whoever reports it further up. -/
def failure (f : Fault) : Failure where
  message := f.message
  causes := f.sources

end Fault

end Turnstile
