/-
The settings of one instance: the message of a denial, and privileges that are to be
listed although no route requires them.
-/
import Turnstile.Fault

namespace Turnstile

structure Settings where
  /-- What a caller is told who may not proceed. -/
  forbiddenMessage : String := "No Privilege"
  /-- Privileges listed in the catalog before those that routes require. -/
  additionalPrivileges : List String := []
  deriving DecidableEq, Repr

namespace Settings

/-- A denial has to say something. -/
def validate (s : Settings) : Except Fault Unit :=
  if s.forbiddenMessage.isEmpty then
    .error (.invalidSettings "forbidden_message cannot be empty")
  else .ok ()

end Settings

end Turnstile
