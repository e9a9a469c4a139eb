/-
How a request is answered.

A guard and the handler behind it answer together.  Either the guard lets the request through, and
then the response is the handler's, or it does not, and then the handler has no say in the response.
A router adds nothing to that: what it answers to a request that some route serves is what the guard
before the route answers (`answer_of_target?`).  So the course that a request takes tells the
response, too, and who asks for the head only gets it without its body.
-/
import Turnstile.Router

namespace Turnstile

open Http

namespace Router

/-- A response in the handler's place: a status, its words and a message. -/
def refusal (status : Nat) (error message : String) : Response where
  status
  body := .json (.object
    [("statusCode", .number (.integer status)), ("error", .string error),
      ("message", .string message)])

/-- A response as it is sent: who asks for the head gets no body. -/
def sent (request : Request) (response : Response) : Response :=
  if request.method = "HEAD" then response.headOnly else response

theorem sent_head {request : Request} (h : request.method = "HEAD") (response : Response) :
    sent request response = response.headOnly := if_pos h

theorem sent_of_ne {request : Request} (h : request.method ≠ "HEAD") (response : Response) :
    sent request response = response := if_neg h

end Router

/-! ### Guards -/

namespace Guard

variable {g : Guard} {roster : Roster} {pattern : String} {request request' : Request}
  {handler handler' : Unit → Response}

/-- Nothing but an allowance keeps the guard from answering itself. -/
theorem refusal?_eq_none_iff {outcome : Except Fault Decision} :
    refusal? outcome = none ↔ ∃ reason, outcome = .ok (.allow reason) := by
  rcases outcome with fault | (reason | ⟨reason, message⟩)
  · simp [refusal?]
  · simp [refusal?]
  · simp [refusal?]

/-- Who is let through is answered by the handler. -/
theorem respond_of_allowed {reason : Reason}
    (h : (g.ruling roster pattern request).outcome = .ok (.allow reason)) :
    g.respond roster pattern request handler = handler () := by
  unfold respond
  rw [refusal?_eq_none_iff.mpr ⟨reason, h⟩]

/-- Who is not is answered by the guard, whatever the handler would say. -/
theorem respond_of_turned_away
    (hruling : g.ruling roster pattern request = g.ruling roster pattern request')
    (h : ∀ reason, (g.ruling roster pattern request).outcome ≠ .ok (.allow reason)) :
    g.respond roster pattern request handler = g.respond roster pattern request' handler' := by
  have hrefused : refusal? (g.ruling roster pattern request).outcome ≠ none := by
    intro hnone
    obtain ⟨reason, hallowed⟩ := refusal?_eq_none_iff.mp hnone
    exact h reason hallowed
  obtain ⟨problem, hproblem⟩ := Option.ne_none_iff_exists'.mp hrefused
  unfold respond
  rw [← hruling, hproblem]

end Guard

/-! ### Routers -/

namespace Router

variable {router : Router} {roster : Roster} {request : Request}

/-- **The guard before the route that serves a request answers it.**  Who is let through visits the
handler with the roster that the guard leaves behind. -/
theorem answer_of_target? {path : String} {captures : List String} {mount : Mount}
    (hmatch : router.tree.find? request.path = some (path, captures))
    (htarget : router.target? path request.method = some mount) :
    router.answer roster request =
      (router.guard mount).respond roster path request fun _ =>
        mount.handler
          { catalog := router.catalog.withRoster
              ((router.guard mount).ruling roster path request).roster
            request, captures } := by
  unfold answer course courseAt Guard.respond
  simp only [hmatch, htarget]
  cases Guard.refusal? ((router.guard mount).ruling roster path request).outcome with
  | none => rfl
  | some problem => rfl

/-- Who gets to a handler gets its response. -/
theorem respond_of_handled {handler : Handler} {visit : Visit}
    (h : router.course roster request = .handled handler visit) :
    router.respond roster request = sent request (handler visit) := by
  unfold respond answer
  rw [h]
  rfl

end Router

end Turnstile
