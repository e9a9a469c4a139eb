/-
What a refusal tells: that it is one, and nothing of its cause.

A guard answers in the handler's place in two cases only.  Either the policy declined what the
caller holds, or there is no answer because the retriever or the policy failed.  What was asked
for, what is required, what is held and what went wrong all end at the guard: the response to a
denial is made of the checkpoint's message alone, and the response to a failure of nothing at
all.  So whoever compares two refusals, be it from one router or from two that have nothing but
the message in common, learns which of the two cases each of them was.
-/
import Turnstile.Proofs.Enforcement
import Turnstile.Proofs.FailClosed

namespace Turnstile

open Http

namespace Checkpoint

variable {κ : Type}

/-- The fault of a check: the retriever fails, or it knows what is held and the policy fails. -/
inductive Fails (c : Checkpoint κ) (rule : Rule) (required : List String) (context : κ) :
    Fault → Prop
  | retrieval {failure : Failure} (h : c.retriever.retrieve context = .error failure) :
      Fails c rule required context (.retrieval failure)
  | policy {failure : Failure} (h : c.Answers rule required context (.error failure)) :
      Fails c rule required context (.policy failure)

end Checkpoint

namespace Router

/-! ### Checks that end in a refusal -/

variable {router router' : Router} {roster roster' : Roster} {request request' : Request}
  {rule : Rule} {required : List String} {problem : Problem}

/-- A check is refused for what the policy answers or for a fault. -/
theorem checked_eq_refused_iff {c : Checkpoint Request} {handler : Handler} {visit : Visit} :
    checked c rule required handler visit = .refused problem ↔
      c.Answers rule required visit.request (.ok false) ∧
        problem = .forbidden c.forbiddenMessage ∨
      ∃ fault, c.Fails rule required visit.request fault ∧ problem = .fault fault := by
  constructor
  · intro h
    unfold checked at h
    split at h
    · next failure hretrieve =>
      cases h
      exact .inr ⟨_, .retrieval hretrieve, rfl⟩
    · next held hretrieve =>
      split at h
      · next failure hanswer =>
        cases h
        exact .inr ⟨_, .policy ⟨held, hretrieve, hanswer⟩, rfl⟩
      · next hanswer =>
        cases h
        exact .inl ⟨⟨held, hretrieve, hanswer⟩, rfl⟩
      · cases h
  · intro h
    unfold checked
    rcases h with ⟨⟨held, hretrieve, hanswer⟩, rfl⟩ | ⟨_, hfails, rfl⟩
    · simp only [hretrieve, hanswer]
    · cases hfails with
      | retrieval hretrieve => simp only [hretrieve]
      | policy hanswers =>
          obtain ⟨held, hretrieve, hanswer⟩ := hanswers
          simp only [hretrieve, hanswer]

/-- The request is looked into: it is matched, a route serves it, and under the key of the call
something is required. -/
def Examined (router : Router) (roster : Roster) (request : Request) (rule : Rule)
    (required : List String) : Prop :=
  ∃ path captures mount, router.tree.find? request.path = some (path, captures) ∧
    router.target? path request.method = some mount ∧
    Lookup.of roster
      { method := Guard.effectiveMethod mount.registration request.method, path }
      (some mount.registration) = .consult rule required

/-- A request that is looked into is refused as its check is. -/
theorem Examined.course_eq_refused_iff (h : router.Examined roster request rule required) :
    router.course roster request = .refused problem ↔
      router.checkpoint.Answers rule required request (.ok false) ∧
        problem = .forbidden router.checkpoint.forbiddenMessage ∨
      ∃ fault, router.checkpoint.Fails rule required request fault ∧ problem = .fault fault := by
  obtain ⟨path, captures, mount, hmatch, htarget, hlookup⟩ := h
  have hmeets : Lookup.Meets (Lookup.of roster
      { method := Guard.effectiveMethod mount.registration request.method, path }
      (some mount.registration)) (some (rule, required)) := hlookup
  simp only [course, hmatch]
  rw [courseAt_of_meets htarget hmeets]
  exact checked_eq_refused_iff

/-- A request that nobody looks into is not refused. -/
theorem examined_of_refused (h : router.course roster request = .refused problem) :
    ∃ rule required, router.Examined roster request rule required := by
  unfold course at h
  split at h
  · cases h
  · next path captures hmatch =>
    cases htarget : router.target? path request.method with
    | none =>
        simp only [courseAt, htarget] at h
        cases h
    | some mount =>
        cases hlookup : Lookup.of roster
            { method := Guard.effectiveMethod mount.registration request.method, path }
            (some mount.registration) with
        | pass reason =>
            rw [courseAt_of_meets htarget (show Lookup.Meets _ none from ⟨reason, hlookup⟩)] at h
            cases h
        | consult rule required =>
            exact ⟨rule, required, path, captures, mount, hmatch, htarget, hlookup⟩

/-! ### Denials and failures -/

/-- The policy that decides on the request declines what the caller holds. -/
def Denied (router : Router) (roster : Roster) (request : Request) : Prop :=
  ∃ rule required, router.Examined roster request rule required ∧
    router.checkpoint.Answers rule required request (.ok false)

/-- The retriever fails on the request with a fault, or the policy that decides on it does. -/
def FailsWith (router : Router) (roster : Roster) (request : Request) (fault : Fault) : Prop :=
  ∃ rule required, router.Examined roster request rule required ∧
    router.checkpoint.Fails rule required request fault

/-- The retriever or the policy fails on the request. -/
def Failed (router : Router) (roster : Roster) (request : Request) : Prop :=
  ∃ fault, router.FailsWith roster request fault

/-- **The guard answers itself exactly when the request is denied or fails.** -/
theorem course_eq_refused_iff :
    router.course roster request = .refused problem ↔
      router.Denied roster request ∧
        problem = .forbidden router.checkpoint.forbiddenMessage ∨
      ∃ fault, router.FailsWith roster request fault ∧ problem = .fault fault := by
  constructor
  · intro h
    obtain ⟨rule, required, hexamined⟩ := examined_of_refused h
    rcases hexamined.course_eq_refused_iff.mp h with
      ⟨hanswers, hproblem⟩ | ⟨fault, hfails, hproblem⟩
    · exact .inl ⟨⟨rule, required, hexamined, hanswers⟩, hproblem⟩
    · exact .inr ⟨fault, ⟨rule, required, hexamined, hfails⟩, hproblem⟩
  · intro h
    rcases h with ⟨⟨rule, required, hexamined, hanswers⟩, hproblem⟩ |
      ⟨fault, ⟨rule, required, hexamined, hfails⟩, hproblem⟩
    · exact hexamined.course_eq_refused_iff.mpr (.inl ⟨hanswers, hproblem⟩)
    · exact hexamined.course_eq_refused_iff.mpr (.inr ⟨fault, hfails, hproblem⟩)

theorem exists_refused_iff :
    (∃ problem, router.course roster request = .refused problem) ↔
      router.Denied roster request ∨ router.Failed roster request := by
  constructor
  · intro h
    obtain ⟨problem, hrefused⟩ := h
    rcases course_eq_refused_iff.mp hrefused with ⟨hdenied, -⟩ | ⟨fault, hfails, -⟩
    · exact .inl hdenied
    · exact .inr ⟨fault, hfails⟩
  · intro h
    rcases h with hdenied | ⟨fault, hfails⟩
    · exact ⟨_, course_eq_refused_iff.mpr (.inl ⟨hdenied, rfl⟩)⟩
    · exact ⟨_, course_eq_refused_iff.mpr (.inr ⟨fault, hfails, rfl⟩)⟩

/-! ### Responses -/

theorem answer_of_denied (h : router.Denied roster request) :
    router.answer roster request =
      refusal 403 "Forbidden" router.checkpoint.forbiddenMessage := by
  rw [answer, course_eq_refused_iff.mpr (.inl ⟨h, rfl⟩)]
  rfl

theorem answer_of_failed (h : router.Failed roster request) :
    router.answer roster request =
      refusal 500 "Internal Server Error" "Internal Server Error" := by
  obtain ⟨fault, hfails⟩ := h
  rw [answer, course_eq_refused_iff.mpr (.inr ⟨fault, hfails, rfl⟩)]
  rfl

theorem forbiddenMessage_of_build {d : Draft}
    {configure : Checkpoint.Setup Request → Checkpoint.Setup Request}
    (hbuild : d.build configure = .ok router) :
    router.checkpoint.forbiddenMessage = (configure {}).forbiddenMessage :=
  (Checkpoint.Setup.build_eq_ok_iff.mp (checkpoint_of_build hbuild)).2.2.symm

/--
**Refusals tell nothing of their cause.**  Take any two routers whose checkpoints were set up
with one message, whatever their routes, rules, retrievers and policies are and whatever stands
on their rosters by now, and any request to either.  A guard answers in the handler's place
exactly when the request is denied or fails.  If both are denied, both get status 403 and one
body, which holds the message; if both fail, both get status 500 and one body, which is always
the same.
-/
theorem refusals_alike (settings settings' : Settings)
    (derive derive' : Endpoint → Option Constraints) (routes routes' : List Route)
    (configure configure' : Checkpoint.Setup Request → Checkpoint.Setup Request)
    (hbuild : (drafted settings derive routes).build configure = .ok router)
    (hbuild' : (drafted settings' derive' routes').build configure' = .ok router')
    (hmessage : (configure {}).forbiddenMessage = (configure' {}).forbiddenMessage) :
    ∀ roster request roster' request',
      ((∃ problem, router.course roster request = .refused problem) ↔
        router.Denied roster request ∨ router.Failed roster request) ∧
      (router.Denied roster request → router'.Denied roster' request' →
        router.answer roster request = router'.answer roster' request' ∧
        router.answer roster request =
          refusal 403 "Forbidden" (configure {}).forbiddenMessage) ∧
      (router.Failed roster request → router'.Failed roster' request' →
        router.answer roster request = router'.answer roster' request' ∧
        router.answer roster request =
          refusal 500 "Internal Server Error" "Internal Server Error") := by
  intro roster request roster' request'
  refine ⟨exists_refused_iff, fun hdenied hdenied' => ?_, fun hfailed hfailed' => ?_⟩
  · rw [answer_of_denied hdenied, answer_of_denied hdenied', forbiddenMessage_of_build hbuild,
      forbiddenMessage_of_build hbuild', hmessage]
    exact ⟨rfl, rfl⟩
  · rw [answer_of_failed hfailed, answer_of_failed hfailed']
    exact ⟨rfl, rfl⟩

/-! ### Two sites -/

/-- The problem for which the guard answers. -/
def Course.problem? : Course → Option Problem
  | .refused problem => some problem
  | _ => none

theorem refused_of_problem? {course : Course} (h : course.problem? = some problem) :
    course = .refused problem := by
  cases course with
  | refused p => exact congrArg Course.refused (Option.some.inj h)
  | unmatched => cases h
  | unserved => cases h
  | handled handler visit => cases h

theorem denied_of_problem? {message : String}
    (h : (router.course roster request).problem? = some (.forbidden message)) :
    router.Denied roster request := by
  rcases course_eq_refused_iff.mp (refused_of_problem? h) with ⟨hdenied, -⟩ | ⟨_, -, hproblem⟩
  · exact hdenied
  · cases hproblem

theorem failed_of_problem? {fault : Fault}
    (h : (router.course roster request).problem? = some (.fault fault)) :
    router.Failed roster request := by
  rcases course_eq_refused_iff.mp (refused_of_problem? h) with ⟨-, hproblem⟩ | ⟨_, hfails, -⟩
  · cases hproblem
  · exact ⟨_, hfails⟩

/-- A vault that is closed to everybody. -/
def vault : Route where
  path := "/vault/:box"
  methods := ["POST"]
  handler := fun _ => { status := 200, body := .text "opened" }
  rule := some { resource := some "vault", policy := some fun _ _ => .ok false }

/-- A ledger whose policy is out of order. -/
def ledger : Route where
  path := "/ledger"
  methods := ["GET"]
  handler := fun _ => { status := 200, body := .text "entries" }
  rule := some
    { resource := some "ledger"
      policy := some fun _ _ => .error { message := "store is down", causes := ["timeout"] } }

/-- A checkpoint whose callers hold everything. -/
def trusting (setup : Checkpoint.Setup Request) : Checkpoint.Setup Request :=
  (setup.withRetriever { retrieve := fun _ => .ok ["*:*:*"] }).withPolicy Policy.bestMatch

/-- A request that presents what cannot be read. -/
def garbled (target : String) : Request :=
  { method := "GET", target, headers := [("x-roles", [255])], body := "" }

/-- Who is kept from the report for holding nothing is told what somebody is told to whom the
vault is closed for all they hold; and of a header that cannot be read one is told the same as
of a policy that is out of order. -/
theorem report_refused_like_vault :
    ∃ router router',
      (drafted {} (fun _ => none) [guarded]).build gated = .ok router ∧
      (drafted {} (fun _ => none) [vault, ledger]).build trusting = .ok router' ∧
      router.Denied router.catalog.roster (bare "GET" "/report") ∧
      router'.Denied router'.catalog.roster (bare "POST" "/vault/7") ∧
      router.Failed router.catalog.roster (garbled "/report") ∧
      router'.Failed router'.catalog.roster (bare "GET" "/ledger") ∧
      router.answer router.catalog.roster (bare "GET" "/report") =
        router'.answer router'.catalog.roster (bare "POST" "/vault/7") ∧
      router.answer router.catalog.roster (garbled "/report") =
        router'.answer router'.catalog.roster (bare "GET" "/ledger") := by
  have hreport : ((drafted {} (fun _ => none) [guarded]).build gated).toOption.any
      (fun router =>
        ((router.course router.catalog.roster (bare "GET" "/report")).problem? =
          some (.forbidden "No Privilege")) &&
        ((router.course router.catalog.roster (garbled "/report")).problem? =
          some (.fault (.retrieval ⟨"failed to convert header to a str", []⟩)))) = true := by
    decide +kernel
  have hvault : ((drafted {} (fun _ => none) [vault, ledger]).build trusting).toOption.any
      (fun router =>
        ((router.course router.catalog.roster (bare "POST" "/vault/7")).problem? =
          some (.forbidden "No Privilege")) &&
        ((router.course router.catalog.roster (bare "GET" "/ledger")).problem? =
          some (.fault (.policy ⟨"store is down", ["timeout"]⟩)))) = true := by
    decide +kernel
  obtain ⟨router, hbuild, htest⟩ := exists_built hreport
  obtain ⟨router', hbuild', htest'⟩ := exists_built hvault
  simp only [Bool.and_eq_true, decide_eq_true_eq] at htest htest'
  have hdenied := denied_of_problem? htest.1
  have hdenied' := denied_of_problem? htest'.1
  have hfailed := failed_of_problem? htest.2
  have hfailed' := failed_of_problem? htest'.2
  have halike := refusals_alike {} {} (fun _ => none) (fun _ => none) [guarded] [vault, ledger]
    gated trusting hbuild hbuild' rfl router.catalog.roster
  exact ⟨router, router', hbuild, hbuild', hdenied, hdenied', hfailed, hfailed',
    ((halike _ _ _).2.1 hdenied hdenied').1, ((halike _ _ _).2.2 hfailed hfailed').1⟩

end Router

end Turnstile
