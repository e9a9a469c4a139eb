/-
Who asks for the head only is decided on as who asks for the whole.

At a pattern where no route lists `HEAD` such a request goes to the route for `GET`.  The guard
there has a key for `HEAD` only if its own route listed the method, so it has none, and it
decides on the request as on the `GET` that the request becomes.  What is looked up, what is
required, who is asked and with what are then the same for both, whatever stands on the roster
by now, as long as the retriever reads the headers and nothing else (`ReadsHeaders`).

A `Hearing` holds all of that, so two requests are decided on alike when they get one hearing,
and whether a handler is reached can be read off the hearing alone.  Then each of the two is
answered by the handler, and otherwise both get the guard's one answer, without its body for the
head.
-/
import Turnstile.Proofs.Enforcement

namespace Turnstile

open Http

/-! ### Retrievers that read headers -/

/-- The retriever reads nothing of a request but its headers. -/
structure Retriever.ReadsHeaders (retriever : Retriever Request) : Prop where
  retrieve : ∀ {a b : Request}, a.headers = b.headers → retriever.retrieve a = retriever.retrieve b
  revise : ∀ {a b : Request}, a.headers = b.headers → retriever.revise a = retriever.revise b

theorem Retriever.readsHeaders_ofHeader : Retriever.ofHeader.ReadsHeaders where
  retrieve h := by simp only [ofHeader, Credentials.ofRequest, Request.header?, h]
  revise _ := rfl

theorem Checkpoint.settle_congr {c : Checkpoint Request} (hreads : c.retriever.ReadsHeaders)
    {a b : Request} (hheaders : a.headers = b.headers) (roster : Roster) (lookup : Lookup) :
    c.settle roster lookup a = c.settle roster lookup b := by
  cases lookup with
  | pass reason => rfl
  | consult rule required =>
      simp only [settle, hreads.retrieve hheaders, hreads.revise hheaders]

theorem Guard.effectiveMethod_of_ne {method : String} (h : method ≠ "HEAD")
    (registration : Registration) : effectiveMethod registration method = method :=
  if_neg fun hhead => h hhead.1

theorem Guard.effectiveMethod_of_keyless {registration : Registration}
    (h : registration.keyFor "HEAD" = none) : effectiveMethod registration "HEAD" = "GET" :=
  if_pos ⟨rfl, h⟩

namespace Router

/-! ### Hearings -/

/-- How the guard before a route decides on a request. -/
structure Hearing where
  /-- What registering the route left with it; a policy of the route's own is in its rule. -/
  registration : Registration
  /-- The call that is looked up. -/
  call : Call
  /-- What the roster says of the call: that it passes, or what is required. -/
  lookup : Lookup
  /-- The decision, with who was asked for it and with what. -/
  ruling : Ruling
  /-- The handler behind the guard. -/
  handler : Handler

/-- The hearing that a request gets from the guard before a route. -/
def heard (router : Router) (roster : Roster) (path : String) (mount : Mount)
    (request : Request) : Hearing :=
  let call : Call :=
    { method := Guard.effectiveMethod mount.registration request.method, path }
  { registration := mount.registration
    call
    lookup := .of roster call (some mount.registration)
    ruling := (router.guard mount).ruling roster path request
    handler := mount.handler }

/-- The hearing that a request gets, unless nothing matches or serves it. -/
def hearing? (router : Router) (roster : Roster) (request : Request) : Option Hearing :=
  match router.tree.find? request.path with
  | none => none
  | some (path, _) => (router.target? path request.method).map (router.heard roster path · request)

/-- The request gets to a handler. -/
def Reaches (router : Router) (roster : Roster) (request : Request) (handler : Handler) : Prop :=
  ∃ visit, router.course roster request = .handled handler visit

variable {router : Router} {roster : Roster} {request : Request} {path : String}
  {captures : List String} {mount : Mount}

theorem hearing?_of_target? (roster : Roster)
    (hmatch : router.tree.find? request.path = some (path, captures))
    (htarget : router.target? path request.method = some mount) :
    router.hearing? roster request = some (router.heard roster path mount request) := by
  simp only [hearing?, hmatch, htarget, Option.map_some]

/-- **A handler is reached exactly when its guard's hearing ends without a refusal.** -/
theorem reaches_iff {handler : Handler} :
    router.Reaches roster request handler ↔
      ∃ hearing, router.hearing? roster request = some hearing ∧
        Guard.refusal? hearing.ruling.outcome = none ∧ hearing.handler = handler := by
  unfold Reaches course hearing?
  cases router.tree.find? request.path with
  | none => simp
  | some found =>
      obtain ⟨path, captures⟩ := found
      cases htarget : router.target? path request.method with
      | none => simp [courseAt, htarget]
      | some mount =>
          simp only [courseAt, htarget, Option.map_some, Option.some.injEq, exists_eq_left', heard]
          cases Guard.refusal? ((router.guard mount).ruling roster path request).outcome with
          | some problem => simp
          | none => simp

/-- Who is let through at a hearing is answered by the handler behind the guard. -/
theorem answer_of_allowed (hmatch : router.tree.find? request.path = some (path, captures))
    (htarget : router.target? path request.method = some mount) {reason : Reason}
    (h : (router.heard roster path mount request).ruling.outcome = .ok (.allow reason)) :
    router.answer roster request =
      (router.heard roster path mount request).handler
        { catalog := router.catalog.withRoster
            (router.heard roster path mount request).ruling.roster
          request, captures } := by
  rw [answer_of_target? hmatch htarget, Guard.respond_of_allowed h]
  rfl

/-- Requests with the same headers that a guard decides on as one call get one hearing. -/
theorem heard_congr (hreads : router.checkpoint.retriever.ReadsHeaders) {a b : Request}
    (hheaders : a.headers = b.headers)
    (hmethod : Guard.effectiveMethod mount.registration a.method =
      Guard.effectiveMethod mount.registration b.method) :
    router.heard roster path mount a = router.heard roster path mount b := by
  simp only [heard, Guard.ruling, hmethod, Checkpoint.decide, guard,
    Checkpoint.settle_congr hreads hheaders]

/-! ### Where nobody lists `HEAD` -/

section

variable {settings : Settings} {derive : Endpoint → Option Constraints} {routes : List Route}
  {configure : Checkpoint.Setup Request → Checkpoint.Setup Request} {m : String} {r : Route}

theorem not_tunnelled_head : ¬Tunnelled routes path "HEAD" := fun h => absurd h.1 (by decide)

theorem not_tunnelled_get : ¬Tunnelled routes path "GET" := fun h => absurd h.1 (by decide)

/-- The first route to list `GET` serves requests for the head, too, and has no key for them. -/
theorem exists_mount_of_head_unlisted
    (hbuild : (drafted settings derive routes).build configure = .ok router)
    (hunlisted : ∀ r ∈ routes, r.lists path "HEAD" = false)
    (hlisted : ∃ r ∈ routes, r.lists path "GET" = true) :
    ∃ mount, router.target? path "HEAD" = some mount ∧ router.target? path "GET" = some mount ∧
      mount.registration.keyFor "HEAD" = none := by
  obtain ⟨r, hfind⟩ := Option.isSome_iff_exists.mp (List.find?_isSome.mpr hlisted)
  have hnone : routes.find? (Route.lists path "HEAD") = none :=
    List.find?_eq_none.mpr fun r hr => by simp [hunlisted r hr]
  obtain ⟨i, mount, hi, hlists, -, hmount, -, hregistration⟩ :=
    exists_mount_of_find? hbuild not_tunnelled_get hfind
  obtain ⟨rfl, -⟩ := Route.lists_iff.mp hlists
  refine ⟨mount, ?_, ?_, ?_⟩
  · simp only [target?, serving?_of_find?_eq_none hbuild not_tunnelled_head hnone, if_true, hmount]
  · simp only [target?, hmount]
  · exact keyFor_eq_none (servable_of_build hbuild) hi hregistration (by decide)
      (hunlisted r (List.mem_of_getElem? hi))

end

/--
**Asking for the head only is no way around the guard.**  Take a router that was built from any
routes, with or without a pure deriver, and whatever stands on its roster by now.  At a pattern
where some route lists `GET` and none lists `HEAD`, and with a retriever that reads nothing but
headers, two requests with the same headers, one for the head and one for the whole, get one
hearing: by the same route, about the same call, with the same requirement and the same check,
to the same end.  So one reaches a handler exactly when the other does.  If they are let through,
the handler answers them both, and if not, they get the same response; the one for the head is sent
without its body.  Where routes list `HEAD`, a request for the head is heard with the registration
of the first of them, and who is let through there is answered by that route's handler.
-/
theorem head_heard_as_get (settings : Settings) (derive : Endpoint → Option Constraints)
    (routes : List Route) (configure : Checkpoint.Setup Request → Checkpoint.Setup Request)
    (hbuild : (drafted settings derive routes).build configure = .ok router) {head : Request}
    (hhead : head.method = "HEAD")
    (hmatch : router.tree.find? head.path = some (path, captures)) (roster : Roster) :
    ((∀ r ∈ routes, r.lists path "HEAD" = false) → (∃ r ∈ routes, r.lists path "GET" = true) →
      router.checkpoint.retriever.ReadsHeaders →
      ∀ (get : Request) (captures' : List String), get.method = "GET" →
        get.headers = head.headers → router.tree.find? get.path = some (path, captures') →
        (∃ hearing, router.hearing? roster head = some hearing ∧
          router.hearing? roster get = some hearing ∧
          (∀ reason, hearing.ruling.outcome = .ok (.allow reason) →
            let catalog := router.catalog.withRoster hearing.ruling.roster
            router.respond roster head =
                (hearing.handler { catalog, request := head, captures }).headOnly ∧
              router.respond roster get =
                hearing.handler { catalog, request := get, captures := captures' }) ∧
          ((∀ reason, hearing.ruling.outcome ≠ .ok (.allow reason)) →
            router.respond roster head = (router.respond roster get).headOnly)) ∧
        ∀ handler, router.Reaches roster head handler ↔ router.Reaches roster get handler) ∧
    ((∃ r ∈ routes, r.lists path "HEAD" = true) →
      ∃ (i : Nat) (r : Route) (hearing : Hearing), routes[i]? = some r ∧
        r.lists path "HEAD" = true ∧ (∀ r' ∈ routes.take i, r'.lists path "HEAD" = false) ∧
        router.hearing? roster head = some hearing ∧ hearing.handler = r.handler ∧
        (Catalog.Draft.run settings derive (routes.map Route.endpoint)).2[i]? =
          some hearing.registration ∧
        ∀ reason, hearing.ruling.outcome = .ok (.allow reason) →
          let catalog := router.catalog.withRoster hearing.ruling.roster
          router.respond roster head =
            (r.handler { catalog, request := head, captures }).headOnly) := by
  have hsent : router.respond roster head = (router.answer roster head).headOnly :=
    sent_head hhead _
  constructor
  · intro hunlisted hlisted hreads get captures' hget hheaders hmatch'
    obtain ⟨mount, htarget, htarget', hkeyless⟩ :=
      exists_mount_of_head_unlisted hbuild hunlisted hlisted
    have hmethod : Guard.effectiveMethod mount.registration get.method =
        Guard.effectiveMethod mount.registration head.method := by
      rw [hget, hhead, Guard.effectiveMethod_of_keyless hkeyless,
        Guard.effectiveMethod_of_ne (by decide)]
    have hsent' : router.respond roster get = router.answer roster get :=
      sent_of_ne (by rw [hget]; decide) _
    rw [← hhead] at htarget
    rw [← hget] at htarget'
    have hheard : router.heard roster path mount get = router.heard roster path mount head :=
      heard_congr hreads hheaders hmethod
    have hhearing := hearing?_of_target? roster hmatch htarget
    have hhearing' := hearing?_of_target? roster hmatch' htarget'
    rw [hheard] at hhearing'
    refine ⟨⟨_, hhearing, hhearing', fun reason hallowed => ?_, fun hturned => ?_⟩,
      fun handler => ?_⟩
    · refine ⟨?_, ?_⟩
      · rw [hsent, answer_of_allowed hmatch htarget hallowed]
      · rw [← hheard] at hallowed ⊢
        rw [hsent', answer_of_allowed hmatch' htarget' hallowed]
    · -- The guard answers itself, so it does not matter that the handler is called on two visits.
      rw [hsent, hsent', answer_of_target? hmatch htarget, answer_of_target? hmatch' htarget']
      exact congrArg Response.headOnly
        (Guard.respond_of_turned_away (congrArg Hearing.ruling hheard).symm hturned)
    · rw [reaches_iff, reaches_iff, hhearing, hhearing']
  · intro hlisted
    obtain ⟨r, hfind⟩ := Option.isSome_iff_exists.mp (List.find?_isSome.mpr hlisted)
    obtain ⟨i, mount, hi, hlists, hbefore, hmount, hhandler, hregistration⟩ :=
      exists_mount_of_find? hbuild not_tunnelled_head hfind
    have htarget : router.target? path head.method = some mount := by
      simp only [target?, hhead, hmount]
    refine ⟨i, r, _, hi, hlists, hbefore, hearing?_of_target? roster hmatch htarget, hhandler,
      hregistration, fun reason hallowed => ?_⟩
    rw [hsent, answer_of_allowed hmatch htarget hallowed, ← hhandler]
    rfl

/-- Reports by number: everybody may file one, and who may read one is asked. -/
def reports : List Route :=
  [ { guarded with path := "/reports/:number", methods := ["PUT"], rule := none }
  , { guarded with path := "/reports/:number" }
  , { guarded with path := "/reports", methods := ["HEAD"] } ]

/-- A request of an auditor. -/
def audit (method target : String) : Request where
  method
  target
  headers := [("X-Roles", "report:audit".toList.map fun c => c.toNat.toUInt8)]
  body := ""

/-- Now that reports are closed to all but auditors, the head of one is heard like the whole of
another, with the new requirement, and one handler answers both; and the list of reports has a route
for its head. -/
theorem head_of_report_heard :
    ∃ router, (drafted {} (fun _ => none) reports).build gated = .ok router ∧
      router.checkpoint.retriever.ReadsHeaders ∧
      (let roster := router.catalog.roster.insert "GET:/reports/:number" ["report:audit"]
      (∃ hearing, router.hearing? roster (audit "HEAD" "/reports/7") = some hearing ∧
        router.hearing? roster (audit "GET" "/reports/8") = some hearing ∧
        hearing.ruling.consulted =
          [.retriever, .policy false ["report:audit"] ["report:audit"]] ∧
        let catalog := router.catalog.withRoster hearing.ruling.roster
        router.respond roster (audit "HEAD" "/reports/7") =
            (hearing.handler
              { catalog, request := audit "HEAD" "/reports/7", captures := ["7"] }).headOnly ∧
          router.respond roster (audit "GET" "/reports/8") =
            hearing.handler { catalog, request := audit "GET" "/reports/8", captures := ["8"] }) ∧
      ∃ (i : Nat) (r : Route) (hearing : Hearing), reports[i]? = some r ∧ r.path = "/reports" ∧
        router.hearing? roster (audit "HEAD" "/reports") = some hearing ∧
        (Catalog.Draft.run {} (fun _ => none) (reports.map Route.endpoint)).2[i]? =
          some hearing.registration) := by
  have htest : ((drafted {} (fun _ => none) reports).build gated).toOption.any
      (fun router =>
        (router.tree.find? (audit "HEAD" "/reports/7").path = some ("/reports/:number", ["7"])) &&
        (router.tree.find? (audit "GET" "/reports/8").path = some ("/reports/:number", ["8"])) &&
        (router.tree.find? (audit "HEAD" "/reports").path = some ("/reports", [])) &&
        (((router.hearing? (router.catalog.roster.insert "GET:/reports/:number" ["report:audit"])
          (audit "GET" "/reports/8")).map
            fun hearing => (hearing.ruling.consulted, hearing.ruling.outcome)) =
            some ([.retriever, .policy false ["report:audit"] ["report:audit"]],
              .ok (.allow .checkPassed)))) = true := by
    decide +kernel
  obtain ⟨router, hbuild, hrouter⟩ := exists_built htest
  simp only [Bool.and_eq_true, decide_eq_true_eq] at hrouter
  obtain ⟨⟨⟨hmatch, hmatch'⟩, hlist⟩, hruling⟩ := hrouter
  have hreads : router.checkpoint.retriever.ReadsHeaders := by
    rw [← Except.ok.inj (checkpoint_of_build hbuild : Except.ok _ = _)]
    exact Retriever.readsHeaders_ofHeader
  obtain ⟨⟨hearing, hhead, hget, hanswered, -⟩, -⟩ :=
    (head_heard_as_get {} (fun _ => none) reports gated hbuild rfl hmatch _).1 (by decide)
      (by decide) hreads (audit "GET" "/reports/8") ["8"] rfl rfl hmatch'
  obtain ⟨i, r, listing, hi, hlists, -, hheard, -, hregistration, -⟩ :=
    (head_heard_as_get {} (fun _ => none) reports gated hbuild rfl hlist _).2 (by decide)
  rw [hget] at hruling
  obtain ⟨hconsulted, houtcome⟩ := Prod.mk.inj (Option.some.inj hruling)
  exact ⟨router, hbuild, hreads, ⟨hearing, hhead, hget, hconsulted, hanswered _ houtcome⟩, i, r,
    listing, hi, (Route.lists_iff.mp hlists).1, hheard, hregistration⟩

end Router

end Turnstile
