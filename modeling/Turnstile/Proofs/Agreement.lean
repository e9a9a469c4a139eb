/-
Whether the route that a catalog entry names is the one that is served.

Two books decide on a method at a path.  The catalog has the first route that names a
resource, the router has the first route of all.  They agree on an entry exactly when no
route before the recorded one lists the method there.  An earlier one can only be a route
that names no resource, or the entry would be its own; it takes the requests, nobody is
asked, and what the entry requires is enforced on nobody.

A served request shows whose it is by the registration it is decided on: the recorded route
was the first to claim the key, so no other registration has a key for the method.
-/
import Turnstile.Proofs.Enforcement

namespace Turnstile.Router

open Http

section

variable {settings : Settings} {derive : Endpoint → Option Constraints} {routes : List Route}
  {configure : Checkpoint.Setup Request → Checkpoint.Setup Request} {router : Router}
  {i j : Nat} {r : Route} {p m : String} {registration : Registration}

/-! ### Whose entry it is -/

/-- Every entry was made by the first route that claimed its key, for what that route
requires. -/
theorem exists_claimant_of_mem
    (hbuild : (drafted settings derive routes).build configure = .ok router)
    {key : String} {required : List String}
    (hentry : (key, required) ∈ router.catalog.roster.toList) :
    ∃ (j : Nat) (r : Route) (m : String), routes[j]? = some r ∧ m ∈ r.methods ∧
      key = r.endpoint.keyUnder derive m ∧ r.rule.bind Rule.required? = some required ∧
      Endpoint.FirstClaims derive (routes.map Route.endpoint) j key := by
  obtain ⟨key', -, hmap⟩ := List.mem_filterMap.mp hentry
  obtain ⟨required', hget, heq⟩ := Option.map_eq_some_iff.mp hmap
  obtain ⟨rfl, rfl⟩ := Prod.mk.inj heq
  rw [roster_of_build hbuild] at hget
  have hclaimed : ∃ e ∈ routes.map Route.endpoint, e.Claims derive key' := by
    by_contra hnone
    push Not at hnone
    rw [Catalog.Draft.get?_of_unclaimed settings hnone] at hget
    cases hget
  obtain ⟨j, hfirst⟩ := Endpoint.exists_firstClaims derive hclaimed
  obtain ⟨e, he, hclaims⟩ := hfirst.1
  rw [List.getElem?_map] at he
  obtain ⟨r, hr, rfl⟩ := Option.map_eq_some_iff.mp he
  obtain ⟨-, m, hm, hkey⟩ := (Endpoint.claims_iff derive).mp hclaims
  obtain ⟨required, hrequired, hget'⟩ :=
    Catalog.Draft.get?_of_firstClaims settings (endpoint_getElem? hr) hfirst
  obtain rfl : required = required' := Option.some.inj (hget'.symm.trans hget)
  exact ⟨j, r, m, hr, hm, hkey, hrequired, hfirst⟩

/-- Before the first claim on a key, nobody with a resource listed the method there. -/
theorem undemanding_of_firstClaims
    (hfirst : Endpoint.FirstClaims (fun _ => none) (routes.map Route.endpoint) j
      (Endpoint.key m p none)) :
    ∀ r' ∈ routes.take j, r'.lists p m = true → r'.rule.bind Rule.required? = none := by
  intro r' hr' hlists
  obtain ⟨hpath, hm⟩ := Route.lists_iff.mp hlists
  refine Option.not_isSome_iff_eq_none.mp fun hsome => hfirst.2 r'.endpoint ?_ ?_
  · rw [← List.map_take]
    exact List.mem_map_of_mem hr'
  · exact (Endpoint.claims_iff _).mpr ⟨hsome, m, hm, by rw [← hpath]; rfl⟩

/-! ### Whose requests they are -/

/-- The requests of a method at a path are decided on as those of the route at a place, and
go to its handler. -/
def ServedBy (router : Router) (registered : List (Route × Registration)) (j : Nat)
    (path method : String) : Prop :=
  ∃ added ∈ registered[j]?, ∃ mount, router.target? path method = some mount ∧
    mount.registration = added.2 ∧ mount.handler = added.1.handler

/-- A route that names no resource has a key for no method. -/
theorem keyFor_of_undemanding (hi : routes[i]? = some r)
    (hregistration : (Catalog.Draft.run settings derive (routes.map Route.endpoint)).2[i]? =
      some registration) (hnone : r.rule.bind Rule.required? = none) (method : String) :
    registration.keyFor method = none := by
  refine Option.eq_none_iff_forall_ne_some.mpr fun key hkey => ?_
  obtain ⟨-, ⟨e, he, hclaims⟩, -⟩ := (keyFor_iff_of_run hi hregistration _ _).mp hkey
  obtain rfl : r.endpoint = e := Option.some.inj ((endpoint_getElem? hi).symm.trans he)
  have hsome := ((Endpoint.claims_iff derive).mp hclaims).1
  rw [show r.endpoint.rule = r.rule from rfl, hnone] at hsome
  exact Bool.noConfusion hsome

/-- A listed method that is no tunnel keeps clear of tunnels. -/
theorem not_tunnelled_of_lists
    (hbuild : (drafted settings derive routes).build configure = .ok router)
    (hr : r ∈ routes) (hlists : r.lists p m = true) (hconnect : m ≠ "CONNECT") :
    ¬Tunnelled routes p m := by
  intro h
  obtain ⟨hmethod, r', hr', hlists'⟩ := h
  obtain rfl := hmethod.resolve_left hconnect
  exact absurd (eq_of_lists hbuild hr' hr hlists' hlists rfl) (by decide)

theorem registered_getElem? (hj : routes[j]? = some r)
    (hregistration : (Catalog.Draft.run settings derive (routes.map Route.endpoint)).2[j]? =
      some registration) :
    (registered settings derive routes)[j]? = some (r, registration) := by
  rw [registered, List.getElem?_zip_eq_some]
  exact ⟨hj, hregistration⟩

/-- The first route to list a method is the one that serves it. -/
theorem servedBy_of_first (hbuild : (drafted settings derive routes).build configure = .ok router)
    (hj : routes[j]? = some r) (hlists : r.lists p m = true) (hconnect : m ≠ "CONNECT")
    (hbefore : ∀ r' ∈ routes.take j, r'.lists p m = false) :
    ServedBy router (registered settings derive routes) j p m := by
  have hr : r ∈ routes := List.mem_of_getElem? hj
  have htunnel := not_tunnelled_of_lists hbuild hr hlists hconnect
  obtain ⟨mount, hmount, hhandler, hregistration⟩ := exists_mount_of_first hbuild hj
    ((asks_eq_lists htunnel hr).trans hlists)
    fun r' hr' => (asks_eq_lists htunnel (List.mem_of_mem_take hr')).trans (hbefore r' hr')
  exact ⟨(r, mount.registration), registered_getElem? hj hregistration, mount,
    by simp only [target?, hmount], rfl, hhandler⟩

/-- Behind a route that lists its method, a route that claimed the key serves nobody. -/
theorem not_servedBy_of_earlier
    (hbuild : (drafted settings derive routes).build configure = .ok router)
    (hj : routes[j]? = some r) (hlists : r.lists p m = true) (hconnect : m ≠ "CONNECT")
    (hfirst : Endpoint.FirstClaims derive (routes.map Route.endpoint) j
      (r.endpoint.keyUnder derive m)) {r' : Route}
    (hfind : routes.find? (Route.lists p m) = some r')
    (hnone : r'.rule.bind Rule.required? = none) :
    ¬ServedBy router (registered settings derive routes) j p m := by
  intro h
  obtain ⟨added, hadded, mount, htarget, hown, -⟩ := h
  obtain ⟨i, mount', hi, -, -, hmount', -, hregistration'⟩ := exists_mount_of_find? hbuild
    (not_tunnelled_of_lists hbuild (List.mem_of_getElem? hj) hlists hconnect) hfind
  have hsame : mount = mount' := by
    simp only [target?, hmount', Option.some.injEq] at htarget
    exact htarget.symm
  obtain ⟨-, hregistration⟩ := List.getElem?_zip_eq_some.mp hadded
  -- The recorded route has a key for the method, the serving one has none.
  have hkey : added.2.keyFor m = some (r.endpoint.keyUnder derive m) :=
    (keyFor_iff_of_run hj hregistration _ _).mpr
      ⟨⟨m, (Route.lists_iff.mp hlists).2, Text.sameIgnoringCase_self m, rfl⟩, hfirst⟩
  rw [← hown, hsame, keyFor_of_undemanding hi hregistration' hnone] at hkey
  cases hkey

theorem not_servedBy_connect
    (hbuild : (drafted settings derive routes).build configure = .ok router)
    (j : Nat) (p : String) :
    ¬ServedBy router (registered settings derive routes) j p "CONNECT" := by
  intro h
  obtain ⟨_, _, mount, htarget, -⟩ := h
  simp only [target?, serving?_connect hbuild p] at htarget
  cases htarget

/-- Of the routes before a place that list a method, the first serves it. -/
theorem exists_find?_of_earlier {q : Route → Bool} (h : ∃ r' ∈ routes.take j, q r' = true) :
    ∃ r' ∈ routes.take j, q r' = true ∧ routes.find? q = some r' := by
  obtain ⟨r', hfind⟩ := Option.isSome_iff_exists.mp (List.find?_isSome.mpr h)
  refine ⟨r', List.mem_of_find?_eq_some hfind, List.find?_some hfind, ?_⟩
  rw [← List.take_append_drop j routes, List.find?_append, hfind, Option.some_or]

theorem demand?_of_required {rule : Rule} {required : List String} (hrule : r.rule = some rule)
    (hrequired : rule.required? = some required) :
    r.demand? = if rule.skip then none else some (rule, required) := by
  simp only [Route.demand?, hrule, hrequired, Option.map_some]

theorem demand?_of_undemanding (h : r.rule.bind Rule.required? = none) : r.demand? = none := by
  cases hdemand : r.demand? with
  | none => rfl
  | some demand =>
      obtain ⟨hrule, -, hrequired⟩ := Route.demand?_eq_some_iff.mp hdemand
      rw [hrule, Option.bind_some, hrequired] at h
      cases h

end

/-! ### Agreement, entry by entry -/

/--
**An entry is enforced exactly where nobody else was first.**  Without a deriver, every entry
of a router's catalog is that of the first route with a resource to list its method at its
path.  That route serves the requests for the method exactly when the method is no tunnel
and no route listed it there before.  Then what the entry requires is what callers are
checked against, unless the route is skipped.  Otherwise the earlier route answers every
request and nobody is asked, and nobody serves a tunnel.  The response to a request is that of
the handler that it gets to.
-/
theorem entry_servedBy_iff (settings : Settings) (routes : List Route)
    (configure : Checkpoint.Setup Request → Checkpoint.Setup Request) {router : Router}
    (hbuild : ((Draft.new settings).routeAll routes).build configure = .ok router)
    {key : String} {required : List String}
    (hentry : (key, required) ∈ router.catalog.roster.toList) :
    ∃ (j : Nat) (r : Route) (rule : Rule) (m : String),
      routes[j]? = some r ∧ m ∈ r.methods ∧ key = Endpoint.key m r.path none ∧
      r.rule = some rule ∧ rule.required? = some required ∧
      (∀ r' ∈ routes.take j, r'.lists r.path m = true → r'.rule.bind Rule.required? = none) ∧
      (ServedBy router (registered settings (fun _ => none) routes) j r.path m ↔
        m ≠ "CONNECT" ∧ ∀ r' ∈ routes.take j, r'.lists r.path m = false) ∧
      ∀ request captures, request.method = m →
        router.tree.find? request.path = some (r.path, captures) →
        let visit : Visit := { catalog := router.catalog, request, captures }
        let course := router.course router.catalog.roster request
        ((m ≠ "CONNECT" ∧ ∀ r' ∈ routes.take j, r'.lists r.path m = false) →
          course = if rule.skip then .handled r.handler visit
            else checked router.checkpoint rule required r.handler visit) ∧
        (m ≠ "CONNECT" → (∃ r' ∈ routes.take j, r'.lists r.path m = true) →
          ∃ r' ∈ routes.take j, r'.lists r.path m = true ∧ course = .handled r'.handler visit) ∧
        (m = "CONNECT" → course = .unserved) ∧
        ∀ handler visit', course = .handled handler visit' →
          router.respond router.catalog.roster request = sent request (handler visit') := by
  replace hbuild : (drafted settings (fun _ => none) routes).build configure = .ok router := hbuild
  have htelling := telling_of_underived (servable_of_build hbuild)
  obtain ⟨j, r, m, hj, hm, rfl, hrequired, hfirst⟩ := exists_claimant_of_mem hbuild hentry
  obtain ⟨rule, hrule, hbound⟩ := Option.bind_eq_some_iff.mp hrequired
  have hlists : r.lists r.path m = true := Route.lists_iff.mpr ⟨rfl, hm⟩
  have hundemanding := undemanding_of_firstClaims hfirst
  have hr : r ∈ routes := List.mem_of_getElem? hj
  refine ⟨j, r, rule, m, hj, hm, rfl, hrule, hbound, hundemanding,
    ⟨fun hserved => ⟨?_, ?_⟩, ?_⟩, fun request captures hmethod hmatch => ?_⟩
  · intro heq
    subst heq
    exact not_servedBy_connect hbuild j r.path hserved
  · by_contra hearlier
    have hconnect : m ≠ "CONNECT" := by
      intro heq
      subst heq
      exact not_servedBy_connect hbuild j r.path hserved
    obtain ⟨r', hr', hlists', hfind⟩ := exists_find?_of_earlier (by simpa using hearlier)
    exact not_servedBy_of_earlier hbuild hj hlists hconnect hfirst hfind
      (hundemanding r' hr' hlists') hserved
  · intro h
    obtain ⟨hconnect, hbefore⟩ := h
    exact servedBy_of_first hbuild hj hlists hconnect hbefore
  · have hcourse : router.course router.catalog.roster request =
        router.courseAt router.catalog.roster r.path captures request := by
      simp only [course, hmatch]
    refine ⟨?_, fun hconnect hearlier => ?_, fun hconnect => ?_, fun _ _ => respond_of_handled⟩
    · intro h
      obtain ⟨hconnect, hbefore⟩ := h
      have hfind := find?_of_first hj hlists hbefore
      refine hcourse.trans ((courseAt_of_find? hbuild htelling
        (not_tunnelled_of_lists hbuild hr hlists hconnect) hfind captures (.inl hmethod)).trans ?_)
      rw [demand?_of_required hrule hbound]
      split <;> rfl
    · obtain ⟨r', hr', hlists', hfind⟩ := exists_find?_of_earlier hearlier
      refine ⟨r', hr', hlists', hcourse.trans ((courseAt_of_find? hbuild htelling
        (not_tunnelled_of_lists hbuild hr hlists hconnect) hfind captures (.inl hmethod)).trans ?_)⟩
      rw [demand?_of_undemanding (hundemanding r' hr' hlists')]
      rfl
    · exact hcourse.trans (courseAt_connect hbuild r.path captures (hmethod.trans hconnect))

/-- The report of `guarded` again, for everybody. -/
def opened : Route where
  path := "/report"
  methods := ["GET"]
  handler := fun _ => { status := 200, body := .text "open" }
  rule := none

/-- Whoever has the report guarded first has it guarded. -/
theorem guarded_serves_report :
    ∃ router, ((Draft.new {}).routeAll [guarded, opened]).build gated = .ok router ∧
      ("GET:/report", ["report:read"]) ∈ router.catalog.roster.toList ∧
      ∃ (j : Nat) (r : Route) (m : String), [guarded, opened][j]? = some r ∧
        "GET:/report" = Endpoint.key m r.path none ∧
        ServedBy router (registered {} (fun _ => none) [guarded, opened]) j r.path m := by
  have htest : (((Draft.new {}).routeAll [guarded, opened]).build gated).toOption.any
      (fun router => ("GET:/report", ["report:read"]) ∈ router.catalog.roster.toList) = true := by
    decide +kernel
  obtain ⟨router, hbuild, hentry⟩ := exists_built htest
  obtain ⟨j, r, rule, m, hj, hm, hkey, hrule, -, -, hserved, -⟩ :=
    entry_servedBy_iff {} [guarded, opened] gated hbuild (of_decide_eq_true hentry)
  refine ⟨router, hbuild, of_decide_eq_true hentry, j, r, m, hj, hkey, hserved.mpr ?_⟩
  match j with
  | 0 =>
      obtain rfl : guarded = r := Option.some.inj hj
      obtain rfl : m = "GET" := List.mem_singleton.mp hm
      exact ⟨by decide, by simp⟩
  | 1 =>
      obtain rfl : opened = r := Option.some.inj hj
      cases hrule

/-- Whoever has it guarded second finds it listed as guarded, and open. -/
theorem opened_serves_report :
    ∃ router, ((Draft.new {}).routeAll [opened, guarded]).build gated = .ok router ∧
      ("GET:/report", ["report:read"]) ∈ router.catalog.roster.toList ∧
      Endpoint.FirstClaims (fun _ => none) ([opened, guarded].map Route.endpoint) 1
        "GET:/report" ∧
      ¬ServedBy router (registered {} (fun _ => none) [opened, guarded]) 1 "/report" "GET" ∧
      router.course router.catalog.roster (bare "GET" "/report") =
        .handled opened.handler
          { catalog := router.catalog, request := bare "GET" "/report", captures := [] } ∧
      router.respond router.catalog.roster (bare "GET" "/report") =
        { status := 200, body := .text "open" } := by
  have htest : (((Draft.new {}).routeAll [opened, guarded]).build gated).toOption.any
      (fun router => ("GET:/report", ["report:read"]) ∈ router.catalog.roster.toList ∧
        router.tree.find? (bare "GET" "/report").path = some ("/report", [])) = true := by
    decide +kernel
  obtain ⟨router, hbuild, hpassed⟩ := exists_built htest
  obtain ⟨hentry, hfind⟩ := of_decide_eq_true hpassed
  replace hbuild : (drafted {} (fun _ => none) [opened, guarded]).build gated = .ok router := hbuild
  have hfirst : Endpoint.FirstClaims (fun _ => none) ([opened, guarded].map Route.endpoint) 1
      (guarded.endpoint.keyUnder (fun _ => none) "GET") := by decide
  have hopened : [opened, guarded].find? (Route.lists "/report" "GET") = some opened := rfl
  have hcourse : router.course router.catalog.roster (bare "GET" "/report") =
      .handled opened.handler
        { catalog := router.catalog, request := bare "GET" "/report", captures := [] } := by
    simp only [course, hfind]
    exact courseAt_of_find? hbuild (telling_of_underived (servable_of_build hbuild))
      (fun h => absurd h.1 (by decide)) hopened [] (.inl rfl)
  exact ⟨router, hbuild, hentry, hfirst,
    not_servedBy_of_earlier hbuild rfl rfl (by decide) hfirst hopened rfl, hcourse,
    respond_of_handled hcourse⟩

end Turnstile.Router
