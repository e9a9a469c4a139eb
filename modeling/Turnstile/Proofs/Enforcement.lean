/-
Who answers a request, and after which check.

The request is meant for the first route that lists its method at the matched path, and a
request for the head only, where nobody lists `HEAD`, for the first that lists `GET`.  If
that route demands a check, the catalog has to know of it: the route must have been the
first to claim the key under which the request is looked up.  It was, because keys tell
methods and paths apart (`Telling`) and every earlier claim on that key would have come from
an earlier route that lists the same method at the same path.

The one exception is a tunnel.  A claim on `CONNECT` is served to requests for `OPTIONS`,
which no route was asked to check, so such a request reaches the handler of a route that
demands a check without any, and a request for `CONNECT` reaches nobody.
-/
import Turnstile.Proofs.Answering
import Turnstile.Proofs.Checkpoint
import Turnstile.Proofs.Shares

namespace Turnstile

open Http

namespace Route

/-- The route that the requests of a method at a path are meant for. -/
def meant? (routes : List Route) (path method : String) : Option Route :=
  (routes.find? (lists path method)).or
    (if method = "HEAD" then routes.find? (lists path "GET") else none)

/-- The check that a route demands: its rule, with the privileges that the rule requires. -/
def demand? (r : Route) : Option (Rule × List String) :=
  match r.rule with
  | none => none
  | some rule => if rule.skip then none else rule.required?.map (rule, ·)

theorem demand?_eq_some_iff {r : Route} {rule : Rule} {required : List String} :
    r.demand? = some (rule, required) ↔
      r.rule = some rule ∧ rule.skip = false ∧ rule.required? = some required := by
  unfold demand?
  cases r.rule with
  | none => simp
  | some rule' =>
      by_cases hskip : rule'.skip = true
      · simp only [hskip, if_true, Option.some.injEq]
        refine iff_of_false (by simp) ?_
        intro h
        obtain ⟨rfl, hnot, -⟩ := h
        exact Bool.noConfusion (hskip.symm.trans hnot)
      · simp only [if_neg hskip, Option.map_eq_some_iff, Prod.mk.injEq, Option.some.injEq]
        constructor
        · intro h
          obtain ⟨_, hrequired, rfl, rfl⟩ := h
          exact ⟨rfl, by simpa using hskip, hrequired⟩
        · intro h
          obtain ⟨rfl, -, hrequired⟩ := h
          exact ⟨required, hrequired, rfl, rfl⟩

end Route

/-- A lookup finds what is demanded: a check exactly when there is one. -/
def Lookup.Meets (lookup : Lookup) : Option (Rule × List String) → Prop
  | none => ∃ reason, lookup = .pass reason
  | some (rule, required) => lookup = .consult rule required

namespace Router

/-! ### What is to become of a request -/

/-- A request is checked before the handler runs: the retriever is asked and then one
policy, the rule's own or else the checkpoint's. -/
def checked (c : Checkpoint Request) (rule : Rule) (required : List String) (handler : Handler)
    (visit : Visit) : Course :=
  match c.retriever.retrieve visit.request with
  | .error failure => .refused (.fault (.retrieval failure))
  | .ok held =>
    match (rule.policy.getD c.policy) required held with
    | .error failure => .refused (.fault (.policy failure))
    | .ok false => .refused (.forbidden c.forbiddenMessage)
    | .ok true =>
      let roster := c.retriever.revise visit.request visit.catalog.roster
      .handled handler { visit with catalog := visit.catalog.withRoster roster }

/-- A request gets to the handler, after the check that is demanded. -/
def courseUnder (c : Checkpoint Request) (demand : Option (Rule × List String))
    (handler : Handler) (visit : Visit) : Course :=
  match demand with
  | none => .handled handler visit
  | some (rule, required) => checked c rule required handler visit

/-- What is to become of a request at a path. -/
def intended (c : Checkpoint Request) (routes : List Route) (path : String) (visit : Visit) :
    Course :=
  match Route.meant? routes path visit.request.method with
  | none => .unserved
  | some r => courseUnder c r.demand? r.handler visit

/-- The requests that a listed tunnel is about: those it is listed for and those it gets. -/
def Tunnelled (routes : List Route) (path method : String) : Prop :=
  (method = "CONNECT" ∨ method = "OPTIONS") ∧ ∃ r ∈ routes, r.lists path "CONNECT" = true

instance (routes : List Route) (path method : String) : Decidable (Tunnelled routes path method) :=
  inferInstanceAs (Decidable (_ ∧ _))

/-! ### Lookups and courses -/

/-- A served request takes the course of what its lookup finds. -/
theorem courseAt_of_meets {router : Router} {roster : Roster} {path : String}
    {captures : List String} {request : Request} {mount : Mount}
    {demand : Option (Rule × List String)}
    (htarget : router.target? path request.method = some mount)
    (hmeets : (Lookup.of roster
      { method := Guard.effectiveMethod mount.registration request.method, path }
      (some mount.registration)).Meets demand) :
    router.courseAt roster path captures request =
      courseUnder router.checkpoint demand mount.handler
        { catalog := router.catalog.withRoster roster, request, captures } := by
  unfold courseAt courseUnder
  simp only [htarget, Guard.ruling, guard, Checkpoint.decide]
  cases demand with
  | none =>
      obtain ⟨reason, hlookup⟩ := hmeets
      rw [hlookup]
      rfl
  | some demand =>
      obtain ⟨rule, required⟩ := demand
      rw [show Lookup.of _ _ _ = _ from hmeets]
      simp only [Checkpoint.settle, checked]
      cases router.checkpoint.retriever.retrieve request with
      | error failure => rfl
      | ok held =>
          simp only [Checkpoint.judge, Checkpoint.policyFor]
          rcases (rule.policy.getD router.checkpoint.policy) required held with
            failure | (_ | _) <;> rfl

theorem courseUnder_ne_unserved (c : Checkpoint Request) (demand : Option (Rule × List String))
    (handler : Handler) (visit : Visit) : courseUnder c demand handler visit ≠ .unserved := by
  unfold courseUnder checked
  rcases demand with _ | ⟨rule, required⟩
  · simp
  · simp only
    rcases c.retriever.retrieve visit.request with failure | held
    · simp
    · simp only
      rcases (rule.policy.getD c.policy) required held with failure | (_ | _) <;> simp

/-- A route that demands nothing is passed unasked. -/
theorem meets_of_demand_none (roster : Roster) (call : Call) {r : Route}
    {registration : Registration} (hrule : registration.rule = r.rule)
    (hdemand : r.demand? = none) :
    (Lookup.of roster call (some registration)).Meets r.demand? := by
  rw [hdemand]
  unfold Route.demand? at hdemand
  unfold Lookup.of
  simp only [hrule]
  cases hr : r.rule with
  | none => exact ⟨_, rfl⟩
  | some rule =>
      simp only [hr] at hdemand
      by_cases hskip : rule.skip = true
      · exact ⟨.skipped, by simp [hskip]⟩
      · rw [if_neg hskip, Option.map_eq_none_iff, Rule.required?, Option.map_eq_none_iff] at hdemand
        exact ⟨.noResource, by simp [hskip, hdemand]⟩

/-! ### Keys that tell routes apart -/

/-- The key of a listed method is the key of no other method and path, be it with the
constraints of another route or without any. -/
def Telling (derive : Endpoint → Option Constraints) (routes : List Route) : Prop :=
  ∀ r ∈ routes, ∀ m ∈ r.methods, ∀ r' ∈ routes, ∀ m' ∈ servable,
    ∀ constraints, constraints = none ∨ constraints = r'.endpoint.constraintsUnder derive →
      r.endpoint.keyUnder derive m = Endpoint.key m' r'.path constraints →
        m = m' ∧ r.path = r'.path

theorem colon_notMem_of_servable {m : String} (h : m ∈ servable) : ':' ∉ m.toList := by
  revert m
  decide

theorem upper_of_servable {m : String} (h : m ∈ servable) : Text.upper m = m := by
  revert m
  decide

/-- Methods that can be served are told apart by more than their case. -/
theorem eq_of_sameIgnoringCase {m m' : String} (hm : m ∈ servable) (hm' : m' ∈ servable)
    (h : Text.sameIgnoringCase m m' = true) : m = m' := by
  rw [Text.sameIgnoringCase_iff, upper_of_servable hm, upper_of_servable hm'] at h
  exact h

/-- Paths that announce no constraints keep keys apart, whatever is derived. -/
theorem telling_of_free (derive : Endpoint → Option Constraints) {routes : List Route}
    (hservable : ∀ r ∈ routes, ∀ m ∈ r.methods, m ∈ servable)
    (hfree : ∀ r ∈ routes, ¬Endpoint.announcement <:+: r.path.toList) : Telling derive routes := by
  intro r hr m hm r' hr' m' hm' constraints _ hkey
  obtain ⟨hupper, hpath⟩ := Endpoint.method_path_of_key_eq
    (colon_notMem_of_servable (hservable r hr m hm)) (colon_notMem_of_servable hm')
    (hfree r hr) (hfree r' hr') hkey
  rw [upper_of_servable (hservable r hr m hm), upper_of_servable hm'] at hupper
  exact ⟨hupper, hpath⟩

/-- Where nothing is derived, no route has constraints and any paths will do. -/
theorem telling_of_underived {routes : List Route}
    (hservable : ∀ r ∈ routes, ∀ m ∈ r.methods, m ∈ servable) :
    Telling (fun _ => none) routes := by
  intro r hr m hm r' hr' m' hm' constraints hconstraints hkey
  obtain rfl : constraints = none := hconstraints.elim id id
  obtain ⟨hupper, hpath⟩ := Endpoint.method_path_of_key_none_eq
    (colon_notMem_of_servable (hservable r hr m hm)) (colon_notMem_of_servable hm') hkey
  rw [upper_of_servable (hservable r hr m hm), upper_of_servable hm'] at hupper
  exact ⟨hupper, hpath⟩

section

variable {settings : Settings} {derive : Endpoint → Option Constraints} {routes : List Route}
  {configure : Checkpoint.Setup Request → Checkpoint.Setup Request} {router : Router}
  {i : Nat} {r : Route} {p m : String} {registration : Registration}

theorem exists_first_of_find? {q : Route → Bool} (h : routes.find? q = some r) :
    ∃ i : Nat, routes[i]? = some r ∧ q r = true ∧ ∀ r' ∈ routes.take i, q r' = false := by
  obtain ⟨hq, before, after, rfl, hbefore⟩ := List.find?_eq_some_iff_append.mp h
  refine ⟨before.length, by simp, hq, fun r' hr' => ?_⟩
  rw [List.take_left] at hr'
  simpa using hbefore r' hr'

theorem find?_of_first {q : Route → Bool} (hi : routes[i]? = some r) (hq : q r = true)
    (hbefore : ∀ r' ∈ routes.take i, q r' = false) : routes.find? q = some r := by
  refine List.find?_eq_some_iff_append.mpr
    ⟨hq, routes.take i, routes.drop (i + 1), eq_take_append hi, ?_⟩
  simpa using hbefore

theorem endpoint_getElem? (hi : routes[i]? = some r) :
    (routes.map Route.endpoint)[i]? = some r.endpoint := by
  rw [List.getElem?_map, hi, Option.map_some]

theorem registered_of_run (hi : routes[i]? = some r)
    (hregistration : (Catalog.Draft.run settings derive (routes.map Route.endpoint)).2[i]? =
      some registration) :
    Catalog.Draft.Registered
      (((routes.map Route.endpoint).take i).flatMap (Endpoint.claims derive)) derive r.endpoint
      registration := by
  obtain ⟨found, hfound, hregistered⟩ :=
    Catalog.Draft.registered_run settings derive (endpoint_getElem? hi)
  obtain rfl : found = registration := Option.some.inj (hfound.symm.trans hregistration)
  exact hregistered

/-- The keys of a route are those that it was the first to claim. -/
theorem keyFor_iff_of_run (hi : routes[i]? = some r)
    (hregistration : (Catalog.Draft.run settings derive (routes.map Route.endpoint)).2[i]? =
      some registration) (method key : String) :
    registration.keyFor method = some key ↔
      (∃ m ∈ r.methods, Text.sameIgnoringCase method m = true ∧
        key = r.endpoint.keyUnder derive m) ∧
        Endpoint.FirstClaims derive (routes.map Route.endpoint) i key :=
  (registered_of_run hi hregistration).keyFor_iff (endpoint_getElem? hi) method key

/-- A route has no key for a method that it does not list. -/
theorem keyFor_eq_none (hservable : ∀ r ∈ routes, ∀ m ∈ r.methods, m ∈ servable)
    (hi : routes[i]? = some r)
    (hregistration : (Catalog.Draft.run settings derive (routes.map Route.endpoint)).2[i]? =
      some registration) (hm : m ∈ servable) (hunlisted : r.lists r.path m = false) :
    registration.keyFor m = none := by
  refine Option.eq_none_iff_forall_ne_some.mpr fun key hkey => ?_
  obtain ⟨⟨m', hm', hcase, -⟩, -⟩ := (keyFor_iff_of_run hi hregistration _ _).mp hkey
  have hsame : m = m' :=
    eq_of_sameIgnoringCase hm (hservable r (List.mem_of_getElem? hi) m' hm') hcase
  exact Route.lists_eq_false_iff.mp hunlisted ⟨rfl, hsame ▸ hm'⟩

/-- The first route to list a method at a path is the first to claim the key. -/
theorem firstClaims_of_first (htelling : Telling derive routes)
    (hservable : ∀ r ∈ routes, ∀ m ∈ r.methods, m ∈ servable) (hi : routes[i]? = some r)
    (hlists : r.lists p m = true) (hbefore : ∀ r' ∈ routes.take i, r'.lists p m = false)
    (hrequired : (r.rule.bind Rule.required?).isSome) :
    Endpoint.FirstClaims derive (routes.map Route.endpoint) i (r.endpoint.keyUnder derive m) := by
  obtain ⟨hpath, hm⟩ := Route.lists_iff.mp hlists
  have hr : r ∈ routes := List.mem_of_getElem? hi
  constructor
  · exact ⟨r.endpoint, endpoint_getElem? hi,
      (Endpoint.claims_iff derive).mpr ⟨hrequired, m, hm, rfl⟩⟩
  · intro e he hclaims
    rw [← List.map_take] at he
    obtain ⟨r', hr', rfl⟩ := List.mem_map.mp he
    obtain ⟨-, m', hm', hkey⟩ := (Endpoint.claims_iff derive).mp hclaims
    have hmem : r' ∈ routes := List.mem_of_mem_take hr'
    obtain ⟨rfl, hsame⟩ :=
      htelling r hr m hm r' hmem m' (hservable r' hmem m' hm') _ (.inr rfl) hkey
    exact Route.lists_eq_false_iff.mp (hbefore r' hr') ⟨hsame.symm.trans hpath, hm'⟩

/-- It is decided on as the method it listed, be it asked for the head only. -/
theorem effectiveMethod_of_first (htelling : Telling derive routes)
    (hservable : ∀ r ∈ routes, ∀ m ∈ r.methods, m ∈ servable) (hi : routes[i]? = some r)
    (hlists : r.lists p m = true) (hbefore : ∀ r' ∈ routes.take i, r'.lists p m = false)
    (hrequired : (r.rule.bind Rule.required?).isSome)
    (hregistration : (Catalog.Draft.run settings derive (routes.map Route.endpoint)).2[i]? =
      some registration) {method : String}
    (hmethod : method = m ∨ method = "HEAD" ∧ m = "GET" ∧ r.lists p "HEAD" = false) :
    Guard.effectiveMethod registration method = m := by
  obtain ⟨hpath, hm⟩ := Route.lists_iff.mp hlists
  rcases hmethod with rfl | ⟨rfl, rfl, hhead⟩
  · have hkey : registration.keyFor method = some (r.endpoint.keyUnder derive method) :=
      (keyFor_iff_of_run hi hregistration _ _).mpr
        ⟨⟨method, hm, Text.sameIgnoringCase_self method, rfl⟩,
          firstClaims_of_first htelling hservable hi hlists hbefore hrequired⟩
    refine if_neg fun hfallback => ?_
    rw [← hfallback.1, hkey] at hfallback
    exact Option.some_ne_none _ hfallback.2
  · rw [← hpath] at hhead
    exact if_pos ⟨rfl, keyFor_eq_none hservable hi hregistration (by decide) hhead⟩

/-- And the lookup for it finds what it demands. -/
theorem meets_of_first (hbuild : (drafted settings derive routes).build configure = .ok router)
    (htelling : Telling derive routes) (hi : routes[i]? = some r) (hlists : r.lists p m = true)
    (hbefore : ∀ r' ∈ routes.take i, r'.lists p m = false)
    (hregistration : (Catalog.Draft.run settings derive (routes.map Route.endpoint)).2[i]? =
      some registration) {method : String}
    (hmethod : method = m ∨ method = "HEAD" ∧ m = "GET" ∧ r.lists p "HEAD" = false) :
    (Lookup.of router.catalog.roster
      { method := Guard.effectiveMethod registration method, path := p }
      (some registration)).Meets r.demand? := by
  have hregistered := registered_of_run hi hregistration
  cases hdemand : r.demand? with
  | none => exact hdemand ▸ meets_of_demand_none _ _ hregistered.rule hdemand
  | some demand =>
      obtain ⟨rule, required⟩ := demand
      obtain ⟨hrule, hskip, hrequired⟩ := Route.demand?_eq_some_iff.mp hdemand
      have hbound : r.rule.bind Rule.required? = some required := by rw [hrule]; exact hrequired
      have hsome : (r.rule.bind Rule.required?).isSome := by rw [hbound]; rfl
      have hservable := servable_of_build hbuild
      have hi' := endpoint_getElem? hi
      have hfirst := firstClaims_of_first htelling hservable hi hlists hbefore hsome
      have hkey : Lookup.key { method := m, path := p } registration =
          r.endpoint.keyUnder derive m :=
        Catalog.Draft.key_of_firstClaims hi' hregistered (Route.lists_iff.mp hlists).2
          (Text.sameIgnoringCase_self m) hfirst
      have hresource : rule.resource.isSome := by
        simpa [Rule.required?] using congrArg Option.isSome hrequired
      rw [effectiveMethod_of_first htelling hservable hi hlists hbefore hsome hregistration hmethod,
        Lookup.Meets, Checkpoint.lookup_of_declared (hregistered.rule.trans hrule) hskip hresource,
        hkey]
      obtain ⟨required', hrequired', hget⟩ :=
        Catalog.Draft.get?_of_firstClaims settings hi' hfirst
      obtain rfl : required' = required := Option.some.inj (hrequired'.symm.trans hbound)
      rw [roster_of_build hbuild, hget]

/-! ### Away from tunnels -/

/-- There, the routes that ask for a request are those that list its method. -/
theorem asks_eq_lists (htunnel : ¬Tunnelled routes p m) (hr : r ∈ routes) :
    r.asks p m = r.lists p m := by
  rw [Bool.eq_iff_iff, Route.asks_iff, Route.lists_iff]
  refine and_congr_right fun hpath => ⟨?_, fun hm => ?_⟩
  · intro h
    obtain ⟨m', hm', rfl⟩ := h
    by_cases hconnect : m' = "CONNECT"
    · subst hconnect
      exact absurd ⟨.inr rfl, r, hr, Route.lists_iff.mpr ⟨hpath, hm'⟩⟩ htunnel
    · rwa [requested_eq_of_ne hconnect]
  · refine ⟨m, hm, requested_eq_of_ne ?_⟩
    intro heq
    subst heq
    exact htunnel ⟨.inl rfl, r, hr, Route.lists_iff.mpr ⟨hpath, hm⟩⟩

/-- There, the first route to list a method serves its requests. -/
theorem exists_mount_of_find?
    (hbuild : (drafted settings derive routes).build configure = .ok router)
    (htunnel : ¬Tunnelled routes p m) (hfind : routes.find? (Route.lists p m) = some r) :
    ∃ (i : Nat) (mount : Mount), routes[i]? = some r ∧ r.lists p m = true ∧
      (∀ r' ∈ routes.take i, r'.lists p m = false) ∧ router.serving? p m = some mount ∧
      mount.handler = r.handler ∧
      (Catalog.Draft.run settings derive (routes.map Route.endpoint)).2[i]? =
        some mount.registration := by
  obtain ⟨i, hi, hlists, hbefore⟩ := exists_first_of_find? hfind
  obtain ⟨mount, hmount⟩ := exists_mount_of_first hbuild hi
    ((asks_eq_lists htunnel (List.mem_of_getElem? hi)).trans hlists)
    fun r' hr' => (asks_eq_lists htunnel (List.mem_of_mem_take hr')).trans (hbefore r' hr')
  exact ⟨i, mount, hi, hlists, hbefore, hmount⟩

/-- And where none lists it, nobody does. -/
theorem serving?_of_find?_eq_none
    (hbuild : (drafted settings derive routes).build configure = .ok router)
    (htunnel : ¬Tunnelled routes p m) (hfind : routes.find? (Route.lists p m) = none) :
    router.serving? p m = none := by
  refine serving?_eq_none hbuild fun r hr => ?_
  rw [asks_eq_lists htunnel hr]
  simpa using List.find?_eq_none.mp hfind r hr

/-- The requests for a method take the course that the first route to list it demands. -/
theorem courseAt_of_find? (hbuild : (drafted settings derive routes).build configure = .ok router)
    (htelling : Telling derive routes) (htunnel : ¬Tunnelled routes p m)
    (hfind : routes.find? (Route.lists p m) = some r) (captures : List String) {request : Request}
    (hmethod : request.method = m ∨
      request.method = "HEAD" ∧ m = "GET" ∧ routes.find? (Route.lists p "HEAD") = none) :
    router.courseAt router.catalog.roster p captures request =
      courseUnder router.checkpoint r.demand? r.handler
        { catalog := router.catalog, request, captures } := by
  obtain ⟨i, mount, hi, hlists, hbefore, hmount, hhandler, hregistration⟩ :=
    exists_mount_of_find? hbuild htunnel hfind
  have htarget : router.target? p request.method = some mount := by
    rcases hmethod with rfl | ⟨hhead, rfl, hnone⟩
    · simp only [target?, hmount]
    · have hplain : ¬Tunnelled routes p "HEAD" := fun h => absurd h.1 (by decide)
      simp only [target?, hhead, serving?_of_find?_eq_none hbuild hplain hnone, if_true, hmount]
  rw [← hhandler]
  refine courseAt_of_meets htarget
    (meets_of_first hbuild htelling hi hlists hbefore hregistration (hmethod.imp_right ?_))
  intro h
  obtain ⟨hhead, hget, hnone⟩ := h
  exact ⟨hhead, hget, by simpa using List.find?_eq_none.mp hnone r (List.mem_of_getElem? hi)⟩

/-- So a request takes the course that is meant for it. -/
theorem courseAt_eq_intended
    (hbuild : (drafted settings derive routes).build configure = .ok router)
    (htelling : Telling derive routes) (captures : List String) {request : Request}
    (htunnel : ¬Tunnelled routes p request.method) :
    router.courseAt router.catalog.roster p captures request =
      intended router.checkpoint routes p { catalog := router.catalog, request, captures } := by
  unfold intended Route.meant?
  simp only
  cases hfind : routes.find? (Route.lists p request.method) with
  | some r => exact courseAt_of_find? hbuild htelling htunnel hfind captures (.inl rfl)
  | none =>
      have hserving := serving?_of_find?_eq_none hbuild htunnel hfind
      rw [Option.none_or]
      by_cases hhead : request.method = "HEAD"
      · have hplain : ¬Tunnelled routes p "GET" := fun h => absurd h.1 (by decide)
        rw [if_pos hhead]
        cases hget : routes.find? (Route.lists p "GET") with
        | some r =>
            exact courseAt_of_find? hbuild htelling hplain hget captures
              (.inr ⟨hhead, rfl, hhead ▸ hfind⟩)
        | none =>
            have hnone := serving?_of_find?_eq_none hbuild hplain hget
            simp only [courseAt, target?, hserving, if_pos hhead, hnone]
      · rw [if_neg hhead]
        simp only [courseAt, target?, hserving, if_neg hhead]

/-! ### In tunnels -/

/-- Nobody serves a tunnel. -/
theorem serving?_connect (hbuild : (drafted settings derive routes).build configure = .ok router)
    (p : String) : router.serving? p "CONNECT" = none := by
  refine serving?_eq_none hbuild fun r _ => Bool.eq_false_iff.mpr fun hasks => ?_
  obtain ⟨-, m, -, hrequested⟩ := Route.asks_iff.mp hasks
  exact requested_ne_connect m hrequested

theorem courseAt_connect (hbuild : (drafted settings derive routes).build configure = .ok router)
    (p : String) (captures : List String) {request : Request}
    (hmethod : request.method = "CONNECT") :
    router.courseAt router.catalog.roster p captures request = .unserved := by
  simp only [courseAt, target?, hmethod, serving?_connect hbuild p]
  rfl

/-- A key that no route can have claimed is looked up in vain. -/
theorem pass_of_unlisted (hbuild : (drafted settings derive routes).build configure = .ok router)
    (htelling : Telling derive routes) (hi : routes[i]? = some r) (hm : m ∈ servable)
    (hunlisted : ∀ r' ∈ routes, r'.lists r.path m = false)
    (hregistration : (Catalog.Draft.run settings derive (routes.map Route.endpoint)).2[i]? =
      some registration) :
    (Lookup.of router.catalog.roster { method := m, path := r.path } (some registration)).Meets
      none := by
  have hunclaimed : router.catalog.roster.get? (Endpoint.key m r.path none) = none := by
    rw [roster_of_build hbuild]
    refine Catalog.Draft.get?_of_unclaimed settings fun e he hclaims => ?_
    obtain ⟨r', hr', rfl⟩ := List.mem_map.mp he
    obtain ⟨-, m', hm', hkey⟩ := (Endpoint.claims_iff derive).mp hclaims
    obtain ⟨rfl, hpath⟩ :=
      htelling r' hr' m' hm' r (List.mem_of_getElem? hi) m hm none (.inl rfl) hkey.symm
    exact Route.lists_eq_false_iff.mp (hunlisted r' hr') ⟨hpath, hm'⟩
  have hkeyFor : registration.keyFor m = none :=
    keyFor_eq_none (servable_of_build hbuild) hi hregistration hm
      (hunlisted r (List.mem_of_getElem? hi))
  unfold Lookup.of Lookup.key
  simp only [hkeyFor, Option.getD_none, hunclaimed]
  cases registration.rule with
  | none => exact ⟨_, rfl⟩
  | some rule =>
      simp only
      split
      · exact ⟨_, rfl⟩
      · split <;> exact ⟨_, rfl⟩

/-- Who asks for the options of a path at which a tunnel is listed gets into the tunnel. -/
theorem courseAt_options (hbuild : (drafted settings derive routes).build configure = .ok router)
    (htelling : Telling derive routes) (hfind : routes.find? (Route.lists p "CONNECT") = some r)
    (captures : List String) {request : Request} (hmethod : request.method = "OPTIONS") :
    router.courseAt router.catalog.roster p captures request =
      .handled r.handler { catalog := router.catalog, request, captures } := by
  obtain ⟨i, hi, hlists, hbefore⟩ := exists_first_of_find? hfind
  have hr : r ∈ routes := List.mem_of_getElem? hi
  have hunlisted : ∀ r' ∈ routes, r'.lists p "OPTIONS" = false := by
    refine fun r' hr' => Bool.eq_false_iff.mpr fun hlists' => ?_
    exact absurd (eq_of_lists hbuild hr hr' hlists hlists' rfl) (by decide)
  have hasks : ∀ r' ∈ routes, r'.asks p "OPTIONS" = r'.lists p "CONNECT" := by
    intro r' hr'
    rw [Bool.eq_iff_iff, Route.asks_iff, Route.lists_iff]
    refine and_congr_right fun hpath => ⟨?_, fun hm => ⟨"CONNECT", hm, rfl⟩⟩
    intro h
    obtain ⟨m', hm', hrequested⟩ := h
    by_cases hconnect : m' = "CONNECT"
    · exact hconnect ▸ hm'
    · rw [requested_eq_of_ne hconnect] at hrequested
      exact absurd ⟨hpath, hrequested ▸ hm'⟩ (Route.lists_eq_false_iff.mp (hunlisted r' hr'))
  obtain ⟨mount, hmount, hhandler, hregistration⟩ := exists_mount_of_first hbuild hi
    ((hasks r hr).trans hlists)
    fun r' hr' => (hasks r' (List.mem_of_mem_take hr')).trans (hbefore r' hr')
  have htarget : router.target? p request.method = some mount := by
    simp only [target?, hmethod, hmount]
  obtain ⟨rfl, -⟩ := Route.lists_iff.mp hlists
  have hmeets : (Lookup.of router.catalog.roster
      { method := Guard.effectiveMethod mount.registration request.method, path := r.path }
      (some mount.registration)).Meets none := by
    rw [hmethod]
    exact pass_of_unlisted (m := "OPTIONS") hbuild htelling hi (by decide) hunlisted hregistration
  rw [← hhandler]
  exact courseAt_of_meets htarget hmeets

end

/-! ### Enforcement from one end to the other -/

/--
**Requests are enforced exactly outside tunnels.**  In a router whose paths announce no
constraints, a request that is matched takes the course that is meant for it, with the check
that the first route to list its method demands and no other, unless a tunnel is listed at
the path and the request asks for one or for options.  Then nobody serves the tunnel, and
who asks for options is let into it without a check.  Refusals answer with 403 for a denial
and 500 for a fault, and who gets to a handler is answered by that handler.
-/
theorem course_eq_intended_iff (settings : Settings) (derive : Endpoint → Option Constraints)
    (routes : List Route) (configure : Checkpoint.Setup Request → Checkpoint.Setup Request)
    {router : Router} (hbuild : (drafted settings derive routes).build configure = .ok router)
    (hfree : ∀ r ∈ routes, ¬Endpoint.announcement <:+: r.path.toList)
    {request : Request} {path : String} {captures : List String}
    (hmatch : router.tree.find? request.path = some (path, captures)) :
    let visit : Visit := { catalog := router.catalog, request, captures }
    let course := router.course router.catalog.roster request
    (course = intended router.checkpoint routes path visit ↔
      ¬Tunnelled routes path request.method) ∧
    (Tunnelled routes path request.method → request.method = "CONNECT" → course = .unserved) ∧
    (Tunnelled routes path request.method → request.method = "OPTIONS" →
      ∃ r, routes.find? (Route.lists path "CONNECT") = some r ∧
        course = .handled r.handler visit) ∧
    (∀ message, course = .refused (.forbidden message) →
      (router.answer router.catalog.roster request).status = 403) ∧
    (∀ fault, course = .refused (.fault fault) →
      (router.answer router.catalog.roster request).status = 500) ∧
    ∀ handler visit', course = .handled handler visit' →
      router.respond router.catalog.roster request = sent request (handler visit') := by
  have htelling := telling_of_free derive (servable_of_build hbuild) hfree
  have hcourse : router.course router.catalog.roster request =
      router.courseAt router.catalog.roster path captures request := by
    simp only [course, hmatch]
  have hconnect : request.method = "CONNECT" →
      router.course router.catalog.roster request = .unserved :=
    fun hmethod => hcourse.trans (courseAt_connect hbuild path captures hmethod)
  have hlisted : Tunnelled routes path request.method →
      ∃ first, routes.find? (Route.lists path "CONNECT") = some first :=
    fun htunnel => Option.isSome_iff_exists.mp (List.find?_isSome.mpr htunnel.2)
  have hoptions : Tunnelled routes path request.method → request.method = "OPTIONS" →
      ∃ r, routes.find? (Route.lists path "CONNECT") = some r ∧
        router.course router.catalog.roster request =
          .handled r.handler { catalog := router.catalog, request, captures } := by
    intro htunnel hmethod
    obtain ⟨first, hfirst⟩ := hlisted htunnel
    exact ⟨first, hfirst, hcourse.trans (courseAt_options hbuild htelling hfirst captures hmethod)⟩
  refine ⟨⟨fun hintended htunnel => ?_, fun htunnel => ?_⟩, fun _ => hconnect, hoptions, ?_, ?_,
    fun _ _ => respond_of_handled⟩
  · rcases htunnel.1 with hmethod | hmethod
    · -- Some route lists the tunnel, so it is meant for somebody.
      obtain ⟨first, hfirst⟩ := hlisted htunnel
      rw [hconnect hmethod] at hintended
      simp only [intended, Route.meant?, hmethod, hfirst, Option.some_or] at hintended
      exact courseUnder_ne_unserved _ _ _ _ hintended.symm
    · obtain ⟨first, hfirst, hhandled⟩ := hoptions htunnel hmethod
      obtain ⟨-, r, hr, hlists⟩ := htunnel
      have hnone : routes.find? (Route.lists path "OPTIONS") = none := by
        refine List.find?_eq_none.mpr fun r' hr' hlists' => ?_
        exact absurd (eq_of_lists hbuild hr hr' hlists hlists' rfl) (by decide)
      rw [hhandled] at hintended
      simp [intended, Route.meant?, hmethod, hnone] at hintended
  · rw [hcourse]
    exact courseAt_eq_intended hbuild htelling captures htunnel
  · intro message hrefused
    simp only [answer, hrefused]
    rfl
  · intro fault hrefused
    simp only [answer, hrefused]
    rfl

/-- A report that only its readers may get. -/
def guarded : Route where
  path := "/report"
  methods := ["GET"]
  handler := fun _ => { status := 200, body := .text "guarded" }
  rule := some { resource := some "report", operations := some ["read"] }

/-- A request of somebody who holds nothing. -/
def bare (method target : String) : Request := { method, target, headers := [], body := "" }

/-- Where no tunnel is listed, who asks for the head of the report is checked as intended. -/
theorem head_of_report_enforced :
    ∃ router, (drafted {} (fun _ => none) [guarded]).build gated = .ok router ∧
      (∀ r ∈ [guarded], ¬Endpoint.announcement <:+: r.path.toList) ∧
      router.tree.find? (bare "HEAD" "/report").path = some ("/report", []) ∧
      router.course router.catalog.roster (bare "HEAD" "/report") =
        intended router.checkpoint [guarded] "/report"
          { catalog := router.catalog, request := bare "HEAD" "/report", captures := [] } := by
  have htest : ((drafted {} (fun _ => none) [guarded]).build gated).toOption.any
      (fun router =>
        router.tree.find? (bare "HEAD" "/report").path = some ("/report", [])) = true := by
    decide +kernel
  obtain ⟨router, hbuild, hfind⟩ := exists_built htest
  have hfree : ∀ r ∈ [guarded], ¬Endpoint.announcement <:+: r.path.toList := by decide +kernel
  exact ⟨router, hbuild, hfree, of_decide_eq_true hfind,
    (course_eq_intended_iff {} _ [guarded] gated hbuild hfree (of_decide_eq_true hfind)).1.mpr
      (by decide)⟩

/-- A tunnel that only those may get into who can open it. -/
def tunnel : Route where
  path := "/tunnel"
  methods := ["CONNECT"]
  handler := fun _ => { status := 200, body := .text "tunnelled" }
  rule := some { resource := some "tunnel", operations := some ["open"] }

/-- Who holds nothing gets into the tunnel by asking for options, which no route lists, and is told
so by the tunnel. -/
theorem options_open_tunnel :
    ∃ router, (drafted {} (fun _ => none) [tunnel]).build gated = .ok router ∧
      (∀ r ∈ [tunnel], ¬Endpoint.announcement <:+: r.path.toList) ∧
      router.tree.find? (bare "OPTIONS" "/tunnel").path = some ("/tunnel", []) ∧
      Route.meant? [tunnel] "/tunnel" "OPTIONS" = none ∧
      router.course router.catalog.roster (bare "OPTIONS" "/tunnel") =
        .handled tunnel.handler
          { catalog := router.catalog, request := bare "OPTIONS" "/tunnel", captures := [] } ∧
      router.respond router.catalog.roster (bare "OPTIONS" "/tunnel") =
        { status := 200, body := .text "tunnelled" } := by
  have htest : ((drafted {} (fun _ => none) [tunnel]).build gated).toOption.any
      (fun router =>
        router.tree.find? (bare "OPTIONS" "/tunnel").path = some ("/tunnel", [])) = true := by
    decide +kernel
  obtain ⟨router, hbuild, hfind⟩ := exists_built htest
  have hfree : ∀ r ∈ [tunnel], ¬Endpoint.announcement <:+: r.path.toList := by decide +kernel
  have htelling := telling_of_free (fun _ => none) (servable_of_build hbuild) hfree
  have hcourse : router.course router.catalog.roster (bare "OPTIONS" "/tunnel") =
      .handled tunnel.handler
        { catalog := router.catalog, request := bare "OPTIONS" "/tunnel", captures := [] } := by
    simp only [course, of_decide_eq_true hfind]
    exact courseAt_options hbuild htelling rfl [] rfl
  exact ⟨router, hbuild, hfree, of_decide_eq_true hfind, rfl, hcourse, respond_of_handled hcourse⟩

end Router

end Turnstile
