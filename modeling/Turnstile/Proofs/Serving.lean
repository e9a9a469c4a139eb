/-
Which route serves a request.

Adding routes keeps two books: which methods were listed at which path, and which routes
are mounted for which requests.  Once every listed method can be served, the first route
that asks for a request is the one that is mounted for it, whatever routes were added in
between, and `source?_routeAll` says so for a whole run of additions.  In a built router every
listed method can be served, since the first that cannot is found out in the order of the
listings (`unsupported_drafted`).
-/
import Turnstile.Router
import Turnstile.Proofs.Registration

namespace Turnstile

open Http

/-- A route as it is added to a router. -/
structure Route where
  path : String
  methods : List String
  handler : Handler
  rule : Option Rule

namespace Route

/-- What the route declares to the catalog. -/
def endpoint (r : Route) : Endpoint := { methods := r.methods, path := r.path, rule := r.rule }

/-- Whether the route lists a method at a path. -/
def lists (path method : String) (r : Route) : Bool := r.path = path && r.methods.contains method

/-- Whether the route asks for the requests of a method at a path. -/
def asks (path method : String) (r : Route) : Bool :=
  r.path = path && (r.methods.map Router.requested).contains method

theorem lists_iff {path method : String} {r : Route} :
    r.lists path method = true ↔ r.path = path ∧ method ∈ r.methods := by
  simp [lists]

theorem lists_eq_false_iff {path method : String} {r : Route} :
    r.lists path method = false ↔ ¬(r.path = path ∧ method ∈ r.methods) := by
  rw [← lists_iff, Bool.not_eq_true]

theorem asks_iff {path method : String} {r : Route} :
    r.asks path method = true ↔ r.path = path ∧ ∃ m ∈ r.methods, Router.requested m = method := by
  simp [asks]

end Route

namespace Router

/-- Whether a mount serves the requests of a method at a path. -/
def serves (path method : String) (mount : Mount) : Bool :=
  mount.path = path && mount.methods.contains method

theorem serves_iff {path method : String} {mount : Mount} :
    serves path method mount = true ↔ mount.path = path ∧ method ∈ mount.methods := by
  simp [serves]

/-! ### What routes list -/

/-- What some routes list, in order: each method with the path that it is listed at. -/
def listings (routes : List Route) : List (String × String) :=
  routes.flatMap fun r => r.methods.map fun m => (r.path, m)

section

variable {routes : List Route} {p m : String}

theorem listings_concat (routes : List Route) (r : Route) :
    listings (routes ++ [r]) = listings routes ++ r.methods.map fun m => (r.path, m) := by
  simp [listings]

theorem mem_listings_iff : (p, m) ∈ listings routes ↔ ∃ r ∈ routes, r.lists p m = true := by
  simp only [listings, List.mem_flatMap, List.mem_map, Prod.mk.injEq, Route.lists_iff]
  refine exists_congr fun r => and_congr_right fun _ => ⟨?_, fun h => ⟨m, h.2, h.1, rfl⟩⟩
  intro h
  obtain ⟨_, hm, hpath, rfl⟩ := h
  exact ⟨hpath, hm⟩

theorem notMem_listings_iff :
    (p, m) ∉ listings routes ↔ ∀ r ∈ routes, r.lists p m = false := by
  rw [mem_listings_iff]
  simp

end

namespace Draft

/-- The router with one more route. -/
def add (d : Draft) (r : Route) : Draft := d.route r.path r.methods r.handler r.rule

/-- The router with routes added in order. -/
def routeAll (d : Draft) (routes : List Route) : Draft := routes.foldl add d

/-! ### Claiming methods -/

theorem mem_served_claims (path : String) :
    ∀ (methods : List String) (c : Claims) (p m : String),
      (p, m) ∈ (methods.foldl (claim path) c).served ↔
        (p, m) ∈ c.served ∨ p = path ∧ m ∈ methods := by
  intro methods
  induction methods with
  | nil => intro c p m; simp
  | cons first rest ih =>
      intro c p m
      have hstep : (p, m) ∈ (claim path c first).served ↔
          (p, m) ∈ c.served ∨ p = path ∧ m = first := by
        unfold claim
        by_cases hserved : (path, first) ∈ c.served
        · rw [if_pos hserved]
          refine ⟨.inl, ?_⟩
          intro h
          rcases h with h | ⟨rfl, rfl⟩
          · exact h
          · exact hserved
        · rw [if_neg hserved]
          by_cases hservable : first ∈ servable <;> simp [hservable, or_comm]
      rw [List.foldl_cons, ih, hstep, List.mem_cons, or_assoc, ← and_or_left]

/-- The methods that are left are those that are new and can be served, each once. -/
theorem methods_claims_eq (path : String) :
    ∀ (methods : List String) (c : Claims),
      (methods.foldl (claim path) c).methods =
        c.methods ++ distinct (methods.filter fun m => m ∈ servable ∧ (path, m) ∉ c.served) := by
  intro methods
  induction methods with
  | nil => intro c; exact (List.append_nil _).symm
  | cons first rest ih =>
      intro c
      rw [List.foldl_cons, ih]
      unfold claim
      by_cases hserved : (path, first) ∈ c.served
      · rw [if_pos hserved, List.filter_cons_of_neg (by simp [hserved])]
      · rw [if_neg hserved]
        by_cases hservable : first ∈ servable
        · rw [if_pos hservable, List.filter_cons_of_pos (by simp [hserved, hservable]),
            List.append_assoc, ← List.singleton_append (l := rest.filter _),
            distinct_append [first], List.filter_filter]
          congr 3
          refine List.filter_congr fun m _ => ?_
          simp only [List.mem_cons, Prod.mk.injEq, true_and, List.not_mem_nil, or_false]
          by_cases hm : m = first <;> simp [hm]
        · rw [if_neg hservable, List.filter_cons_of_neg (by simp [hservable])]
          congr 2
          refine List.filter_congr fun m _ => ?_
          by_cases hm : m = first <;> simp [hm, hservable]

/-- What was claimed and cannot be served was found out. -/
def Claims.Accounted (c : Claims) : Prop :=
  ∀ p m, (p, m) ∈ c.served → m ∈ servable ∨ c.unsupported.isSome

theorem accounted_claim {path : String} {c : Claims} (h : c.Accounted) (method : String) :
    (claim path c method).Accounted := by
  unfold claim
  by_cases hserved : (path, method) ∈ c.served
  · rwa [if_pos hserved]
  · rw [if_neg hserved]
    by_cases hservable : method ∈ servable
    · rw [if_pos hservable]
      intro p m hm
      rcases List.mem_cons.mp hm with heq | hm
      · exact .inl ((Prod.mk.inj heq).2 ▸ hservable)
      · exact h p m hm
    · rw [if_neg hservable]
      exact fun p m _ => .inr (by simp)

/-- One claim finds out its method where nothing was found out before. -/
theorem unsupported_claim {path : String} {c : Claims} (h : c.Accounted) (method : String) :
    (claim path c method).unsupported =
      c.unsupported.or (if method ∈ servable then none else some (path, method)) := by
  unfold claim
  by_cases hserved : (path, method) ∈ c.served
  · rw [if_pos hserved]
    rcases h path method hserved with hservable | hsome
    · rw [if_pos hservable, Option.or_none]
    · obtain ⟨found, hfound⟩ := Option.isSome_iff_exists.mp hsome
      rw [hfound, Option.some_or]
  · rw [if_neg hserved]
    by_cases hservable : method ∈ servable
    · rw [if_pos hservable, if_pos hservable, Option.or_none]
    · rw [if_neg hservable, if_neg hservable]

theorem accounted_claims (path : String) :
    ∀ (methods : List String) {c : Claims}, c.Accounted →
      (methods.foldl (claim path) c).Accounted := by
  intro methods
  induction methods with
  | nil => intro c h; exact h
  | cons first rest ih => intro c h; exact ih (accounted_claim h first)

/-- The first method that cannot be served is found out. -/
theorem unsupported_claims_eq (path : String) :
    ∀ (methods : List String) {c : Claims}, c.Accounted →
      (methods.foldl (claim path) c).unsupported =
        c.unsupported.or ((methods.map fun m => (path, m)).find? (·.2 ∉ servable)) := by
  intro methods
  induction methods with
  | nil => intro c _; exact Option.or_none.symm
  | cons first rest ih =>
      intro c h
      rw [List.foldl_cons, ih (accounted_claim h first), unsupported_claim h, List.map_cons,
        Option.or_assoc]
      congr 1
      by_cases hservable : first ∈ servable
      · rw [if_pos hservable, List.find?_cons_of_neg (by simpa using hservable), Option.none_or]
      · rw [if_neg hservable, List.find?_cons_of_pos (by simpa using hservable), Option.some_or]

/-! ### Adding one route -/

/-- The methods that are left to a route. -/
def fresh (d : Draft) (r : Route) : List String :=
  (r.methods.foldl (claim r.path)
    { served := d.served, unsupported := d.unsupported, methods := [] }).methods

/-- What a route is mounted as, if anything is left to it. -/
def mounted (d : Draft) (r : Route) : List Mount :=
  match (d.fresh r).map requested with
  | [] => []
  | methods =>
    [{ path := r.path, methods, registration := (d.catalog.register r.endpoint).2
       handler := r.handler }]

variable (d : Draft) (r : Route)

theorem mounts_add : (d.add r).mounts = d.mounts ++ d.mounted r := by
  show (match (d.fresh r).map requested with
    | [] => d.mounts
    | methods => d.mounts ++ [{ path := r.path, methods
                                registration := (d.catalog.register r.endpoint).2
                                handler := r.handler }]) = d.mounts ++ d.mounted r
  unfold mounted
  cases (d.fresh r).map requested with
  | nil => exact (List.append_nil _).symm
  | cons => rfl

theorem collided_add :
    (d.add r).collided = (d.collided || !decide ((d.fresh r).map requested).Nodup) := rfl

theorem mem_served_add (p m : String) :
    (p, m) ∈ (d.add r).served ↔ (p, m) ∈ d.served ∨ r.lists p m = true := by
  show (p, m) ∈ (r.methods.foldl (claim r.path) _).served ↔ _
  rw [mem_served_claims, Route.lists_iff, eq_comm (a := p)]

theorem mem_fresh (m : String) :
    m ∈ d.fresh r ↔ m ∈ r.methods ∧ (r.path, m) ∉ d.served ∧ m ∈ servable := by
  rw [fresh, methods_claims_eq, List.nil_append, mem_distinct, List.mem_filter,
    decide_eq_true_iff, and_comm (a := m ∈ servable)]

/-- The guard and the handler that the requests of a method at a path go to. -/
def source? (d : Draft) (path method : String) : Option (Registration × Handler) :=
  (d.mounts.find? (serves path method)).map fun mount => (mount.registration, mount.handler)

theorem source?_mounted (p m : String) :
    ((d.mounted r).find? (serves p m)).map (fun mount => (mount.registration, mount.handler)) =
      if r.path = p ∧ m ∈ (d.fresh r).map requested then
        some ((d.catalog.register r.endpoint).2, r.handler)
      else none := by
  unfold mounted
  cases (d.fresh r).map requested with
  | nil => simp
  | cons first rest =>
      by_cases h : r.path = p ∧ m ∈ first :: rest
      · rw [if_pos h, List.find?_cons_of_pos (serves_iff.mpr h)]
        rfl
      · rw [if_neg h, List.find?_cons_of_neg (mt serves_iff.mp h)]
        rfl

/-- Every listed method was given to a route. -/
def Kept (d : Draft) : Prop :=
  ∀ p m, (p, m) ∈ d.served → (d.source? p (requested m)).isSome

variable {d r}

/-- A further route gets the requests that it asks for and that go nowhere yet. -/
theorem source?_add (hkept : d.Kept) (hservable : ∀ m ∈ r.methods, m ∈ servable)
    (p m : String) :
    (d.add r).source? p m = (d.source? p m).or
      (if r.asks p m then some ((d.catalog.register r.endpoint).2, r.handler) else none) := by
  rw [source?, mounts_add, List.find?_append, Option.map_or, source?_mounted]
  cases hsource : d.source? p m with
  | some source =>
      rw [source?] at hsource
      rw [hsource]
      rfl
  | none =>
      rw [source?] at hsource
      rw [hsource, Option.none_or, Option.none_or]
      refine if_congr ?_ rfl rfl
      rw [Route.asks_iff, List.mem_map]
      refine and_congr_right fun hpath => ⟨?_, ?_⟩
      · intro h
        obtain ⟨m', hm', rfl⟩ := h
        exact ⟨m', ((mem_fresh d r m').mp hm').1, rfl⟩
      · intro h
        obtain ⟨m', hm', rfl⟩ := h
        refine ⟨m', (mem_fresh d r m').mpr ⟨hm', fun hserved => ?_, hservable m' hm'⟩, rfl⟩
        have hsome := hkept r.path m' hserved
        rw [hpath, source?, hsource] at hsome
        exact Bool.noConfusion hsome

theorem kept_add (hkept : d.Kept) (hservable : ∀ m ∈ r.methods, m ∈ servable) :
    (d.add r).Kept := by
  intro p m hserved
  rw [source?_add hkept hservable, Option.isSome_or]
  rcases (mem_served_add d r p m).mp hserved with h | h
  · rw [hkept p m h, Bool.true_or]
  · obtain ⟨hpath, hm⟩ := Route.lists_iff.mp h
    rw [if_pos (Route.asks_iff.mpr ⟨hpath, m, hm, rfl⟩), Option.isSome_some, Bool.or_true]

/-! ### Adding routes one after the other -/

theorem catalog_routeAll :
    ∀ (rs : List Route) (d : Draft),
      (d.routeAll rs).catalog = (d.catalog.registerAll (rs.map Route.endpoint)).1 := by
  intro rs
  induction rs with
  | nil => intro d; rfl
  | cons r rest ih => intro d; exact ih (d.add r)

theorem mem_served_routeAll :
    ∀ (rs : List Route) (d : Draft) (p m : String),
      (p, m) ∈ (d.routeAll rs).served ↔ (p, m) ∈ d.served ∨ ∃ r ∈ rs, r.lists p m = true := by
  intro rs
  induction rs with
  | nil => intro d p m; simp [routeAll]
  | cons r rest ih =>
      intro d p m
      refine (ih (d.add r) p m).trans ?_
      rw [mem_served_add, or_assoc, List.exists_mem_cons_iff]

/-- **The first route that asks for a request gets it.** -/
theorem source?_routeAll :
    ∀ (rs : List Route) {d : Draft}, d.Kept → (∀ r ∈ rs, ∀ m ∈ r.methods, m ∈ servable) →
      ∀ p m, (d.routeAll rs).source? p m = (d.source? p m).or
        (((rs.zip (d.catalog.registerAll (rs.map Route.endpoint)).2).find?
          fun added => added.1.asks p m).map fun added => (added.2, added.1.handler)) := by
  intro rs
  induction rs with
  | nil => intro d _ _ p m; simp [routeAll]
  | cons r rest ih =>
      intro d hkept hservable p m
      obtain ⟨hr, hrest⟩ := List.forall_mem_cons.mp hservable
      refine (ih (kept_add hkept hr) hrest p m).trans ?_
      rw [source?_add hkept hr, Option.or_assoc]
      congr 1
      show _ = (((r, (d.catalog.register r.endpoint).2) :: rest.zip _).find? _).map _
      rw [List.find?_cons]
      cases r.asks p m <;> rfl

end Draft

/-! ### A built router -/

theorem requested_eq_of_ne {m : String} (h : m ≠ "CONNECT") : requested m = m := if_neg h

theorem requested_ne_connect (m : String) : requested m ≠ "CONNECT" := by
  unfold requested
  split
  · decide
  · assumption

/-- What building keeps, and what it has checked. -/
theorem build_eq_ok {d : Draft} {configure : Checkpoint.Setup Request → Checkpoint.Setup Request}
    {router : Router} (h : d.build configure = .ok router) :
    d.collided = false ∧ d.unsupported = none ∧ overlapping d.mounts = false ∧
      router.catalog = d.catalog.finalize ∧ router.mounts = d.mounts := by
  unfold Draft.build at h
  split at h
  · cases h
  · next hcollided =>
    split at h
    · cases h
    · next hunsupported =>
      split at h
      · cases h
      · split at h
        · next htree =>
          cases h
          refine ⟨by simpa using hcollided, hunsupported, ?_, rfl, rfl⟩
          rw [tree?, Option.ite_none_left_eq_some] at htree
          simpa using htree.1
        · cases h

/-- The checkpoint in use is the one that was set up. -/
theorem checkpoint_of_build {d : Draft}
    {configure : Checkpoint.Setup Request → Checkpoint.Setup Request} {router : Router}
    (h : d.build configure = .ok router) : (configure {}).build = .ok router.checkpoint := by
  unfold Draft.build at h
  split at h
  · cases h
  · split at h
    · cases h
    · split at h
      · cases h
      · next hsetup =>
        split at h
        · cases h
          exact hsetup
        · cases h

/-- A router that passes a test was built. -/
theorem exists_built {d : Draft} {configure : Checkpoint.Setup Request → Checkpoint.Setup Request}
    {q : Router → Bool} (h : (d.build configure).toOption.any q = true) :
    ∃ router, d.build configure = .ok router ∧ q router = true := by
  cases hbuild : d.build configure with
  | error defect =>
      rw [hbuild] at h
      exact Bool.noConfusion h
  | ok router =>
      rw [hbuild] at h
      exact ⟨router, rfl, h⟩

/-- The first of some routes is found in step with what stands beside it. -/
theorem find?_zip {β : Type} (q : Route → Bool) :
    ∀ (routes : List Route) (others : List β) {i : Nat} {r : Route}, routes[i]? = some r →
      q r = true → (∀ r' ∈ routes.take i, q r' = false) → others.length = routes.length →
      ∃ other, others[i]? = some other ∧
        ((routes.zip others).find? fun pair => q pair.1) = some (r, other) := by
  intro routes
  induction routes with
  | nil => intro others i r hi; simp at hi
  | cons first rest ih =>
      intro others i r hi hq hbefore hlength
      obtain ⟨other, others, rfl⟩ := List.exists_cons_of_length_eq_add_one hlength
      cases i with
      | zero =>
          obtain rfl : first = r := by simpa using hi
          exact ⟨other, rfl, List.find?_cons_of_pos hq⟩
      | succ i =>
          obtain ⟨hfirst, hlater⟩ := List.forall_mem_cons.mp hbefore
          obtain ⟨found, hfound, hfind⟩ :=
            ih others (by simpa using hi) hq hlater (by simpa using hlength)
          refine ⟨found, by simpa using hfound, ?_⟩
          rw [List.zip_cons_cons, List.find?_cons_of_neg (by simp [hfirst]), hfind]

/-- The routes as they were registered, in order. -/
def registered (settings : Settings) (derive : Endpoint → Option Constraints)
    (routes : List Route) : List (Route × Registration) :=
  routes.zip (Catalog.Draft.run settings derive (routes.map Route.endpoint)).2

/-- The router with all routes added, before it is built. -/
def drafted (settings : Settings) (derive : Endpoint → Option Constraints)
    (routes : List Route) : Draft :=
  ((Draft.new settings).withDeriver derive).routeAll routes

section

variable (settings : Settings) (derive : Endpoint → Option Constraints) (routes : List Route)
  (r : Route)

theorem drafted_concat :
    drafted settings derive (routes ++ [r]) = (drafted settings derive routes).add r := by
  rw [drafted, Draft.routeAll, List.foldl_append]
  rfl

theorem mem_served_drafted (p m : String) :
    (p, m) ∈ (drafted settings derive routes).served ↔ (p, m) ∈ listings routes := by
  rw [drafted, Draft.mem_served_routeAll, mem_listings_iff]
  simp [Draft.withDeriver, Draft.new]

theorem accounted_drafted :
    Draft.Claims.Accounted
      { served := (drafted settings derive routes).served
        unsupported := (drafted settings derive routes).unsupported
        methods := [] } := by
  induction routes using List.reverseRecOn with
  | nil => exact fun p m h => absurd h List.not_mem_nil
  | append_singleton routes r ih =>
      rw [drafted_concat]
      exact Draft.accounted_claims r.path r.methods ih

/-- What is found out is the first listing of a method that cannot be served. -/
theorem unsupported_drafted :
    (drafted settings derive routes).unsupported = (listings routes).find? (·.2 ∉ servable) := by
  induction routes using List.reverseRecOn with
  | nil => rfl
  | append_singleton routes r ih =>
      rw [drafted_concat, listings_concat, List.find?_append, ← ih]
      exact Draft.unsupported_claims_eq r.path r.methods (accounted_drafted settings derive routes)

end

section

variable {settings : Settings} {derive : Endpoint → Option Constraints} {routes : List Route}
  {configure : Checkpoint.Setup Request → Checkpoint.Setup Request} {router : Router}

theorem kept_new : ((Draft.new settings).withDeriver derive).Kept := by
  intro p m h
  simp [Draft.withDeriver, Draft.new] at h

theorem servable_of_build (h : (drafted settings derive routes).build configure = .ok router) :
    ∀ r ∈ routes, ∀ m ∈ r.methods, m ∈ servable := by
  obtain ⟨-, hunsupported, -⟩ := build_eq_ok h
  rw [unsupported_drafted, List.find?_eq_none] at hunsupported
  intro r hr m hm
  have hlisted : (r.path, m) ∈ listings routes :=
    mem_listings_iff.mpr ⟨r, hr, Route.lists_iff.mpr ⟨rfl, hm⟩⟩
  simpa using hunsupported _ hlisted

/-- The roster of a router is what its routes claimed. -/
theorem roster_of_build (h : (drafted settings derive routes).build configure = .ok router) :
    router.catalog.roster =
      (Catalog.Draft.run settings derive (routes.map Route.endpoint)).1.roster := by
  obtain ⟨-, -, -, hcatalog, -⟩ := build_eq_ok h
  rw [hcatalog, drafted, Catalog.Draft.finalize, Draft.catalog_routeAll]
  rfl

/-- **A request goes to the first route that asks for it.** -/
theorem serving?_of_build (h : (drafted settings derive routes).build configure = .ok router)
    (p m : String) :
    (router.serving? p m).map (fun mount => (mount.registration, mount.handler)) =
      ((registered settings derive routes).find? fun added => added.1.asks p m).map
        fun added => (added.2, added.1.handler) := by
  obtain ⟨-, -, -, -, hmounts⟩ := build_eq_ok h
  have hsource : (drafted settings derive routes).source? p m = _ :=
    Draft.source?_routeAll routes kept_new (servable_of_build h) p m
  rw [Draft.source?, ← hmounts] at hsource
  exact hsource

/-- A route that asks for a request, and none before it does, is mounted for it. -/
theorem exists_mount_of_first (h : (drafted settings derive routes).build configure = .ok router)
    {i : Nat} {r : Route} {p m : String} (hi : routes[i]? = some r) (hasks : r.asks p m = true)
    (hbefore : ∀ r' ∈ routes.take i, r'.asks p m = false) :
    ∃ mount, router.serving? p m = some mount ∧ mount.handler = r.handler ∧
      (Catalog.Draft.run settings derive (routes.map Route.endpoint)).2[i]? =
        some mount.registration := by
  obtain ⟨registration, hregistration, hfind⟩ := find?_zip _ routes
    (Catalog.Draft.run settings derive (routes.map Route.endpoint)).2 hi hasks hbefore
    (by rw [Catalog.Draft.run, Catalog.Draft.length_registerAll, List.length_map])
  have hserving := serving?_of_build h p m
  rw [registered, hfind] at hserving
  obtain ⟨mount, hmount, hsource⟩ := Option.map_eq_some_iff.mp hserving
  obtain ⟨rfl, hhandler⟩ := Prod.mk.inj hsource
  exact ⟨mount, hmount, hhandler, hregistration⟩

/-- Where no route asks for a request, nobody serves it. -/
theorem serving?_eq_none (h : (drafted settings derive routes).build configure = .ok router)
    {p m : String} (hnone : ∀ r ∈ routes, r.asks p m = false) : router.serving? p m = none := by
  have hfind : ((registered settings derive routes).find? fun added => added.1.asks p m) =
      none := by
    refine List.find?_eq_none.mpr fun added hadded => ?_
    rw [hnone added.1 (List.of_mem_zip hadded).1]
    exact Bool.false_ne_true
  have hserving := serving?_of_build h p m
  rw [hfind] at hserving
  exact Option.map_eq_none_iff.mp hserving

end

end Router

end Turnstile
