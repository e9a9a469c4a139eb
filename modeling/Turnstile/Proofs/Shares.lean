/-
What is left to each route.

Routes list methods at paths, and a route is left with those that can be served and that no route
before it listed at its path: its share.  The shares at a path, one after the other, are all that
was listed there and can be served, each method once, where it was listed first
(`flatMap_shares`).  So the shares at a path have no method in common and leave none out, and the
first method that cannot be served is found in the order of the listings, whoever listed it.

What a share is good for is another matter, because a route is mounted for the requests that its
methods stand for.  A tunnel stands for requests for options.  Where both are listed at one path the
mounts there serve the same requests twice, be it that one route lists both or that two do, and this
is the only way (`together_iff`).  So in a built router methods that are listed at one path and
stand for the same requests are the same (`eq_of_lists`).
-/
import Turnstile.Proofs.Building

namespace Turnstile

open Http

namespace Router

/-! ### What is offered at a path, and what is left of it -/

/-- The methods listed at a path that can be served, in order. -/
def offered (routes : List Route) (path : String) : List String :=
  ((listings routes).filter fun listing => listing.1 = path ∧ listing.2 ∈ servable).map (·.2)

/-- What is left to a route behind others: the methods that it lists, that can be served and that
none of the others lists at its path, each once. -/
def share (before : List Route) (r : Route) : List String :=
  distinct (r.methods.filter fun m => m ∈ servable ∧ ∀ r' ∈ before, r'.lists r.path m = false)

section

variable {routes before : List Route} {r : Route} {p m : String}

theorem mem_offered_iff :
    m ∈ offered routes p ↔ m ∈ servable ∧ ∃ r ∈ routes, r.lists p m = true := by
  rw [← mem_listings_iff, offered, List.mem_map]
  constructor
  · intro h
    obtain ⟨⟨p', m'⟩, hmem, rfl⟩ := h
    obtain ⟨hlisted, hpath, hservable⟩ := by simpa using hmem
    exact ⟨hservable, hpath ▸ hlisted⟩
  · intro h
    exact ⟨(p, m), by simp [h.1, h.2], rfl⟩

theorem offered_concat (routes : List Route) (r : Route) (p : String) :
    offered (routes ++ [r]) p =
      offered routes p ++ if r.path = p then r.methods.filter (· ∈ servable) else [] := by
  rw [offered, listings_concat, List.filter_append, List.map_append, offered, List.filter_map,
    List.map_map]
  congr 1
  by_cases hpath : r.path = p
  · simp [hpath, Function.comp_def]
  · simp [hpath, Function.comp_def]

theorem mem_share_iff :
    m ∈ share before r ↔
      m ∈ r.methods ∧ m ∈ servable ∧ ∀ r' ∈ before, r'.lists r.path m = false := by
  rw [share, mem_distinct, List.mem_filter, decide_eq_true_iff]

theorem nodup_share (before : List Route) (r : Route) : (share before r).Nodup := nodup_distinct _

/-- A further route adds its share to what is offered at its path. -/
theorem distinct_offered_concat (routes : List Route) (r : Route) (p : String) :
    distinct (offered (routes ++ [r]) p) =
      distinct (offered routes p) ++ if r.path = p then share routes r else [] := by
  rw [offered_concat, distinct_append]
  by_cases hpath : r.path = p
  · rw [if_pos hpath, if_pos hpath, share, List.filter_filter]
    congr 2
    refine List.filter_congr fun m _ => ?_
    rw [← Bool.decide_and, decide_eq_decide, mem_offered_iff, hpath, ← notMem_listings_iff,
      mem_listings_iff, and_comm]
    exact and_congr_right fun hservable => not_congr (and_iff_right hservable)
  · rw [if_neg hpath, if_neg hpath]
    rfl

end

/-! ### Shares -/

/-- A route with what is left to it. -/
structure Share where
  place : Nat
  route : Route
  methods : List String

/-- The shares of the routes that something is left to, in order. -/
def shares (routes : List Route) : List Share :=
  (routes.zipIdx.map fun (r, i) =>
    { place := i, route := r, methods := share (routes.take i) r : Share }).filter
      fun s => s.methods ≠ []

section

variable {routes : List Route} {r : Route} {p m : String} {s : Share}

theorem shares_concat (routes : List Route) (r : Route) :
    shares (routes ++ [r]) = shares routes ++
      if share routes r = [] then []
      else [{ place := routes.length, route := r, methods := share routes r }] := by
  have htake : ∀ x ∈ routes.zipIdx, (routes ++ [r]).take x.2 = routes.take x.2 := by
    intro x hx
    obtain ⟨hlt, -⟩ := List.getElem?_eq_some_iff.mp (List.mem_zipIdx_iff_getElem?.mp hx)
    exact List.take_append_of_le_length hlt.le
  rw [shares, List.zipIdx_append, List.map_append, List.filter_append, shares]
  congr 1
  · congr 1
    exact List.map_congr_left fun x hx => by simp only [htake x hx]
  · by_cases hempty : share routes r = [] <;> simp [hempty]

theorem mem_shares_iff :
    s ∈ shares routes ↔ routes[s.place]? = some s.route ∧
      s.methods = share (routes.take s.place) s.route ∧ s.methods ≠ [] := by
  simp only [shares, List.mem_filter, List.mem_map, decide_eq_true_iff]
  constructor
  · intro h
    obtain ⟨⟨⟨r, i⟩, hmem, rfl⟩, hne⟩ := h
    exact ⟨List.mem_zipIdx_iff_getElem?.mp hmem, rfl, hne⟩
  · intro h
    obtain ⟨hplace, hmethods, hne⟩ := h
    obtain ⟨i, r, methods⟩ := s
    obtain rfl : methods = share (routes.take i) r := hmethods
    exact ⟨⟨(r, i), List.mem_zipIdx_iff_getElem?.mpr hplace, rfl⟩, hne⟩

/-- **The shares at a path are what is offered there, each method once.** -/
theorem flatMap_shares (routes : List Route) (p : String) :
    ((shares routes).filter (·.route.path = p)).flatMap (·.methods) =
      distinct (offered routes p) := by
  induction routes using List.reverseRecOn with
  | nil => rfl
  | append_singleton routes r ih =>
      rw [shares_concat, distinct_offered_concat, List.filter_append, List.flatMap_append, ih]
      congr 1
      by_cases hempty : share routes r = [] <;> by_cases hpath : r.path = p <;>
        simp [hempty, hpath]

/-- A method is in the share of the first route that lists it. -/
theorem mem_share_at_iff {i : Nat} :
    (∃ s ∈ shares routes, s.place = i ∧ s.route.path = p ∧ m ∈ s.methods) ↔
      m ∈ servable ∧ routes.findIdx? (Route.lists p m) = some i := by
  rw [List.findIdx?_eq_some_iff_getElem]
  constructor
  · intro h
    obtain ⟨s, hs, rfl, rfl, hm⟩ := h
    obtain ⟨hplace, hmethods, -⟩ := mem_shares_iff.mp hs
    obtain ⟨hlt, hroute⟩ := List.getElem?_eq_some_iff.mp hplace
    rw [hmethods] at hm
    obtain ⟨hlisted, hservable, hbefore⟩ := mem_share_iff.mp hm
    refine ⟨hservable, hlt, Route.lists_iff.mpr ⟨by rw [hroute], by rwa [hroute]⟩, fun j hj => ?_⟩
    rw [hbefore routes[j] (List.mem_take_iff_getElem.mpr ⟨j, by omega, rfl⟩)]
    exact Bool.false_ne_true
  · intro h
    obtain ⟨hservable, hlt, hlists, hbefore⟩ := h
    obtain ⟨rfl, hm⟩ := Route.lists_iff.mp hlists
    have hmem : m ∈ share (routes.take i) routes[i] := by
      refine mem_share_iff.mpr ⟨hm, hservable, fun r' hr' => ?_⟩
      obtain ⟨j, hj, rfl⟩ := List.mem_take_iff_getElem.mp hr'
      exact Bool.not_eq_true _ ▸ hbefore j (by omega)
    exact ⟨{ place := i, route := routes[i], methods := share (routes.take i) routes[i] },
      mem_shares_iff.mpr ⟨List.getElem?_eq_getElem hlt, rfl, List.ne_nil_of_mem hmem⟩,
      rfl, rfl, hmem⟩

end

/-! ### How shares are mounted -/

section

variable (settings : Settings) (derive : Endpoint → Option Constraints) (routes : List Route)
  (r : Route)

theorem fresh_drafted : (drafted settings derive routes).fresh r = share routes r := by
  rw [Draft.fresh, Draft.methods_claims_eq, share, List.nil_append]
  congr 1
  refine List.filter_congr fun m _ => ?_
  rw [decide_eq_decide, mem_served_drafted, notMem_listings_iff]

/-- How the route of a share is mounted: for the requests that its methods stand for, with the
route's own registration and handler. -/
structure Share.MountedAs (registrations : List Registration) (s : Share) (mount : Mount) :
    Prop where
  path : mount.path = s.route.path
  methods : mount.methods = s.methods.map requested
  registration : registrations[s.place]? = some mount.registration
  handler : mount.handler = s.route.handler

/-- A further route is registered behind the others. -/
theorem registrations_concat :
    (Catalog.Draft.run settings derive ((routes ++ [r]).map Route.endpoint)).2 =
      (Catalog.Draft.run settings derive (routes.map Route.endpoint)).2 ++
        [((drafted settings derive routes).catalog.register r.endpoint).2] := by
  rw [Catalog.Draft.run, List.map_append, Catalog.Draft.registrations_append, drafted,
    Draft.catalog_routeAll]
  rfl

/-- **The mounts are the shares, one for one.** -/
theorem forall₂_mounted :
    List.Forall₂
      (Share.MountedAs (Catalog.Draft.run settings derive (routes.map Route.endpoint)).2)
      (shares routes) (drafted settings derive routes).mounts := by
  induction routes using List.reverseRecOn with
  | nil => exact .nil
  | append_singleton routes r ih =>
      have hlength : (Catalog.Draft.run settings derive (routes.map Route.endpoint)).2.length =
          routes.length := by
        rw [Catalog.Draft.run, Catalog.Draft.length_registerAll, List.length_map]
      rw [drafted_concat, Draft.mounts_add, shares_concat, registrations_concat]
      refine List.rel_append (ih.imp fun s mount h => ?_) ?_
      · obtain ⟨hlt, -⟩ := List.getElem?_eq_some_iff.mp h.registration
        exact { h with registration := (List.getElem?_append_left hlt).trans h.registration }
      · unfold Draft.mounted
        rw [fresh_drafted]
        cases hshare : share routes r with
        | nil => exact .nil
        | cons first rest =>
            refine .cons ⟨rfl, rfl, ?_, rfl⟩ .nil
            simp [← hlength]

/-- The requests that the route of a share is mounted for. -/
def Share.requests (s : Share) : String × List String := (s.route.path, s.methods.map requested)

theorem map_requests_drafted :
    (drafted settings derive routes).mounts.map Mount.requests =
      (shares routes).map Share.requests := by
  rw [← List.forall₂_eq_eq_eq, List.forall₂_map_left_iff, List.forall₂_map_right_iff]
  refine (forall₂_mounted settings derive routes).flip.imp fun mount s h => ?_
  exact Prod.ext h.path h.methods

end

/-! ### Requests that are served twice -/

/-- Nothing is twice under a label exactly when nothing is twice in one list and no two lists under
one label have anything in common. -/
theorem nodup_labelled_iff {κ β : Type} [DecidableEq κ] (lists : List (κ × List β)) :
    (∀ k, ((lists.filter (·.1 = k)).flatMap (·.2)).Nodup) ↔
      (∀ a ∈ lists, a.2.Nodup) ∧ lists.Pairwise fun a b => a.1 = b.1 → a.2.Disjoint b.2 := by
  simp only [List.nodup_flatMap, List.pairwise_filter, List.mem_filter, decide_eq_true_iff]
  constructor
  · intro h
    refine ⟨fun a ha => (h a.1).1 a ⟨ha, rfl⟩, List.pairwise_iff_getElem.mpr ?_⟩
    intro i j hi hj hij hsame
    exact List.pairwise_iff_getElem.mp (h lists[i].1).2 i j hi hj hij rfl hsame.symm
  · intro h k
    exact ⟨fun a ha => h.1 a ha.1, h.2.imp fun hdisjoint ha hb => hdisjoint (ha.trans hb.symm)⟩

/-- Different methods stand for the same requests only where one is a tunnel and one is options. -/
theorem eq_or_of_requested_eq {m m' : String} (h : requested m = requested m') :
    m = m' ∨ (m = "CONNECT" ∧ m' = "OPTIONS") ∨ (m = "OPTIONS" ∧ m' = "CONNECT") := by
  by_cases hm : m = "CONNECT" <;> by_cases hm' : m' = "CONNECT"
  · exact .inl (hm.trans hm'.symm)
  · rw [hm, requested_eq_of_ne hm'] at h
    exact .inr (.inl ⟨hm, h.symm⟩)
  · rw [hm', requested_eq_of_ne hm] at h
    exact .inr (.inr ⟨h, hm'⟩)
  · rw [requested_eq_of_ne hm, requested_eq_of_ne hm'] at h
    exact .inl h

/-- So methods of which none is repeated stand for requests of which none is, unless both are
there. -/
theorem nodup_requested_iff {methods : List String} (h : methods.Nodup) :
    (methods.map requested).Nodup ↔ ¬("CONNECT" ∈ methods ∧ "OPTIONS" ∈ methods) := by
  rw [List.nodup_map_iff_inj_on h]
  constructor
  · intro hinj hboth
    exact absurd (hinj _ hboth.1 _ hboth.2 rfl) (by decide)
  · intro hnot x hx y hy hsame
    rcases eq_or_of_requested_eq hsame with heq | ⟨rfl, rfl⟩ | ⟨rfl, rfl⟩
    · exact heq
    · exact absurd ⟨hx, hy⟩ hnot
    · exact absurd ⟨hy, hx⟩ hnot

/-- A tunnel and options are both listed at a path. -/
def Crossed (routes : List Route) (path : String) : Prop :=
  (∃ r ∈ routes, r.lists path "CONNECT" = true) ∧ ∃ r ∈ routes, r.lists path "OPTIONS" = true

instance (routes : List Route) (path : String) : Decidable (Crossed routes path) :=
  inferInstanceAs (Decidable (_ ∧ _))

section

variable (settings : Settings) (derive : Endpoint → Option Constraints) (routes : List Route)

/-- The mounts at a path serve the requests that the methods offered there stand for. -/
theorem flatMap_requests (p : String) :
    (((drafted settings derive routes).mounts.map Mount.requests).filter (·.1 = p)).flatMap (·.2) =
      (distinct (offered routes p)).map requested := by
  rw [map_requests_drafted, List.filter_map, List.flatMap_map, ← flatMap_shares, List.map_flatMap]
  rfl

/-- A route claims the same requests twice exactly when a tunnel and options are left to it. -/
theorem collided_drafted_iff :
    (drafted settings derive routes).collided = true ↔
      ∃ s ∈ shares routes, "CONNECT" ∈ s.methods ∧ "OPTIONS" ∈ s.methods := by
  induction routes using List.reverseRecOn with
  | nil => simp [drafted, Draft.routeAll, Draft.withDeriver, Draft.new, shares]
  | append_singleton routes r ih =>
      rw [drafted_concat, Draft.collided_add, Bool.or_eq_true, ih, fresh_drafted, shares_concat,
        Bool.not_eq_true', decide_eq_false_iff_not, nodup_requested_iff (nodup_share routes r),
        not_not]
      simp only [List.mem_append, or_and_right, exists_or]
      refine or_congr_right ?_
      by_cases hempty : share routes r = [] <;> simp [hempty]

/-- No route claims requests twice exactly when no mount is for the same requests twice. -/
theorem collided_eq_false_iff :
    (drafted settings derive routes).collided = false ↔
      ∀ a ∈ (drafted settings derive routes).mounts.map Mount.requests, a.2.Nodup := by
  rw [← Bool.not_eq_true, collided_drafted_iff, map_requests_drafted, List.forall_mem_map]
  push Not
  refine forall₂_congr fun s hs => ?_
  obtain ⟨-, hmethods, -⟩ := mem_shares_iff.mp hs
  have hnodup : s.methods.Nodup := hmethods ▸ nodup_share _ _
  rw [Share.requests, nodup_requested_iff hnodup, not_and]

/-- **Routes serve the same requests twice only where a path is crossed.** -/
theorem together_iff :
    (drafted settings derive routes).collided = false ∧
      overlapping (drafted settings derive routes).mounts = false ↔
    ∀ p, ¬Crossed routes p := by
  rw [collided_eq_false_iff, overlapping_eq_false_iff, ← nodup_labelled_iff]
  refine forall_congr' fun p => ?_
  rw [flatMap_requests, nodup_requested_iff (nodup_distinct _), mem_distinct, mem_distinct,
    mem_offered_iff, mem_offered_iff, Crossed]
  simp [servable]

end

/-- The claims of a built router go together. -/
theorem eq_of_lists {settings : Settings} {derive : Endpoint → Option Constraints}
    {routes : List Route} {configure : Checkpoint.Setup Request → Checkpoint.Setup Request}
    {router : Router} (h : (drafted settings derive routes).build configure = .ok router)
    {r r' : Route} {p m m' : String} (hr : r ∈ routes) (hr' : r' ∈ routes)
    (hlists : r.lists p m = true) (hlists' : r'.lists p m' = true)
    (hsame : requested m = requested m') : m = m' := by
  obtain ⟨hcollided, -, hoverlap, -⟩ := build_eq_ok h
  have hcrossed : ¬Crossed routes p :=
    (together_iff settings derive routes).mp ⟨hcollided, hoverlap⟩ p
  rcases eq_or_of_requested_eq hsame with heq | ⟨rfl, rfl⟩ | ⟨rfl, rfl⟩
  · exact heq
  · exact absurd ⟨⟨r, hr, hlists⟩, r', hr', hlists'⟩ hcrossed
  · exact absurd ⟨⟨r', hr', hlists'⟩, r, hr, hlists⟩ hcrossed

/-! ### Building -/

/-- A method that cannot be served is reported whatever the checkpoint is set up with, unless some
route claims the same requests twice. -/
theorem build_eq_unsupported_iff {d : Draft}
    {configure : Checkpoint.Setup Request → Checkpoint.Setup Request} {p m : String} :
    d.build configure = .error (.unsupportedMethod p m) ↔
      d.collided = false ∧ d.unsupported = some (p, m) := by
  unfold Draft.build
  cases d.collided with
  | true => simp
  | false =>
      cases d.unsupported with
      | some found => simp [Prod.ext_iff]
      | none =>
          cases (configure {}).build with
          | error fault => simp
          | ok checkpoint => cases tree? d.mounts <;> simp

/-- Routes that serve the same requests twice cannot be built. -/
theorem build_of_overlapping {d : Draft}
    {configure : Checkpoint.Setup Request → Checkpoint.Setup Request}
    {checkpoint : Checkpoint Request} (hcollided : d.collided = false)
    (hunsupported : d.unsupported = none) (hsetup : (configure {}).build = .ok checkpoint)
    (hoverlap : overlapping d.mounts = true) : d.build configure = .error .unroutable := by
  have htree : tree? d.mounts = none := if_pos hoverlap
  rw [Draft.build, hcollided, hunsupported, hsetup, htree]
  rfl

/--
**The methods of a path are shared out among the routes that list them.**  A route is mounted
exactly when something is left to it, and for the requests that what is left to it stands for.
What is left to the routes at a path has no method twice and no two routes have one in common; all
methods that are listed there and can be served are left to some route, each to the first that
lists it.

The mounts go together exactly when no path has both a tunnel and options listed, since a tunnel
stands for options; a single route is at odds with itself exactly when both are left to it.  If
none is, what building reports as unsupported is the first listed method that cannot be served,
whatever the checkpoint is set up with.
-/
theorem methods_shared_out (settings : Settings) (derive : Endpoint → Option Constraints)
    (routes : List Route) (configure : Checkpoint.Setup Request → Checkpoint.Setup Request) :
    let d := drafted settings derive routes
    let registrations := (Catalog.Draft.run settings derive (routes.map Route.endpoint)).2
    List.Forall₂ (Share.MountedAs registrations) (shares routes) d.mounts ∧
    (∀ s ∈ shares routes, s.methods ≠ [] ∧ s.methods.Nodup) ∧
    (∀ p, ((shares routes).filter (·.route.path = p)).Pairwise fun s s' =>
      s.methods.Disjoint s'.methods) ∧
    (∀ p m, (∃ s ∈ shares routes, s.route.path = p ∧ m ∈ s.methods) ↔
      m ∈ servable ∧ ∃ r ∈ routes, r.lists p m = true) ∧
    (∀ p m i, (∃ s ∈ shares routes, s.place = i ∧ s.route.path = p ∧ m ∈ s.methods) ↔
      m ∈ servable ∧ routes.findIdx? (Route.lists p m) = some i) ∧
    (d.collided = false ∧ overlapping d.mounts = false ↔ ∀ p, ¬Crossed routes p) ∧
    (d.collided = true ↔ ∃ s ∈ shares routes, "CONNECT" ∈ s.methods ∧ "OPTIONS" ∈ s.methods) ∧
    ∀ p m, d.build configure = .error (.unsupportedMethod p m) ↔
      d.collided = false ∧ (listings routes).find? (·.2 ∉ servable) = some (p, m) := by
  refine ⟨forall₂_mounted settings derive routes, fun s hs => ?_, fun p => ?_, fun p m => ?_,
    fun p m i => mem_share_at_iff, together_iff settings derive routes,
    collided_drafted_iff settings derive routes, fun p m => ?_⟩
  · obtain ⟨-, hmethods, hne⟩ := mem_shares_iff.mp hs
    exact ⟨hne, hmethods ▸ nodup_share _ _⟩
  · have hnodup := nodup_distinct (offered routes p)
    rw [← flatMap_shares] at hnodup
    exact (List.nodup_flatMap.mp hnodup).2
  · rw [← mem_offered_iff, ← mem_distinct, ← flatMap_shares]
    simp [and_assoc]
  · rw [build_eq_unsupported_iff, unsupported_drafted]

/-- A route for everybody. -/
def free (path : String) (methods : List String) : Route where
  path := path
  methods := methods
  handler := fun _ => .ofStatus 200
  rule := none

/-- A checkpoint that takes what callers hold from the header. -/
def gated (setup : Checkpoint.Setup Request) : Checkpoint.Setup Request :=
  (setup.withRetriever .ofHeader).withPolicy Policy.wildcard

/-- A tunnel and options at one path, left to one route each, cannot be served together. -/
theorem options_beside_tunnel_clash :
    let routes := [free "/tunnel" ["CONNECT"], free "/tunnel" ["OPTIONS"]]
    let d := drafted {} (fun _ => none) routes
    (shares routes).map (fun s => (s.place, s.methods)) = [(0, ["CONNECT"]), (1, ["OPTIONS"])] ∧
    d.collided = false ∧ (listings routes).find? (·.2 ∉ servable) = none ∧
    overlapping d.mounts = true ∧ d.build gated = .error .unroutable := by
  intro routes d
  have hcollided : d.collided = false := by decide +kernel
  have hlisted : (listings routes).find? (·.2 ∉ servable) = none := by decide +kernel
  have hoverlap : overlapping d.mounts = true := by decide +kernel
  have hunsupported : d.unsupported = none :=
    (unsupported_drafted {} (fun _ => none) routes).trans hlisted
  exact ⟨by decide +kernel, hcollided, hlisted, hoverlap,
    build_of_overlapping hcollided hunsupported rfl hoverlap⟩

/-- Three routes that list methods of a report more than once, and one that cannot be served. -/
def reporting : List Route :=
  [free "/report" ["GET", "POST", "GET"], free "/report" ["POST", "DELETE", "PURGE"],
    free "/report" ["GET"]]

/-- Two of them are left with something, and the purge is reported with nothing set up. -/
theorem reporting_shared_out :
    let d := drafted {} (fun _ => none) reporting
    (shares reporting).map (fun s => (s.place, s.methods)) =
      [(0, ["GET", "POST"]), (1, ["DELETE"])] ∧
    (∀ s ∈ shares reporting, s.methods ≠ [] ∧ s.methods.Nodup) ∧
    (∃ s ∈ shares reporting, s.place = 1 ∧ s.route.path = "/report" ∧ "DELETE" ∈ s.methods) ∧
    (d.collided = false ∧ overlapping d.mounts = false) ∧
    d.build id = .error (.unsupportedMethod "/report" "PURGE") := by
  intro d
  obtain ⟨-, hshares, -, -, hfirst, htogether, -, hreport⟩ :=
    methods_shared_out {} (fun _ => none) reporting id
  have hopen : ∀ r ∈ reporting, "CONNECT" ∉ r.methods := by decide
  have hapart := htogether.mpr fun p hcrossed => by
    obtain ⟨⟨r, hr, hlists⟩, -⟩ := hcrossed
    exact hopen r hr (Route.lists_iff.mp hlists).2
  exact ⟨by decide +kernel, hshares,
    (hfirst "/report" "DELETE" 1).mpr ⟨by decide, by decide +kernel⟩, hapart,
    (hreport "/report" "PURGE").mpr ⟨hapart.1, by decide +kernel⟩⟩

end Router

end Turnstile
