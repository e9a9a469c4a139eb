/-
Registering again what was registered changes nothing.

Once an endpoint has been registered all of its keys are taken, whoever took them: by itself, by
an earlier endpoint, or by itself under a method in another case.  An endpoint all of whose keys
are taken adds to no book, so it leaves the catalog as it finds it, with the keys still taken,
and that carries over to any number of such endpoints in any order.  What it is left with itself
is its rule and its constraints, and no key (`Keyless`).
-/
import Turnstile.Proofs.Coherence

namespace Turnstile.Catalog.Draft

/-- What an endpoint is left with that claims no key. -/
structure Keyless (derive : Endpoint → Option Constraints) (e : Endpoint) (r : Registration) :
    Prop where
  rule : r.rule = e.rule
  constraints : r.constraints = e.constraintsUnder derive
  /-- The constraints are the endpoint's own with those derived from it laid over them. -/
  overlaid : Constraints.Overlaid e.constraints (derive e) r.constraints
  keyFor : ∀ method, r.keyFor method = none

theorem keyless_unclaimed (derive : Endpoint → Option Constraints) (e : Endpoint) :
    Keyless derive e { rule := e.rule, constraints := e.constraintsUnder derive } where
  rule := rfl
  constraints := rfl
  overlaid := Endpoint.overlaid_constraintsUnder derive e
  keyFor _ := rfl

/-- An endpoint among others claims no key that these do not. -/
theorem mem_keys_of_mem (derive : Endpoint → Option Constraints) {es : List Endpoint} {e : Endpoint}
    (he : e ∈ es) :
    e.rule.bind (·.resource) = none ∨ ∀ method ∈ e.methods,
      e.keyUnder derive method ∈ (es.flatMap (Endpoint.records derive)).map Record.key := by
  cases hresource : e.rule.bind (·.resource) with
  | none => exact .inl rfl
  | some resource =>
      obtain ⟨rule, hrule, hbound⟩ := Option.bind_eq_some_iff.mp hresource
      refine .inr fun method hmethod => ?_
      rw [List.map_flatMap, List.mem_flatMap]
      refine ⟨e, he, ?_⟩
      rw [Endpoint.records_of_resource derive hrule hbound, List.map_map]
      exact List.mem_map_of_mem hmethod

variable {d : Draft} {additional : List String} {records : List Record}

/-- Endpoints whose keys are all taken leave the catalog alone, one after the other. -/
theorem registerAll_of_taken (h : d.Keeps additional records) :
    ∀ es : List Endpoint,
      (∀ e ∈ es, e.rule.bind (·.resource) = none ∨
        ∀ method ∈ e.methods, e.keyUnder d.derive method ∈ records.map Record.key) →
      d.registerAll es =
        (d, es.map fun e => { rule := e.rule, constraints := e.constraintsUnder d.derive }) := by
  intro es
  induction es with
  | nil => intro _; rfl
  | cons e rest ih =>
      intro htaken
      have hstep := register_of_taken h ((htaken e (by simp)).imp_right .inr)
      have hrest := ih fun e' he' => htaken e' (by simp [he'])
      simp only [registerAll, hstep, hrest, List.map_cons]

/--
**Registering again changes nothing.**  Endpoints that all took part in a run before, in any
order and any number of times, leave the catalog exactly as it was: privileges, hierarchy and
roster, in their order.  What the run had handed out stays, and each of them is left with its
rule and its constraints and with no key for any method.
-/
theorem again_changes_nothing (settings : Settings) (derive : Endpoint → Option Constraints)
    (es again : List Endpoint) (hagain : ∀ e ∈ again, e ∈ es) :
    let (d, registrations) := ((Draft.new settings).withDeriver derive).registerAll es
    let (d', registrations') := ((Draft.new settings).withDeriver derive).registerAll (es ++ again)
    d'.finalize = d.finalize ∧
    ∃ late, registrations' = registrations ++ late ∧ List.Forall₂ (Keyless derive) again late := by
  have h := keeps_run settings derive es
  have hderive : (run settings derive es).1.derive = derive := derive_registerAll es _
  have hreplay := registerAll_of_taken h again fun e he => by
    rw [hderive]
    exact mem_keys_of_mem derive (hagain e he)
  rw [hderive] at hreplay
  have hdraft : (run settings derive (es ++ again)).1 = (run settings derive es).1 := by
    rw [run, registerAll_append]
    show ((run settings derive es).1.registerAll again).1 = _
    rw [hreplay]
  have hlate : (run settings derive (es ++ again)).2 = (run settings derive es).2 ++
      again.map fun e => { rule := e.rule, constraints := e.constraintsUnder derive } := by
    rw [run, registrations_append]
    show (run settings derive es).2 ++ ((run settings derive es).1.registerAll again).2 = _
    rw [hreplay]
  refine ⟨congrArg finalize hdraft, _, hlate, ?_⟩
  rw [List.forall₂_map_right_iff]
  exact List.forall₂_same.mpr fun e _ => keyless_unclaimed derive e

/-- A report that is read. -/
def reading : Endpoint where
  methods := ["GET", "get"]
  path := "/report"
  rule := some { resource := some "report", operations := some ["read"] }

/-- The same report declared to be written, where only one method is still free. -/
def writing : Endpoint where
  methods := ["GET", "PUT"]
  path := "/report"
  rule := some { resource := some "report", operations := some ["write"] }

/-- Registered again the other way round, both find every key taken. -/
theorem writing_again_keyless :
    let (d, registrations) :=
      ((Draft.new {}).withDeriver fun _ => none).registerAll [reading, writing]
    let (d', registrations') :=
      ((Draft.new {}).withDeriver fun _ => none).registerAll
        ([reading, writing] ++ [writing, reading])
    (∀ e ∈ [writing, reading], e ∈ [reading, writing]) ∧ d'.finalize = d.finalize ∧
    ∃ r r', registrations' = registrations ++ [r, r'] ∧ r.keyFor "PUT" = none ∧
      r'.keyFor "GET" = none := by
  have hagain : ∀ e ∈ [writing, reading], e ∈ [reading, writing] := by simp
  obtain ⟨hsame, late, hlate, hkeyless⟩ :=
    again_changes_nothing {} (fun _ => none) [reading, writing] [writing, reading] hagain
  obtain ⟨r, rest, hwriting, hrest, rfl⟩ := List.forall₂_cons_left_iff.mp hkeyless
  obtain ⟨r', more, hreading, hmore, rfl⟩ := List.forall₂_cons_left_iff.mp hrest
  obtain rfl := List.forall₂_nil_left_iff.mp hmore
  exact ⟨hagain, hsame, r, r', hlate, hwriting.keyFor "PUT", hreading.keyFor "GET"⟩

end Turnstile.Catalog.Draft
