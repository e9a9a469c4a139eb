/-
What a list of endpoints claims.

This is registration said without a catalog: every method of an endpoint with a resource
claims one key for the privileges that the endpoint's rule requires, and of several claims
on a key the first stands.  `firsts` keeps those, in the order in which they were made.
`Proofs/Registration.lean` shows that a catalog filled endpoint by endpoint holds exactly
them.
-/
import Turnstile.Catalog
import Turnstile.Proofs.Distinct
import Turnstile.Proofs.Key

namespace Turnstile

/-- A list around one of its places. -/
theorem eq_take_append {α : Type} {xs : List α} {i : Nat} {x : α} (h : xs[i]? = some x) :
    xs = xs.take i ++ x :: xs.drop (i + 1) := by
  obtain ⟨hlt, hget⟩ := List.getElem?_eq_some_iff.mp h
  rw [← hget, ← List.drop_eq_getElem_cons hlt, List.take_append_drop]

/-! ### What a rule requires -/

/-- The privileges that a rule requires: one for each operation, or the one for all of them
when it lists none.  A rule without a resource requires nothing. -/
def Rule.required? (r : Rule) : Option (List String) :=
  r.resource.map fun resource =>
    if (r.operations.getD []).isEmpty then [resource ++ ":" ++ "*"]
    else (r.operations.getD []).map fun operation => resource ++ ":" ++ operation

theorem Rule.required?_eq (r : Rule) :
    r.required? =
      r.resource.map fun resource => r.normalizedOperations.map (privilege resource) := by
  unfold required? normalizedOperations privilege
  rcases r.operations with _ | _ | ⟨operation, operations⟩ <;> simp

/-! ### Derived constraints -/

namespace Constraints

/-- `result` is `own` with `implied` laid over it: under a name that both give, what is
implied counts.  When nothing is implied, or only nothing, `own` stays as it is. -/
def Overlaid (own implied result : Option Constraints) : Prop :=
  match implied.filter (!·.isEmpty) with
  | none => result = own
  | some implied => ∃ c, result = some c ∧
      ∀ name, c.get? name = (implied.get? name).or ((own.getD ∅).get? name)

theorem get?_overlay (c later : Constraints) (name : String) :
    (c.overlay later).get? name = (later.get? name).or (c.get? name) := by
  simp only [get?, overlay, Json.lastWrite?, List.reverse_append, List.lookup_append]

end Constraints

namespace Endpoint

variable (derive : Endpoint → Option Constraints)

/-- The constraints of an endpoint with those derived from it laid over them. -/
def constraintsUnder (e : Endpoint) : Option Constraints :=
  match (derive e).filter (!·.isEmpty) with
  | none => e.constraints
  | some implied => some ((e.constraints.getD ∅).overlay implied)

theorem overlaid_constraintsUnder (e : Endpoint) :
    Constraints.Overlaid e.constraints (derive e) (e.constraintsUnder derive) := by
  unfold Constraints.Overlaid constraintsUnder
  cases (derive e).filter (!·.isEmpty) with
  | none => rfl
  | some implied => exact ⟨_, rfl, Constraints.get?_overlay _ implied⟩

/-- The key of an endpoint for a method. -/
def keyUnder (e : Endpoint) (method : String) : String :=
  key method e.path (e.constraintsUnder derive)

/-! ### Claims -/

/-- What an endpoint claims, method by method: a key, for the privileges it requires. -/
def claims (e : Endpoint) : List (String × List String) :=
  match e.rule.bind Rule.required? with
  | none => []
  | some required => e.methods.map fun method => (e.keyUnder derive method, required)

/-- Whether one of an endpoint's claims is on a key. -/
def Claims (e : Endpoint) (key : String) : Prop := key ∈ (e.claims derive).map (·.1)

instance (e : Endpoint) (key : String) : Decidable (e.Claims derive key) :=
  inferInstanceAs (Decidable (key ∈ (e.claims derive).map (·.1)))

theorem claims_iff {e : Endpoint} {key : String} :
    e.Claims derive key ↔
      (e.rule.bind Rule.required?).isSome ∧
        ∃ method ∈ e.methods, key = e.keyUnder derive method := by
  unfold Claims claims
  cases e.rule.bind Rule.required? <;> simp [eq_comm]

theorem lookup_claims {e : Endpoint} {key : String} {required : List String}
    (hrequired : e.rule.bind Rule.required? = some required) (h : e.Claims derive key) :
    (e.claims derive).lookup key = some required := by
  obtain ⟨-, method, hmethod, rfl⟩ := (claims_iff derive).mp h
  simp only [claims, hrequired]
  generalize e.methods = methods at hmethod
  induction methods with
  | nil => simp at hmethod
  | cons m rest ih =>
      rw [List.map_cons, List.lookup_cons]
      cases hm : e.keyUnder derive method == e.keyUnder derive m with
      | true => rfl
      | false =>
          refine ih ((List.mem_cons.mp hmethod).resolve_left ?_)
          intro heq
          subst heq
          simp at hm

/-- The endpoint at a place claims a key, and none before it does. -/
def FirstClaims (es : List Endpoint) (i : Nat) (key : String) : Prop :=
  (∃ e ∈ es[i]?, e.Claims derive key) ∧ ∀ e ∈ es.take i, ¬e.Claims derive key

instance (es : List Endpoint) (i : Nat) (key : String) :
    Decidable (FirstClaims derive es i key) :=
  inferInstanceAs (Decidable (_ ∧ _))

theorem mem_keys_flatMap {es : List Endpoint} {key : String} :
    key ∈ (es.flatMap (claims derive)).map (·.1) ↔ ∃ e ∈ es, e.Claims derive key := by
  simp only [Claims, List.mem_map, List.mem_flatMap]
  constructor
  · intro h
    obtain ⟨claim, ⟨e, he, hclaim⟩, rfl⟩ := h
    exact ⟨e, he, claim, hclaim, rfl⟩
  · intro h
    obtain ⟨e, he, claim, hclaim, rfl⟩ := h
    exact ⟨claim, ⟨e, he, hclaim⟩, rfl⟩

theorem firstClaims_iff {es : List Endpoint} {i : Nat} {e : Endpoint} {key : String}
    (hi : es[i]? = some e) :
    FirstClaims derive es i key ↔
      e.Claims derive key ∧ key ∉ ((es.take i).flatMap (claims derive)).map (·.1) := by
  rw [FirstClaims, hi, mem_keys_flatMap]
  simp

/-- Of all endpoints that claim a key there is a first one. -/
theorem exists_firstClaims {es : List Endpoint} {key : String}
    (h : ∃ e ∈ es, e.Claims derive key) : ∃ i, FirstClaims derive es i key := by
  induction es with
  | nil => simp at h
  | cons first rest ih =>
      by_cases hfirst : first.Claims derive key
      · exact ⟨0, ⟨first, rfl, hfirst⟩, by simp⟩
      · have hrest : ∃ e ∈ rest, e.Claims derive key := by
          obtain ⟨e, he, hclaims⟩ := h
          rcases List.mem_cons.mp he with rfl | he'
          · exact absurd hclaims hfirst
          · exact ⟨e, he', hclaims⟩
        obtain ⟨i, hclaims, hbefore⟩ := ih hrest
        refine ⟨i + 1, by simpa using hclaims, fun e he => ?_⟩
        rcases List.mem_cons.mp he with rfl | he'
        · exact hfirst
        · exact hbefore e he'

/-- The first claim on a key is found under it, however many others there are. -/
theorem lookup_of_firstClaims {es : List Endpoint} {i : Nat} {e : Endpoint} {key : String}
    {required : List String} (hi : es[i]? = some e) (h : FirstClaims derive es i key)
    (hrequired : e.rule.bind Rule.required? = some required) :
    (es.flatMap (claims derive)).lookup key = some required := by
  obtain ⟨hclaims, hfree⟩ := (firstClaims_iff derive hi).mp h
  have hnone : ((es.take i).flatMap (claims derive)).lookup key = none := by
    refine List.lookup_eq_none_iff.mpr fun claim hclaim => ?_
    simp only [bne_iff_ne]
    intro heq
    subst heq
    exact hfree (List.mem_map_of_mem hclaim)
  rw [eq_take_append hi, List.flatMap_append, List.flatMap_cons, List.lookup_append,
    List.lookup_append, hnone, lookup_claims derive hrequired hclaims]
  rfl

end Endpoint

/-! ### Keeping the first claim of each key -/

/-- The claims whose key no earlier claim has. -/
def firsts (claims : List (String × List String)) : List (String × List String) :=
  claims.eraseDupsBy fun a b => a.1 == b.1

theorem isSome_lookup_iff {claims : List (String × List String)} {key : String} :
    (claims.lookup key).isSome ↔ key ∈ claims.map (·.1) := by
  rw [List.lookup_isSome_iff, List.mem_map]
  constructor
  · intro h
    obtain ⟨claim, hclaim, heq⟩ := h
    exact ⟨claim, hclaim, (beq_iff_eq.mp heq).symm⟩
  · intro h
    obtain ⟨claim, hclaim, rfl⟩ := h
    exact ⟨claim, hclaim, beq_self_eq_true _⟩

/-- A further claim is kept exactly when no earlier one has its key. -/
theorem firsts_concat (claims : List (String × List String)) (claim : String × List String) :
    firsts (claims ++ [claim]) =
      if claim.1 ∈ claims.map (·.1) then firsts claims else firsts claims ++ [claim] :=
  eraseDupsBy_concat Prod.fst claim claims

/-- The first claim of a key is found in either list. -/
theorem lookup_firsts (claims : List (String × List String)) (key : String) :
    (firsts claims).lookup key = claims.lookup key := by
  induction claims using List.reverseRecOn with
  | nil => rfl
  | append_singleton claims claim ih =>
      obtain ⟨k, privileges⟩ := claim
      rw [firsts_concat, List.lookup_append]
      by_cases h : k ∈ claims.map (·.1)
      · rw [if_pos h, ih]
        by_cases hk : key = k
        · obtain ⟨found, hfound⟩ := Option.isSome_iff_exists.mp (isSome_lookup_iff.mpr (hk ▸ h))
          rw [hfound, Option.some_or]
        · rw [List.lookup_cons, beq_false_of_ne hk, List.lookup_nil, Option.or_none]
      · rw [if_neg h, List.lookup_append, ih]

end Turnstile
