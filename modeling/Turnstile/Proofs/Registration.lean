/-
Registration keeps the first claim of every key.

`Holds` is the invariant of a run: the roster is sound and lists, of all claims made so
far, the first on each key.  One method's claim preserves it, so an endpoint does, so a
whole run does.  Alongside it each endpoint is left with the keys that were new when it was
registered, which `Registered` says against the claims made before it; later registrations
never touch what an earlier one was left with.
-/
import Turnstile.Proofs.Claims
import Turnstile.Proofs.Roster

namespace Turnstile.Catalog.Draft

/-- The roster lists the first claim on each key, of all claims made so far. -/
structure Holds (d : Draft) (past : List (String × List String)) : Prop where
  sound : d.roster.Sound
  toList : d.roster.toList = firsts past

theorem holds_new (settings : Settings) (derive : Endpoint → Option Constraints) :
    ((Draft.new settings).withDeriver derive).Holds [] :=
  ⟨Roster.sound_empty, rfl⟩

namespace Holds

variable {d : Draft} {past : List (String × List String)}

/-- A key is looked up as the first claim on it. -/
theorem get?_eq (h : d.Holds past) (key : String) : d.roster.get? key = past.lookup key := by
  rw [h.sound.get?_eq_lookup, h.toList, lookup_firsts]

/-- A key is taken exactly when it was claimed before. -/
theorem contains_iff (h : d.Holds past) (key : String) :
    d.roster.contains key = true ↔ key ∈ past.map (·.1) := by
  rw [Roster.contains_eq_isSome, h.get?_eq, isSome_lookup_iff]

end Holds

/-! ### The claim of one method -/

/-- What an endpoint is left with for a method when it is registered after `past`. -/
def granted (past : List (String × List String)) (e : Endpoint) (methods : List String)
    (method : String) : Option String :=
  if (∃ m ∈ methods, Text.upper m = Text.upper method) ∧
      Endpoint.key method e.path e.constraints ∉ past.map (·.1) then
    some (Endpoint.key method e.path e.constraints)
  else none

variable {d : Draft} {past : List (String × List String)}

/-- A method whose key was just claimed is granted nothing more. -/
theorem granted_of_claimed {e : Endpoint} {m method : String} (methods : List String)
    (privileges : List String) (h : Text.upper m = Text.upper method) :
    granted (past ++ [(Endpoint.key m e.path e.constraints, privileges)]) e methods method =
      none := by
  refine if_neg fun hfree => hfree.2 ?_
  simp [Endpoint.key_congr h]

/-- The claim of one method is no concern of another. -/
theorem granted_of_ne {e : Endpoint} {m method : String} (methods : List String)
    (privileges : List String) (h : Text.upper m ≠ Text.upper method) :
    granted (past ++ [(Endpoint.key m e.path e.constraints, privileges)]) e methods method =
      granted past e (m :: methods) method := by
  have hkey : Endpoint.key method e.path e.constraints ≠ Endpoint.key m e.path e.constraints :=
    fun heq => h (Endpoint.key_eq_iff_method.mp heq).symm
  have hpast : Endpoint.key method e.path e.constraints ∈
      (past ++ [(Endpoint.key m e.path e.constraints, privileges)]).map (·.1) ↔
      Endpoint.key method e.path e.constraints ∈ past.map (·.1) := by
    simp [hkey]
  have hlisted : (∃ m' ∈ m :: methods, Text.upper m' = Text.upper method) ↔
      ∃ m' ∈ methods, Text.upper m' = Text.upper method := by
    simp [h]
  simp only [granted, hpast, hlisted]

theorem holds_claim (h : d.Holds past) (resource : String) (operations : List String)
    (e : Endpoint) (r : Registration) (method : String) :
    (claim resource operations e (d, r) method).1.Holds
      (past ++ [(Endpoint.key method e.path e.constraints,
        operations.map (Rule.privilege resource))]) := by
  simp only [claim]
  by_cases hc : d.roster.contains (Endpoint.key method e.path e.constraints) = true
  · rw [if_pos hc]
    refine ⟨h.sound, ?_⟩
    rw [firsts_concat, if_pos ((h.contains_iff _).mp hc), h.toList]
  · rw [if_neg hc]
    refine ⟨h.sound.insert _ _, ?_⟩
    rw [firsts_concat, if_neg (mt (h.contains_iff _).mpr hc), ← h.toList]
    exact Roster.toList_insert_of_new h.sound (by simpa using hc) _

theorem derive_claim (resource : String) (operations : List String) (e : Endpoint)
    (r : Registration) (method : String) :
    (claim resource operations e (d, r) method).1.derive = d.derive := by
  simp only [claim]
  split <;> rfl

/-- A claim adds nothing to a registration but the key, and that only when it was free. -/
theorem registration_claim (h : d.Holds past) (resource : String) (operations : List String)
    (e : Endpoint) (r : Registration) (method : String) :
    (claim resource operations e (d, r) method).2 =
      if Endpoint.key method e.path e.constraints ∈ past.map (·.1) then r
      else r.claim method (Endpoint.key method e.path e.constraints) := by
  simp only [claim]
  by_cases hc : d.roster.contains (Endpoint.key method e.path e.constraints) = true
  · rw [if_pos hc, if_pos ((h.contains_iff _).mp hc)]
  · rw [if_neg hc, if_neg (mt (h.contains_iff _).mpr hc)]

theorem keyFor_claim (r : Registration) (m key method : String) :
    (r.claim m key).keyFor method =
      (r.keyFor method).or (if Text.upper m = Text.upper method then some key else none) := by
  simp only [Registration.keyFor, Registration.claim, List.lookup_append]
  by_cases h : Text.upper m = Text.upper method
  · simp [h]
  · rw [if_neg h, List.lookup_cons, beq_false_of_ne (Ne.symm h), List.lookup_nil]

/-! ### The claims of one endpoint -/

theorem holds_claims (resource : String) (operations : List String) (e : Endpoint) :
    ∀ (methods : List String) {d : Draft} {past : List (String × List String)}
      (r : Registration), d.Holds past →
      (methods.foldl (claim resource operations e) (d, r)).1.Holds
        (past ++ methods.map fun method =>
          (Endpoint.key method e.path e.constraints,
            operations.map (Rule.privilege resource))) := by
  intro methods
  induction methods with
  | nil => intro d past r h; simpa using h
  | cons m rest ih =>
      intro d past r h
      have hstep := ih (claim resource operations e (d, r) m).2
        (holds_claim h resource operations e r m)
      rw [List.append_assoc] at hstep
      exact hstep

theorem derive_claims (resource : String) (operations : List String) (e : Endpoint) :
    ∀ (methods : List String) (d : Draft) (r : Registration),
      (methods.foldl (claim resource operations e) (d, r)).1.derive = d.derive := by
  intro methods
  induction methods with
  | nil => intro d r; rfl
  | cons m rest ih =>
      intro d r
      exact (ih _ _).trans (derive_claim resource operations e r m)

/-- An endpoint is left with its rule, its constraints and the keys that were free. -/
theorem registration_claims (resource : String) (operations : List String) (e : Endpoint) :
    ∀ (methods : List String) {d : Draft} {past : List (String × List String)}
      (r : Registration), d.Holds past →
      (methods.foldl (claim resource operations e) (d, r)).2.rule = r.rule ∧
      (methods.foldl (claim resource operations e) (d, r)).2.constraints = r.constraints ∧
      ∀ method, (methods.foldl (claim resource operations e) (d, r)).2.keyFor method =
        (r.keyFor method).or (granted past e methods method) := by
  intro methods
  induction methods with
  | nil => intro d past r h; simp [granted]
  | cons m rest ih =>
      intro d past r h
      obtain ⟨hrule, hconstraints, hkeys⟩ := ih (claim resource operations e (d, r) m).2
        (holds_claim h resource operations e r m)
      have hreg := registration_claim h resource operations e r m
      refine ⟨?_, ?_, fun method => ?_⟩
      · refine hrule.trans ?_
        rw [hreg]
        split <;> rfl
      · refine hconstraints.trans ?_
        rw [hreg]
        split <;> rfl
      · refine (hkeys method).trans ?_
        rw [hreg]
        by_cases hm : Text.upper m = Text.upper method
        · rw [granted_of_claimed rest _ hm, Option.or_none]
          by_cases hc : Endpoint.key m e.path e.constraints ∈ past.map (·.1)
          · rw [if_pos hc, granted, if_neg fun hfree => hfree.2 (Endpoint.key_congr hm _ _ ▸ hc),
              Option.or_none]
          · rw [if_neg hc, keyFor_claim, if_pos hm, granted,
              if_pos ⟨⟨m, by simp, hm⟩, Endpoint.key_congr hm _ _ ▸ hc⟩, Endpoint.key_congr hm]
        · rw [granted_of_ne rest _ hm]
          split
          · rfl
          · rw [keyFor_claim, if_neg hm, Option.or_none]

/-! ### One endpoint -/

/-- What an endpoint is left with that was registered after some claims had been made. -/
structure Registered (past : List (String × List String))
    (derive : Endpoint → Option Constraints) (e : Endpoint) (r : Registration) : Prop where
  rule : r.rule = e.rule
  constraints : r.constraints = e.constraintsUnder derive
  /-- It has a key for a method when it lists it in any case and the key was free. -/
  keyFor : ∀ method key, r.keyFor method = some key ↔
    (∃ m ∈ e.methods, Text.sameIgnoringCase method m = true ∧ key = e.keyUnder derive m) ∧
      e.Claims derive key ∧ key ∉ past.map (·.1)

theorem derived_eq (d : Draft) (e : Endpoint) :
    d.derived e = { e with constraints := e.constraintsUnder d.derive } := by
  unfold derived Endpoint.constraintsUnder
  cases d.derive e with
  | none => rfl
  | some implied => by_cases himplied : implied.isEmpty = true <;> simp [himplied, Option.filter]

/-- Only an endpoint that requires something makes claims. -/
theorem register_of_none (d : Draft) {e : Endpoint}
    (hrequired : e.rule.bind Rule.required? = none) :
    d.register e = (d, { rule := e.rule, constraints := e.constraintsUnder d.derive }) := by
  simp only [register, derived_eq]
  cases hrule : e.rule with
  | none => rfl
  | some rule =>
      cases hresource : rule.resource with
      | none => simp [hresource]
      | some resource => simp [hrule, Rule.required?, hresource] at hrequired

theorem register_of_resource (d : Draft) {e : Endpoint} {rule : Rule} {resource : String}
    (hrule : e.rule = some rule) (hresource : rule.resource = some resource) :
    d.register e =
      e.methods.foldl
        (claim resource rule.normalizedOperations
          { e with constraints := e.constraintsUnder d.derive })
        (d, { rule := e.rule, constraints := e.constraintsUnder d.derive }) := by
  simp [register, derived_eq, hrule, hresource]

/-- Registering an endpoint changes nothing, or claims the keys of a resource. -/
theorem register_cases (d : Draft) (e : Endpoint) :
    (e.rule.bind (·.resource) = none ∧
        d.register e = (d, { rule := e.rule, constraints := e.constraintsUnder d.derive })) ∨
      ∃ rule resource, e.rule = some rule ∧ rule.resource = some resource ∧
        d.register e =
          e.methods.foldl
            (claim resource rule.normalizedOperations
              { e with constraints := e.constraintsUnder d.derive })
            (d, { rule := e.rule, constraints := e.constraintsUnder d.derive }) := by
  cases hresource : e.rule.bind (·.resource) with
  | none =>
      have hrequired : e.rule.bind Rule.required? = none := by
        cases hrule : e.rule with
        | none => rfl
        | some rule =>
            rw [hrule] at hresource
            simpa [Rule.required?] using hresource
      exact .inl ⟨rfl, register_of_none d hrequired⟩
  | some resource =>
      obtain ⟨rule, hrule, hbound⟩ := Option.bind_eq_some_iff.mp hresource
      exact .inr ⟨rule, resource, hrule, hbound, register_of_resource d hrule hbound⟩

theorem derive_register (d : Draft) (e : Endpoint) : (d.register e).1.derive = d.derive := by
  rcases register_cases d e with ⟨-, hsame⟩ | ⟨rule, resource, -, -, hregister⟩
  · rw [hsame]
  · rw [hregister, derive_claims]

/-- An endpoint that claims nothing is left with no key. -/
theorem registered_unclaimed (past : List (String × List String))
    (derive : Endpoint → Option Constraints) {e : Endpoint}
    (hrequired : e.rule.bind Rule.required? = none) :
    Registered past derive e { rule := e.rule, constraints := e.constraintsUnder derive } where
  rule := rfl
  constraints := rfl
  keyFor method key := by
    refine iff_of_false (by simp [Registration.keyFor]) fun h => ?_
    have hsome := ((Endpoint.claims_iff derive).mp h.2.1).1
    rw [hrequired] at hsome
    exact Bool.noConfusion hsome

/-- The keys granted to an endpoint, said with its claims. -/
theorem granted_eq_some_iff {derive : Endpoint → Option Constraints} {e : Endpoint}
    (hrequired : (e.rule.bind Rule.required?).isSome) (method key : String) :
    granted past { e with constraints := e.constraintsUnder derive } e.methods method = some key ↔
      (∃ m ∈ e.methods, Text.sameIgnoringCase method m = true ∧ key = e.keyUnder derive m) ∧
        e.Claims derive key ∧ key ∉ past.map (·.1) := by
  rw [granted, Option.ite_none_right_eq_some, Option.some.injEq]
  constructor
  · intro h
    obtain ⟨⟨⟨m, hm, hcase⟩, hfree⟩, rfl⟩ := h
    have hkey : Endpoint.key method e.path (e.constraintsUnder derive) = e.keyUnder derive m :=
      Endpoint.key_congr hcase.symm _ _
    exact ⟨⟨m, hm, (Text.sameIgnoringCase_iff method m).mpr hcase.symm, hkey⟩,
      (Endpoint.claims_iff derive).mpr ⟨hrequired, m, hm, hkey⟩, hfree⟩
  · intro h
    obtain ⟨⟨m, hm, hcase, rfl⟩, -, hfree⟩ := h
    have hupper := (Text.sameIgnoringCase_iff method m).mp hcase
    have hkey : Endpoint.key method e.path (e.constraintsUnder derive) = e.keyUnder derive m :=
      Endpoint.key_congr hupper _ _
    exact ⟨⟨⟨m, hm, hupper.symm⟩, hkey ▸ hfree⟩, hkey⟩

/-- Registering an endpoint makes its claims, and leaves it with the keys that were free. -/
theorem register_spec (h : d.Holds past) (e : Endpoint) :
    (d.register e).1.Holds (past ++ e.claims d.derive) ∧
    (d.register e).1.derive = d.derive ∧
    Registered past d.derive e (d.register e).2 := by
  cases hrequired : e.rule.bind Rule.required? with
  | none =>
      rw [register_of_none d hrequired]
      refine ⟨?_, rfl, registered_unclaimed past d.derive hrequired⟩
      simpa [Endpoint.claims, hrequired] using h
  | some required =>
      obtain ⟨rule, hrule, hbound⟩ := Option.bind_eq_some_iff.mp hrequired
      rw [Rule.required?_eq] at hbound
      obtain ⟨resource, hresource, rfl⟩ := Option.map_eq_some_iff.mp hbound
      have hclaims : e.claims d.derive = e.methods.map fun method =>
          (Endpoint.key method e.path (e.constraintsUnder d.derive),
            rule.normalizedOperations.map (Rule.privilege resource)) := by
        simp only [Endpoint.claims, hrequired, Endpoint.keyUnder]
      rw [register_of_resource d hrule hresource, hclaims]
      obtain ⟨hkeptRule, hkeptConstraints, hkeys⟩ :=
        registration_claims resource rule.normalizedOperations
          { e with constraints := e.constraintsUnder d.derive } e.methods
          { rule := e.rule, constraints := e.constraintsUnder d.derive } h
      refine ⟨holds_claims resource rule.normalizedOperations
          { e with constraints := e.constraintsUnder d.derive } e.methods _ h,
        derive_claims _ _ _ _ _ _, hkeptRule, hkeptConstraints, fun method key => ?_⟩
      rw [hkeys method, ← granted_eq_some_iff (by rw [hrequired]; rfl) method key]
      rfl

/-! ### A whole run -/

theorem length_registerAll :
    ∀ (es : List Endpoint) (d : Draft), (d.registerAll es).2.length = es.length := by
  intro es
  induction es with
  | nil => intro d; rfl
  | cons e rest ih =>
      intro d
      rw [registerAll, List.length_cons, List.length_cons, ih]

theorem derive_registerAll :
    ∀ (es : List Endpoint) (d : Draft), (d.registerAll es).1.derive = d.derive := by
  intro es
  induction es with
  | nil => intro d; rfl
  | cons e rest ih => intro d; exact (ih (d.register e).1).trans (derive_register d e)

theorem registerAll_append :
    ∀ (before after : List Endpoint) (d : Draft),
      (d.registerAll (before ++ after)).1 = ((d.registerAll before).1.registerAll after).1 := by
  intro before after
  induction before with
  | nil => intro d; rfl
  | cons e rest ih => intro d; exact ih (d.register e).1

/-- What the earlier endpoints are left with does not depend on the later ones. -/
theorem registrations_append :
    ∀ (before after : List Endpoint) (d : Draft),
      (d.registerAll (before ++ after)).2 =
        (d.registerAll before).2 ++ ((d.registerAll before).1.registerAll after).2 := by
  intro before after
  induction before with
  | nil => intro d; rfl
  | cons e rest ih =>
      intro d
      exact congrArg ((d.register e).2 :: ·) (ih (d.register e).1)

/-- After a run all claims have been made, in order. -/
theorem holds_registerAll :
    ∀ (es : List Endpoint) {d : Draft} {past : List (String × List String)}, d.Holds past →
      (d.registerAll es).1.Holds (past ++ es.flatMap (Endpoint.claims d.derive)) := by
  intro es
  induction es with
  | nil => intro d past h; simpa [registerAll] using h
  | cons e rest ih =>
      intro d past h
      obtain ⟨hstep, hderive, -⟩ := register_spec h e
      have hrest := ih hstep
      rw [hderive, List.append_assoc] at hrest
      exact hrest

/-- And each endpoint is left with what was free when its turn came. -/
theorem registered_registerAll :
    ∀ (es : List Endpoint) {d : Draft} {past : List (String × List String)}, d.Holds past →
      ∀ (i : Nat) (e : Endpoint), es[i]? = some e →
        ∃ r, (d.registerAll es).2[i]? = some r ∧
          Registered (past ++ (es.take i).flatMap (Endpoint.claims d.derive)) d.derive e r := by
  intro es
  induction es with
  | nil => intro d past h i e he; simp at he
  | cons first rest ih =>
      intro d past h i e he
      obtain ⟨hstep, hderive, hregistered⟩ := register_spec h first
      cases i with
      | zero =>
          obtain rfl : first = e := by simpa using he
          exact ⟨(d.register first).2, rfl, by simpa using hregistered⟩
      | succ i =>
          obtain ⟨r, hr, hregisteredLater⟩ := ih hstep i e (by simpa using he)
          rw [hderive, List.append_assoc] at hregisteredLater
          exact ⟨r, by simpa [registerAll] using hr, hregisteredLater⟩

/-- What a run of registrations from the start comes to. -/
def run (settings : Settings) (derive : Endpoint → Option Constraints) (es : List Endpoint) :
    Draft × List Registration :=
  ((Draft.new settings).withDeriver derive).registerAll es

theorem holds_run (settings : Settings) (derive : Endpoint → Option Constraints)
    (es : List Endpoint) :
    (run settings derive es).1.Holds (es.flatMap (Endpoint.claims derive)) := by
  have h := holds_registerAll es (holds_new settings derive)
  rwa [List.nil_append] at h

theorem registered_run (settings : Settings) (derive : Endpoint → Option Constraints)
    {es : List Endpoint} {i : Nat} {e : Endpoint} (hi : es[i]? = some e) :
    ∃ r, (run settings derive es).2[i]? = some r ∧
      Registered ((es.take i).flatMap (Endpoint.claims derive)) derive e r := by
  obtain ⟨r, hr, hregistered⟩ := registered_registerAll es (holds_new settings derive) i e hi
  rw [List.nil_append] at hregistered
  exact ⟨r, hr, hregistered⟩

/-- An endpoint has a key for a method exactly when it was the first to claim it. -/
theorem Registered.keyFor_iff {derive : Endpoint → Option Constraints} {es : List Endpoint}
    {i : Nat} {e : Endpoint} {r : Registration} (hi : es[i]? = some e)
    (h : Registered ((es.take i).flatMap (Endpoint.claims derive)) derive e r)
    (method key : String) :
    r.keyFor method = some key ↔
      (∃ m ∈ e.methods, Text.sameIgnoringCase method m = true ∧ key = e.keyUnder derive m) ∧
        Endpoint.FirstClaims derive es i key := by
  rw [h.keyFor, Endpoint.firstClaims_iff derive hi]

/--
**The first claim of a key stands, over whole runs.**  The roster lists, of all claims, the
first on each key in the order in which they were made, and answers with it.  Each endpoint
keeps its rule and its constraints with what is derived laid over them, and has a key for a
method, in any case of letters, exactly when it lists the method and claimed the key first.
-/
theorem first_claim_stands (settings : Settings) (derive : Endpoint → Option Constraints)
    (es : List Endpoint) :
    let (d, registrations) := ((Draft.new settings).withDeriver derive).registerAll es
    let claims := es.flatMap (Endpoint.claims derive)
    d.finalize.roster.toList = firsts claims ∧
    (∀ key, d.finalize.required? key = claims.lookup key) ∧
    registrations.length = es.length ∧
    ∀ i e, es[i]? = some e → ∃ r, registrations[i]? = some r ∧
      r.rule = e.rule ∧
      r.constraints = e.constraintsUnder derive ∧
      Constraints.Overlaid e.constraints (derive e) r.constraints ∧
      ∀ method key, r.keyFor method = some key ↔
        (∃ m ∈ e.methods, Text.sameIgnoringCase method m = true ∧
          key = Endpoint.key m e.path r.constraints) ∧
        Endpoint.FirstClaims derive es i key := by
  have hholds := holds_run settings derive es
  refine ⟨hholds.toList, hholds.get?_eq, length_registerAll es _, fun i e hi => ?_⟩
  obtain ⟨r, hr, hregistered⟩ := registered_run settings derive hi
  refine ⟨r, hr, hregistered.rule, hregistered.constraints, ?_, fun method key => ?_⟩
  · rw [hregistered.constraints]
    exact Endpoint.overlaid_constraintsUnder derive e
  · rw [hregistered.constraints]
    exact hregistered.keyFor_iff hi method key

/-- Where nothing is ever derived, there might as well be no deriver. -/
example (settings : Settings) :
    (Draft.new settings).withDeriver (fun _ => none) = Draft.new settings := rfl

end Turnstile.Catalog.Draft
