/-
What the call of a registered route is checked against.

A route that names a resource asks for a check, but the check is made only if something is
on the roster under the key of the call.  That key is the one the route was the first to
claim for the method; a route that came too late has none, and is looked up under the
method and the path alone.  So a late route is checked against what somebody else requires
there, and when nobody claimed the method and the path alone, it is not checked at all.
Without constraints the two keys are one, and that cannot happen.
-/
import Turnstile.Checkpoint
import Turnstile.Proofs.Registration

namespace Turnstile

namespace Ruling

/-- The call passes, and nobody was asked. -/
def Passes (ruling : Ruling) (reason : Reason) : Prop :=
  ruling.outcome = .ok (.allow reason) ∧ ruling.consulted = []

end Ruling

namespace Checkpoint

variable {κ : Type} (c : Checkpoint κ)

/-- The call is decided by one check: the retriever is asked, then, if it knows what the
caller holds, one policy, the route's own or else the checkpoint's, with what is required
and what is held.  The policy's answer is the decision, and a failure of either is a
fault. -/
def Checks (rule : Rule) (required : List String) (context : κ) (ruling : Ruling) : Prop :=
  match c.retriever.retrieve context with
  | .error failure =>
    ruling.consulted = [.retriever] ∧ ruling.outcome = .error (.retrieval failure)
  | .ok held =>
    ruling.consulted = [.retriever, .policy rule.policy.isSome required held] ∧
      ruling.outcome =
        match (rule.policy.getD c.policy) required held with
        | .error failure => .error (.policy failure)
        | .ok true => .ok (.allow .checkPassed)
        | .ok false => .ok (.forbid 403 c.forbiddenMessage)

theorem checks_settle (roster : Roster) (rule : Rule) (required : List String) (context : κ) :
    c.Checks rule required context (c.settle roster (.consult rule required) context) := by
  unfold Checks
  cases hretrieve : c.retriever.retrieve context with
  | error failure => exact ⟨by simp [settle, hretrieve], by simp [settle, hretrieve]⟩
  | ok held =>
      refine ⟨by simp [settle, hretrieve], ?_⟩
      rcases hanswer : (rule.policy.getD c.policy) required held with failure | (_ | _) <;>
        simp [settle, hretrieve, judge, policyFor, forbiddenStatus, hanswer]

/-! ### Looking a call up -/

variable {roster : Roster} {call : Call} {r : Registration} {rule : Rule}

/-- A rule that names a resource and is not skipped leaves it to the roster. -/
theorem lookup_of_declared (hrule : r.rule = some rule) (hskip : rule.skip = false)
    (hresource : rule.resource.isSome) :
    Lookup.of roster call (some r) =
      match roster.get? (Lookup.key call r) with
      | none => .pass .noCatalogEntry
      | some required => .consult rule required := by
  have hnone : rule.resource.isNone = false := by simpa using hresource
  cases hget : roster.get? (Lookup.key call r) <;> simp [Lookup.of, hrule, hskip, hnone, hget]

theorem checks_decide (hrule : r.rule = some rule) (hskip : rule.skip = false)
    (hresource : rule.resource.isSome) {required : List String}
    (hget : roster.get? (Lookup.key call r) = some required) (context : κ) :
    c.Checks rule required context (c.decide roster call (some r) context) := by
  rw [decide, lookup_of_declared hrule hskip hresource, hget]
  exact c.checks_settle roster rule required context

theorem passes_decide (hrule : r.rule = some rule) (hskip : rule.skip = false)
    (hresource : rule.resource.isSome) (hget : roster.get? (Lookup.key call r) = none)
    (context : κ) :
    (c.decide roster call (some r) context).Passes .noCatalogEntry := by
  rw [decide, lookup_of_declared hrule hskip hresource, hget]
  exact ⟨rfl, rfl⟩

end Checkpoint

/-! ### The key of a call -/

namespace Catalog.Draft

variable {derive : Endpoint → Option Constraints} {es : List Endpoint} {i : Nat} {e : Endpoint}
  {r : Registration} {call : Call} {m : String}

/-- The first to claim a key is looked up under it. -/
theorem key_of_firstClaims (hi : es[i]? = some e)
    (hr : Registered ((es.take i).flatMap (Endpoint.claims derive)) derive e r)
    (hm : m ∈ e.methods) (hmethod : Text.sameIgnoringCase call.method m = true)
    (h : Endpoint.FirstClaims derive es i (e.keyUnder derive m)) :
    Lookup.key call r = e.keyUnder derive m := by
  have hkey : r.keyFor call.method = some (e.keyUnder derive m) :=
    (hr.keyFor_iff hi _ _).mpr ⟨⟨m, hm, hmethod, rfl⟩, h⟩
  rw [Lookup.key, hkey, Option.getD_some]

/-- Who came too late is looked up under the method and the path alone. -/
theorem key_of_not_firstClaims (hi : es[i]? = some e)
    (hr : Registered ((es.take i).flatMap (Endpoint.claims derive)) derive e r)
    (hmethod : Text.sameIgnoringCase call.method m = true) (hpath : call.path = e.path)
    (h : ¬Endpoint.FirstClaims derive es i (e.keyUnder derive m)) :
    Lookup.key call r = Endpoint.key m e.path none := by
  have hupper := (Text.sameIgnoringCase_iff call.method m).mp hmethod
  have hnone : r.keyFor call.method = none := by
    refine Option.eq_none_iff_forall_ne_some.mpr fun key hkey => h ?_
    obtain ⟨⟨m', -, hmethod', rfl⟩, hfirst⟩ := (hr.keyFor_iff hi _ _).mp hkey
    have hupper' := (Text.sameIgnoringCase_iff call.method m').mp hmethod'
    have hsame : e.keyUnder derive m' = e.keyUnder derive m :=
      Endpoint.key_congr (hupper'.symm.trans hupper) _ _
    exact hsame ▸ hfirst
  rw [Lookup.key, hnone, Option.getD_none, hpath]
  exact Endpoint.key_congr hupper _ _

/-- On the roster of a run a key requires what its first claimant does. -/
theorem get?_of_firstClaims (settings : Settings) {key : String} (hi : es[i]? = some e)
    (h : Endpoint.FirstClaims derive es i key) :
    ∃ required, e.rule.bind Rule.required? = some required ∧
      (run settings derive es).1.roster.get? key = some required := by
  obtain ⟨hclaims, -⟩ := (Endpoint.firstClaims_iff derive hi).mp h
  obtain ⟨required, hrequired⟩ :=
    Option.isSome_iff_exists.mp ((Endpoint.claims_iff derive).mp hclaims).1
  refine ⟨required, hrequired, ?_⟩
  rw [(holds_run settings derive es).get?_eq]
  exact Endpoint.lookup_of_firstClaims derive hi h hrequired

/-- And a key that nobody claimed requires nothing. -/
theorem get?_of_unclaimed (settings : Settings) {key : String}
    (h : ∀ e ∈ es, ¬e.Claims derive key) : (run settings derive es).1.roster.get? key = none := by
  have hkey : key ∉ (es.flatMap (Endpoint.claims derive)).map (·.1) := by
    rw [Endpoint.mem_keys_flatMap]
    intro hexists
    obtain ⟨e, he, hclaims⟩ := hexists
    exact h e he hclaims
  rw [(holds_run settings derive es).get?_eq]
  exact Option.not_isSome_iff_eq_none.mp (mt isSome_lookup_iff.mp hkey)

end Catalog.Draft

namespace Checkpoint

open Catalog

/--
**Exactly when a declared route is open.**  A call of a route that names a resource and is
not skipped is checked against the route's own privileges when the route was the first to
claim the key of the method.  Otherwise it is checked against those of whoever first
claimed the method and the path alone, and when nobody did, it passes and nobody is asked.
A route without constraints is always checked.
-/
theorem decide_declared (settings : Settings) (derive : Endpoint → Option Constraints)
    (es : List Endpoint) {κ : Type} (c : Checkpoint κ) (context : κ) {i : Nat} {e : Endpoint}
    {rule : Rule} {m : String} {call : Call} (hi : es[i]? = some e) (hrule : e.rule = some rule)
    (hresource : rule.resource.isSome) (hskip : rule.skip = false) (hm : m ∈ e.methods)
    (hmethod : Text.sameIgnoringCase call.method m = true) (hpath : call.path = e.path) :
    let (d, registrations) := ((Draft.new settings).withDeriver derive).registerAll es
    let ruling := c.decide d.finalize.roster call registrations[i]? context
    let constrained := Endpoint.key m e.path (e.constraintsUnder derive)
    let plain := Endpoint.key m e.path none
    (Endpoint.FirstClaims derive es i constrained →
      ∃ required, rule.required? = some required ∧ c.Checks rule required context ruling) ∧
    (¬Endpoint.FirstClaims derive es i constrained → (∃ e' ∈ es, e'.Claims derive plain) →
      ∃ j e' required, es[j]? = some e' ∧ Endpoint.FirstClaims derive es j plain ∧
        e'.rule.bind Rule.required? = some required ∧
        c.Checks rule required context ruling) ∧
    (¬Endpoint.FirstClaims derive es i constrained → (∀ e' ∈ es, ¬e'.Claims derive plain) →
      ruling.Passes .noCatalogEntry) ∧
    (e.constraintsUnder derive = none →
      ∃ required, c.Checks rule required context ruling) := by
  obtain ⟨r, hr, hregistered⟩ := Draft.registered_run settings derive hi
  have hruleKept : r.rule = some rule := hregistered.rule.trans hrule
  have hown : Endpoint.FirstClaims derive es i (e.keyUnder derive m) →
      ∃ required, rule.required? = some required ∧ c.Checks rule required context
        (c.decide (Draft.run settings derive es).1.roster call (some r) context) := by
    intro hfirst
    obtain ⟨required, hrequired, hget⟩ := Draft.get?_of_firstClaims settings hi hfirst
    rw [← Draft.key_of_firstClaims hi hregistered hm hmethod hfirst] at hget
    exact ⟨required, by simpa [hrule] using hrequired,
      c.checks_decide hruleKept hskip hresource hget context⟩
  have hother : ¬Endpoint.FirstClaims derive es i (e.keyUnder derive m) →
      (∃ e' ∈ es, e'.Claims derive (Endpoint.key m e.path none)) →
      ∃ j e' required, es[j]? = some e' ∧
        Endpoint.FirstClaims derive es j (Endpoint.key m e.path none) ∧
        e'.rule.bind Rule.required? = some required ∧ c.Checks rule required context
          (c.decide (Draft.run settings derive es).1.roster call (some r) context) := by
    intro hlate hclaimed
    obtain ⟨j, hfirst⟩ := Endpoint.exists_firstClaims derive hclaimed
    obtain ⟨e', hj, -⟩ := hfirst.1
    obtain ⟨required, hrequired, hget⟩ := Draft.get?_of_firstClaims settings hj hfirst
    rw [← Draft.key_of_not_firstClaims hi hregistered hmethod hpath hlate] at hget
    exact ⟨j, e', required, hj, hfirst, hrequired,
      c.checks_decide hruleKept hskip hresource hget context⟩
  have hregistration : (((Draft.new settings).withDeriver derive).registerAll es).2[i]? = some r :=
    hr
  simp only [hregistration]
  refine ⟨hown, hother, fun hlate hfree => ?_, fun hplain => ?_⟩
  · have hget := Draft.get?_of_unclaimed settings hfree
    rw [← Draft.key_of_not_firstClaims hi hregistered hmethod hpath hlate] at hget
    exact passes_decide c hruleKept hskip hresource hget context
  · -- Without constraints the key of the call is the one the route itself claims.
    by_cases hfirst : Endpoint.FirstClaims derive es i (e.keyUnder derive m)
    · obtain ⟨required, -, hchecks⟩ := hown hfirst
      exact ⟨required, hchecks⟩
    · have hclaims : e.Claims derive (Endpoint.key m e.path none) := by
        refine (Endpoint.claims_iff derive).mpr ⟨?_, m, hm, by rw [Endpoint.keyUnder, hplain]⟩
        simpa [hrule, Rule.required?] using hresource
      obtain ⟨_, _, required, -, -, -, hchecks⟩ :=
        hother hfirst ⟨e, List.mem_of_getElem? hi, hclaims⟩
      exact ⟨required, hchecks⟩

/-- A version of a report, told from others by a constraint. -/
def variant : Endpoint where
  methods := ["GET"]
  path := "/report"
  constraints := some { writes := [("version", .string "2")] }
  rule := some { resource := some "report" }

/-- A checkpoint whose callers hold nothing. -/
def barred : Checkpoint Unit where
  retriever := { retrieve := fun _ => .ok [] }
  policy := Policy.wildcard
  forbiddenMessage := "No Privilege"

/-- A constrained route that is registered twice is open the second time. -/
theorem variant_again_passes :
    (barred.decide
      (((Draft.new {}).withDeriver fun _ => none).registerAll [variant, variant]).1.finalize.roster
      { method := "get", path := "/report" }
      (((Draft.new {}).withDeriver fun _ => none).registerAll [variant, variant]).2[1]?
      ()).Passes .noCatalogEntry :=
  (decide_declared {} (fun _ => none) [variant, variant] barred () (i := 1) (m := "GET") rfl rfl
    rfl rfl (by simp [variant]) (by decide) rfl).2.2.1 (by decide) (by decide)

end Checkpoint

end Turnstile
