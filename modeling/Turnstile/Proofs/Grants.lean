/-
What a declared route grants under the wildcard policy.

The privileges of a rule are put together from its resource and its operations, with a colon in
between, and the policy takes them apart again at the first colon.  As long as the resource
holds no colon that is the one that was put in, so what the policy compares are the resource and
the operation as they were declared, whatever colons the operations hold.

A call that is checked against the route's own privileges therefore passes exactly when its
caller holds a lone asterisk or some privilege that meets the resource and an operation
(`Rule.MetBy`).  A lone asterisk among the requirements would let every call pass as well, but no
rule puts one there: whatever is required holds a colon.
-/
import Turnstile.Proofs.Checkpoint
import Turnstile.Proofs.Policies

namespace Turnstile

namespace Rule

open Privilege Policy

/-! ### The privileges of a rule -/

/-- A held privilege, cut at its first colon, is for the resource and for one of the operations;
none listed stand for all. -/
def MetBy (resource : String) (operations : Option (List String)) (held : String) : Prop :=
  (resourceOf held = resource ∨ resourceOf held = "*" ∨ resource = "*") ∧
    (operations.getD [] = [] ∨ "*" ∈ operations.getD [] ∨ restOf held = "*" ∨
      restOf held ∈ operations.getD [])

instance (resource : String) (operations : Option (List String)) (held : String) :
    Decidable (MetBy resource operations held) := inferInstanceAs (Decidable (_ ∧ _))

variable {r : Rule} {resource : String} {required held : List String}

theorem privilege_ne_asterisk (resource operation : String) :
    privilege resource operation ≠ "*" := by
  intro heq
  have hmem : ':' ∈ (privilege resource operation).toList := by simp [privilege]
  rw [heq] at hmem
  exact absurd hmem (by decide)

/-- What is required holds a colon, so it is never the lone asterisk. -/
theorem asterisk_notMem_required (h : r.required? = some required) : "*" ∉ required := by
  rw [required?_eq, Option.map_eq_some_iff] at h
  obtain ⟨resource, -, rfl⟩ := h
  intro hmem
  obtain ⟨operation, -, heq⟩ := List.mem_map.mp hmem
  exact privilege_ne_asterisk resource operation heq

/-- What was put together is taken apart at the same colon. -/
theorem agreeInHalves_privilege_iff (hcolon : ':' ∉ resource.toList) {operation h : String} :
    AgreeInHalves (privilege resource operation) h ↔
      Agree resource (resourceOf h) ∧ Agree operation (restOf h) := by
  obtain ⟨hresource, hrest⟩ := parts_append hcolon operation
  rw [AgreeInHalves, privilege, hresource, hrest]

theorem exists_agree_iff (r : Rule) (token : String) :
    (∃ operation ∈ r.normalizedOperations, Agree operation token) ↔
      r.operations.getD [] = [] ∨ "*" ∈ r.operations.getD [] ∨ token = "*" ∨
        token ∈ r.operations.getD [] := by
  unfold normalizedOperations
  rcases r.operations with _ | _ | ⟨first, more⟩
  · simp [Agree]
  · simp [Agree]
  · simp only [Option.getD_some, List.cons_ne_nil, false_or, Agree]
    constructor
    · intro hagree
      obtain ⟨operation, hmem, rfl | rfl | rfl⟩ := hagree
      · exact .inr (.inr hmem)
      · exact .inl hmem
      · exact .inr (.inl rfl)
    · intro htoken
      rcases htoken with hall | rfl | hmem
      · exact ⟨"*", hall, .inr (.inl rfl)⟩
      · exact ⟨first, List.mem_cons_self, .inr (.inr rfl)⟩
      · exact ⟨token, hmem, .inl rfl⟩

/-- A rule is met by the privileges that agree with one of its own. -/
theorem metBy_iff (hcolon : ':' ∉ resource.toList) {h : String} :
    MetBy resource r.operations h ↔
      ∃ operation ∈ r.normalizedOperations, AgreeInHalves (privilege resource operation) h := by
  have hagree : Agree resource (resourceOf h) ↔
      resourceOf h = resource ∨ resourceOf h = "*" ∨ resource = "*" := by
    rw [agree_comm, Agree]
  rw [MetBy, ← hagree, ← exists_agree_iff]
  constructor
  · intro hmet
    obtain ⟨hleft, operation, hmem, hright⟩ := hmet
    exact ⟨operation, hmem, (agreeInHalves_privilege_iff hcolon).mpr ⟨hleft, hright⟩⟩
  · intro hmet
    obtain ⟨operation, hmem, hhalves⟩ := hmet
    obtain ⟨hleft, hright⟩ := (agreeInHalves_privilege_iff hcolon).mp hhalves
    exact ⟨hleft, operation, hmem, hright⟩

/-- **The wildcard policy consents to a rule's privileges for a lone asterisk, or for one
privilege that meets the rule.** -/
theorem wildcardAllows_required_iff (hresource : r.resource = some resource)
    (hcolon : ':' ∉ resource.toList) (hrequired : r.required? = some required) :
    wildcardAllows required held = true ↔
      "*" ∈ held ∨ ∃ h ∈ held, MetBy resource r.operations h := by
  have hnone := asterisk_notMem_required hrequired
  rw [required?_eq, hresource, Option.map_some, Option.some.injEq] at hrequired
  rw [wildcardAllows_iff, iff_false_intro hnone, false_or]
  subst hrequired
  refine or_congr_right ⟨fun hpair => ?_, fun hmet => ?_⟩
  · obtain ⟨p, hp, h, hh, hhalves⟩ := hpair
    obtain ⟨operation, hmem, rfl⟩ := List.mem_map.mp hp
    exact ⟨h, hh, (metBy_iff hcolon).mpr ⟨operation, hmem, hhalves⟩⟩
  · obtain ⟨h, hh, hmet⟩ := hmet
    obtain ⟨operation, hmem, hhalves⟩ := (metBy_iff hcolon).mp hmet
    exact ⟨_, List.mem_map_of_mem hmem, h, hh, hhalves⟩

end Rule

/-! ### The roster of a run -/

namespace Catalog.Draft

/-- No key of a catalog requires the lone asterisk. -/
theorem asterisk_notMem_of_get? (settings : Settings) (derive : Endpoint → Option Constraints)
    (es : List Endpoint) {key : String} {required : List String}
    (hget : (run settings derive es).1.roster.get? key = some required) : "*" ∉ required := by
  rw [(holds_run settings derive es).get?_eq] at hget
  obtain ⟨before, after, hclaims, -⟩ := List.lookup_eq_some_iff.mp hget
  have hmem : (key, required) ∈ es.flatMap (Endpoint.claims derive) := by simp [hclaims]
  obtain ⟨e, -, hclaim⟩ := List.mem_flatMap.mp hmem
  unfold Endpoint.claims at hclaim
  cases hrequired : e.rule.bind Rule.required? with
  | none => simp [hrequired] at hclaim
  | some asked =>
      obtain ⟨rule, -, hbound⟩ := Option.bind_eq_some_iff.mp hrequired
      simp only [hrequired, List.mem_map, Prod.mk.injEq] at hclaim
      obtain ⟨-, -, -, rfl⟩ := hclaim
      exact Rule.asterisk_notMem_required hbound

end Catalog.Draft

namespace Checkpoint

open Catalog

variable {κ : Type} {c : Checkpoint κ} {context : κ} {rule : Rule} {required held : List String}
  {ruling : Ruling}

/-- A check under the wildcard policy passes the call or denies it, as the policy answers. -/
theorem outcome_of_checks_wildcard (hpolicy : rule.policy.getD c.policy = Policy.wildcard)
    (hheld : c.retriever.retrieve context = .ok held)
    (hchecks : c.Checks rule required context ruling) :
    ruling.consulted = [.retriever, .policy rule.policy.isSome required held] ∧
      ((Policy.wildcardAllows required held = true ∧
          ruling.outcome = .ok (.allow .checkPassed)) ∨
        (Policy.wildcardAllows required held = false ∧
          ruling.outcome = .ok (.forbid 403 c.forbiddenMessage))) := by
  unfold Checks at hchecks
  simp only [hheld, hpolicy, Policy.wildcard] at hchecks
  obtain ⟨hconsulted, houtcome⟩ := hchecks
  refine ⟨hconsulted, ?_⟩
  cases hanswer : Policy.wildcardAllows required held with
  | true =>
      rw [hanswer] at houtcome
      exact .inl ⟨rfl, houtcome⟩
  | false =>
      rw [hanswer] at houtcome
      exact .inr ⟨rfl, houtcome⟩

/--
**What a declared route grants.**  Let a route name a resource without a colon, be neither
skipped nor left to a policy of its own, and be the first to claim the key of a method.  At a
checkpoint with the wildcard policy a call of it passes exactly when the caller holds a lone
asterisk, or a privilege that, cut at its first colon, is for the resource and one of the
operations; otherwise it is denied.  What the policy is asked about are the route's own
privileges.  No lone asterisk is among them, nor among what any other key requires.
-/
theorem declaration_grants (settings : Settings) (derive : Endpoint → Option Constraints)
    (es : List Endpoint) {κ : Type} (c : Checkpoint κ) (context : κ) {held : List String} {i : Nat}
    {e : Endpoint} {rule : Rule} {resource m : String} {call : Call}
    (hpolicy : c.policy = Policy.wildcard) (hheld : c.retriever.retrieve context = .ok held)
    (hi : es[i]? = some e) (hrule : e.rule = some rule) (hresource : rule.resource = some resource)
    (hcolon : ':' ∉ resource.toList) (hskip : rule.skip = false) (hown : rule.policy = none)
    (hm : m ∈ e.methods) (hmethod : Text.sameIgnoringCase call.method m = true)
    (hfirst : Endpoint.FirstClaims derive es i
      (Endpoint.key m e.path (e.constraintsUnder derive))) :
    let (d, registrations) := ((Draft.new settings).withDeriver derive).registerAll es
    let ruling := c.decide d.finalize.roster call registrations[i]? context
    ((∃ reason, ruling.outcome = .ok (.allow reason)) ↔
      "*" ∈ held ∨ ∃ h ∈ held, Rule.MetBy resource rule.operations h) ∧
    (ruling.outcome = .ok (.allow .checkPassed) ∨
      ruling.outcome = .ok (.forbid 403 c.forbiddenMessage)) ∧
    (∃ required, rule.required? = some required ∧ "*" ∉ required ∧
      ruling.consulted = [.retriever, .policy false required held]) ∧
    ∀ key required, d.finalize.required? key = some required → "*" ∉ required := by
  obtain ⟨r, hr, hregistered⟩ := Draft.registered_run settings derive hi
  obtain ⟨required, hrequired, hget⟩ := Draft.get?_of_firstClaims settings hi hfirst
  have hasked : rule.required? = some required := by simpa [hrule] using hrequired
  have hkey : Lookup.key call r = Endpoint.key m e.path (e.constraintsUnder derive) :=
    Draft.key_of_firstClaims hi hregistered hm hmethod hfirst
  rw [← hkey] at hget
  have hchecks := c.checks_decide (hregistered.rule.trans hrule) hskip
    (Option.isSome_of_eq_some hresource) hget context
  have hwildcard : rule.policy.getD c.policy = Policy.wildcard := by
    rw [hown, hpolicy, Option.getD_none]
  obtain ⟨hconsulted, houtcome⟩ := outcome_of_checks_wildcard hwildcard hheld hchecks
  have hregistration : (((Draft.new settings).withDeriver derive).registerAll es).2[i]? = some r :=
    hr
  rw [hown, Option.isSome_none] at hconsulted
  simp only [hregistration]
  refine ⟨?_, houtcome.imp And.right And.right,
    ⟨required, hasked, Rule.asterisk_notMem_required hasked, hconsulted⟩,
    fun key required hrequires => Draft.asterisk_notMem_of_get? settings derive es hrequires⟩
  rw [← Rule.wildcardAllows_required_iff hresource hcolon hasked]
  rcases houtcome with ⟨hallows, hpasses⟩ | ⟨hallows, hdenied⟩
  · exact iff_of_true ⟨_, hpasses⟩ hallows
  · refine iff_of_false (fun hpasses => ?_) (by rw [hallows]; exact Bool.false_ne_true)
    obtain ⟨reason, hreason⟩ := hpasses
    have hboth := hdenied.symm.trans hreason
    cases hboth

/-- A report that is deleted for good, an operation with a colon of its own. -/
def disposal : Endpoint where
  methods := ["DELETE"]
  path := "/report"
  rule := some { resource := some "report", operations := some ["delete:forever", "archive"] }

/-- A checkpoint with the wildcard policy that takes callers at their word. -/
def trusting : Checkpoint (List String) where
  retriever := { retrieve := fun held => .ok held }
  policy := Policy.wildcard
  forbiddenMessage := "No Privilege"

/-- The ruling on a call that is to delete a report. -/
def onDisposal (held : List String) : Ruling :=
  let (d, registrations) := ((Draft.new {}).withDeriver fun _ => none).registerAll [disposal]
  trusting.decide d.finalize.roster { method := "delete", path := "/report" } registrations[0]? held

/-- Who may delete anything for good may delete reports for good; who may only delete may not. -/
theorem disposal_granted :
    (∃ reason, (onDisposal ["account:read", "*:delete:forever"]).outcome = .ok (.allow reason)) ∧
    ¬∃ reason, (onDisposal ["report:delete"]).outcome = .ok (.allow reason) := by
  have hgrants (held : List String) :
      (∃ reason, (onDisposal held).outcome = .ok (.allow reason)) ↔
        "*" ∈ held ∨ ∃ h ∈ held, Rule.MetBy "report" (some ["delete:forever", "archive"]) h :=
    (declaration_grants {} (fun _ => none) [disposal] trusting held (i := 0) (m := "DELETE") rfl
      rfl rfl rfl rfl (by decide) rfl rfl (by simp [disposal]) (by decide) (by decide)).1
  exact ⟨(hgrants _).mpr (by decide), (hgrants _).not.mpr (by decide)⟩

end Checkpoint

end Turnstile
