/-
A checkpoint that was set up at all is fail-closed.

A setup is a list of steps, and of several steps about the same thing the last one counts.
What comes of it has a retriever and a policy or is not a checkpoint.

A decision then is one of two.  There are four reasons to pass a call unasked; the first of
them that is given decides, and nobody is asked.  When none is given something is required
on the roster, and only the policy's consent lets the call through: what the retriever or
the policy fails with is a fault of the decision.  The four reasons are said here of what
they are about, each without regard to the others; the order in which they count is that of
the list `Reason.unasked`.
-/
import Turnstile.Proofs.Checkpoint

namespace Turnstile

namespace Checkpoint.Setup

variable {κ : Type}

/-! ### Steps of a setup -/

/-- What can be done while a checkpoint is set up. -/
inductive Step (κ : Type) where
  | retriever (retriever : Retriever κ)
  | policy (policy : Policy)
  | message (text : String)
  | settings (settings : Settings)

namespace Step

/-- The retriever that a step installs. -/
def retriever? : Step κ → Option (Retriever κ)
  | retriever r => some r
  | _ => none

/-- The policy that a step installs. -/
def policy? : Step κ → Option Policy
  | policy p => some p
  | _ => none

/-- The message that a step installs. -/
def message? : Step κ → Option String
  | message text => some text
  | settings s => some s.forbiddenMessage
  | _ => none

theorem isSome_retriever?_iff (step : Step κ) :
    step.retriever?.isSome ↔ ∃ r, step = retriever r := by
  cases step <;> simp [retriever?]

theorem isSome_policy?_iff (step : Step κ) : step.policy?.isSome ↔ ∃ p, step = policy p := by
  cases step <;> simp [policy?]

end Step

/-- The setup after one more step. -/
def take (s : Setup κ) : Step κ → Setup κ
  | .retriever r => s.withRetriever r
  | .policy p => s.withPolicy p
  | .message text => s.withMessage text
  | .settings settings => s.withSettings settings

/-- The setup after steps from the start. -/
def after (steps : List (Step κ)) : Setup κ := steps.foldl take {}

/-! ### The last step about a thing counts -/

/-- If every step leaves in a field what it installs there, or else what was there before,
then a run of steps leaves what the last of them installed. -/
theorem foldl_take {α : Type} {f : Setup κ → Option α} {install : Step κ → Option α}
    (hstep : ∀ s step, f (s.take step) = (install step).or (f s)) :
    ∀ (steps : List (Step κ)) (s : Setup κ),
      f (steps.foldl take s) = (steps.filterMap install).getLast?.or (f s) := by
  intro steps
  induction steps with
  | nil => intro s; rfl
  | cons step rest ih =>
      intro s
      rw [List.foldl_cons, ih, hstep]
      cases hinstall : install step with
      | none => rw [List.filterMap_cons_none hinstall, Option.none_or]
      | some a =>
          rw [List.filterMap_cons_some hinstall, List.getLast?_cons, Option.some_or]
          cases (rest.filterMap install).getLast? <;> rfl

theorem retriever_after (steps : List (Step κ)) :
    (after steps).retriever = (steps.filterMap Step.retriever?).getLast? := by
  refine (foldl_take (f := Setup.retriever) (fun s step => ?_) steps {}).trans Option.or_none
  cases step <;> rfl

theorem policy_after (steps : List (Step κ)) :
    (after steps).policy = (steps.filterMap Step.policy?).getLast? := by
  refine (foldl_take (f := Setup.policy) (fun s step => ?_) steps {}).trans Option.or_none
  cases step <;> rfl

/-- Without a message of its own a checkpoint has the one of the settings as they come. -/
theorem forbiddenMessage_after (steps : List (Step κ)) :
    (after steps).forbiddenMessage =
      (steps.filterMap Step.message?).getLast?.getD "No Privilege" := by
  have hkept : some (after steps).forbiddenMessage =
      (steps.filterMap Step.message?).getLast?.or (some "No Privilege") := by
    refine foldl_take (f := fun s => some s.forbiddenMessage) (fun s step => ?_) steps {}
    cases step <;> rfl
  cases hlast : (steps.filterMap Step.message?).getLast? with
  | none => simpa [hlast] using hkept
  | some text => simpa [hlast] using hkept

theorem isSome_getLast?_filterMap {α β : Type} (f : α → Option β) (xs : List α) :
    (xs.filterMap f).getLast?.isSome ↔ ∃ x ∈ xs, (f x).isSome := by
  rw [List.getLast?_isSome, ne_eq, List.filterMap_eq_nil_iff]
  simp [Option.isSome_iff_ne_none]

theorem isSome_retriever_after_iff (steps : List (Step κ)) :
    (after steps).retriever.isSome ↔ ∃ r, .retriever r ∈ steps := by
  rw [retriever_after, isSome_getLast?_filterMap]
  simp only [Step.isSome_retriever?_iff]
  aesop

theorem isSome_policy_after_iff (steps : List (Step κ)) :
    (after steps).policy.isSome ↔ ∃ p, .policy p ∈ steps := by
  rw [policy_after, isSome_getLast?_filterMap]
  simp only [Step.isSome_policy?_iff]
  aesop

/-! ### What is built -/

theorem build_eq_ok_iff {s : Setup κ} {c : Checkpoint κ} :
    s.build = .ok c ↔ s.retriever = some c.retriever ∧ s.policy = some c.policy ∧
      s.forbiddenMessage = c.forbiddenMessage := by
  obtain ⟨retriever, policy, message⟩ := s
  obtain ⟨r, p, text⟩ := c
  cases retriever <;> cases policy <;> simp [build]

theorem build_of_retriever_none {s : Setup κ} (h : s.retriever = none) :
    s.build = .error (.missing .retriever) := by
  simp [build, h]

theorem build_of_policy_none {s : Setup κ} (hretriever : s.retriever.isSome)
    (hpolicy : s.policy = none) : s.build = .error (.missing .policy) := by
  obtain ⟨r, hr⟩ := Option.isSome_iff_exists.mp hretriever
  simp [build, hr, hpolicy]

theorem exists_build_iff {s : Setup κ} :
    (∃ c, s.build = .ok c) ↔ s.retriever.isSome ∧ s.policy.isSome := by
  obtain ⟨retriever, policy, message⟩ := s
  cases retriever <;> cases policy <;> simp [build]

end Checkpoint.Setup

/-! ### Reasons to pass a call unasked -/

namespace Reason

/-- Whether a reason is given to pass a call unasked. -/
def isGiven (roster : Roster) (call : Call) (registration : Option Registration) : Reason → Bool
  | noDeclaration => (registration.bind (·.rule)).isNone
  | skipped => (registration.bind (·.rule)).any (·.skip)
  | noResource => (registration.bind (·.rule)).any (·.resource.isNone)
  | noCatalogEntry => registration.any fun r =>
      (roster.get? ((r.keyFor call.method).getD (Endpoint.key call.method call.path none))).isNone
  | checkPassed => false

/-- The reasons for which nobody is asked, in the order in which they count. -/
def unasked : List Reason := [noDeclaration, skipped, noResource, noCatalogEntry]

/-- The first reason that is given to pass a call unasked. -/
def first? (roster : Roster) (call : Call) (registration : Option Registration) : Option Reason :=
  unasked.find? (isGiven roster call registration)

end Reason

namespace Lookup

/-- Looking a call up finds the first reason that is given; when there is none, something is
required of the call. -/
theorem of_cases (roster : Roster) (call : Call) (registration : Option Registration) :
    (∃ reason, Reason.first? roster call registration = some reason ∧
      of roster call registration = .pass reason) ∨
    Reason.first? roster call registration = none ∧
      ∃ r rule required, registration = some r ∧ r.rule = some rule ∧
        roster.get? ((r.keyFor call.method).getD (Endpoint.key call.method call.path none)) =
          some required ∧
        of roster call registration = .consult rule required := by
  unfold Reason.first? Reason.unasked
  cases registration with
  | none => exact .inl ⟨.noDeclaration, rfl, rfl⟩
  | some r =>
      cases hrule : r.rule with
      | none => exact .inl ⟨.noDeclaration, by simp [Reason.isGiven, hrule], by simp [of, hrule]⟩
      | some rule =>
          cases hskip : rule.skip with
          | true =>
              exact .inl ⟨.skipped, by simp [Reason.isGiven, hrule, hskip],
                by simp [of, hrule, hskip]⟩
          | false =>
              cases hresource : rule.resource with
              | none =>
                  exact .inl ⟨.noResource, by simp [Reason.isGiven, hrule, hskip, hresource],
                    by simp [of, hrule, hskip, hresource]⟩
              | some resource =>
                  cases hget : roster.get? ((r.keyFor call.method).getD
                      (Endpoint.key call.method call.path none)) with
                  | none =>
                      exact .inl ⟨.noCatalogEntry,
                        by simp [Reason.isGiven, hrule, hskip, hresource, hget],
                        by simp [of, key, hrule, hskip, hresource, hget]⟩
                  | some required =>
                      refine .inr ⟨by simp [Reason.isGiven, hrule, hskip, hresource, hget],
                        r, rule, required, rfl, hrule, hget, ?_⟩
                      simp [of, key, hrule, hskip, hresource, hget]

end Lookup

namespace Checkpoint

variable {κ : Type} (c : Checkpoint κ) {roster : Roster} {call : Call}
  {registration : Option Registration} {rule : Rule} {required : List String} {context : κ}

/-! ### What the outcome tells -/

/-- The retriever knows what the caller holds, and this is what the policy that decides for the
rule then answers. -/
def Answers (rule : Rule) (required : List String) (context : κ)
    (answer : Except Failure Bool) : Prop :=
  ∃ held, c.retriever.retrieve context = .ok held ∧
    (rule.policy.getD c.policy) required held = answer

/-- The outcome of a check, read backwards: each is due to one answer only. -/
theorem Checks.outcome_iff {c : Checkpoint κ} {ruling : Ruling}
    (h : c.Checks rule required context ruling) :
    (ruling.outcome = .ok (.allow .checkPassed) ↔ c.Answers rule required context (.ok true)) ∧
    (ruling.outcome = .ok (.forbid 403 c.forbiddenMessage) ↔
      c.Answers rule required context (.ok false)) ∧
    (∀ failure, ruling.outcome = .error (.retrieval failure) ↔
      c.retriever.retrieve context = .error failure) ∧
    ∀ failure, ruling.outcome = .error (.policy failure) ↔
      c.Answers rule required context (.error failure) := by
  unfold Checks at h
  unfold Answers
  cases hretrieve : c.retriever.retrieve context with
  | error failure =>
      rw [hretrieve] at h
      simp [h.2]
  | ok held =>
      rw [hretrieve] at h
      rw [h.2]
      rcases hanswer : (rule.policy.getD c.policy) required held with failure | (_ | _) <;>
        simp [hanswer]

/-- Whatever comes of asking, the retriever has had its way with the roster. -/
theorem roster_settle (context : κ) :
    (c.settle roster (.consult rule required) context).roster =
      c.retriever.revise context roster := by
  simp only [settle]
  cases c.retriever.retrieve context <;> rfl

/-- **A call passes unasked for the first reason that is given.** -/
theorem decide_of_first? {reason : Reason}
    (h : Reason.first? roster call registration = some reason) (context : κ) :
    c.decide roster call registration context =
      { outcome := .ok (.allow reason), consulted := [], roster } := by
  obtain ⟨found, hfound, hlookup⟩ | ⟨hnone, -⟩ := Lookup.of_cases roster call registration
  · obtain rfl : found = reason := Option.some.inj (hfound.symm.trans h)
    rw [decide, hlookup, settle]
  · rw [hnone] at h
    cases h

/-- **When no reason is given, the call is checked.** -/
theorem decide_of_first?_eq_none (h : Reason.first? roster call registration = none)
    (context : κ) :
    ∃ r rule required, registration = some r ∧ r.rule = some rule ∧
      roster.get? ((r.keyFor call.method).getD (Endpoint.key call.method call.path none)) =
        some required ∧
      c.Checks rule required context (c.decide roster call registration context) ∧
      (c.decide roster call registration context).roster =
        c.retriever.revise context roster := by
  obtain ⟨reason, hreason, -⟩ | ⟨-, r, rule, required, hr, hrule, hget, hlookup⟩ :=
    Lookup.of_cases roster call registration
  · rw [hreason] at h
    cases h
  · refine ⟨r, rule, required, hr, hrule, hget, ?_, ?_⟩
    · rw [decide, hlookup]
      exact c.checks_settle roster rule required context
    · rw [decide, hlookup]
      exact c.roster_settle context

/--
**A checkpoint is fail-closed.**  A setup comes to a checkpoint exactly when it installs a
retriever and a policy; the retriever is missed first, and what is installed last counts.
The checkpoint then passes a call unasked for the first reason that is given, with the roster
as it was.  Otherwise the retriever is asked and then, if it knows what the caller holds, one
policy, the route's own or else the checkpoint's, with what the roster requires under the key
of the call.  The call is let through exactly when that policy consents, it is forbidden
exactly when the policy declines, and every failure is a fault.
-/
theorem fail_closed (steps : List (Setup.Step κ)) :
    let build := (Setup.after steps).build
    ((∃ c, build = .ok c) ↔
      (∃ r, Setup.Step.retriever r ∈ steps) ∧ ∃ p, Setup.Step.policy p ∈ steps) ∧
    ((¬∃ r, Setup.Step.retriever r ∈ steps) → build = .error (.missing .retriever)) ∧
    ((∃ r, Setup.Step.retriever r ∈ steps) → (¬∃ p, Setup.Step.policy p ∈ steps) →
      build = .error (.missing .policy)) ∧
    ∀ c, build = .ok c →
      (steps.filterMap Setup.Step.retriever?).getLast? = some c.retriever ∧
      (steps.filterMap Setup.Step.policy?).getLast? = some c.policy ∧
      c.forbiddenMessage = (steps.filterMap Setup.Step.message?).getLast?.getD "No Privilege" ∧
      ∀ (roster : Roster) (call : Call) (registration : Option Registration) (context : κ),
        let ruling := c.decide roster call registration context
        match Reason.first? roster call registration with
        | some reason => ruling = { outcome := .ok (.allow reason), consulted := [], roster }
        | none => ∃ r rule required, registration = some r ∧ r.rule = some rule ∧
            roster.get? ((r.keyFor call.method).getD (Endpoint.key call.method call.path none)) =
              some required ∧
            ruling.roster = c.retriever.revise context roster ∧
            (∀ failure, c.retriever.retrieve context = .error failure →
              ruling.consulted = [.retriever]) ∧
            (∀ held, c.retriever.retrieve context = .ok held →
              ruling.consulted = [.retriever, .policy rule.policy.isSome required held]) ∧
            (ruling.outcome = .ok (.allow .checkPassed) ↔
              c.Answers rule required context (.ok true)) ∧
            (ruling.outcome = .ok (.forbid 403 c.forbiddenMessage) ↔
              c.Answers rule required context (.ok false)) ∧
            (∀ failure, ruling.outcome = .error (.retrieval failure) ↔
              c.retriever.retrieve context = .error failure) ∧
            ∀ failure, ruling.outcome = .error (.policy failure) ↔
              c.Answers rule required context (.error failure) := by
  refine ⟨?_, fun hretriever => ?_, fun hretriever hpolicy => ?_, fun c hbuild => ?_⟩
  · rw [Setup.exists_build_iff, Setup.isSome_retriever_after_iff, Setup.isSome_policy_after_iff]
  · rw [← Setup.isSome_retriever_after_iff, Option.not_isSome_iff_eq_none] at hretriever
    exact Setup.build_of_retriever_none hretriever
  · rw [← Setup.isSome_retriever_after_iff] at hretriever
    rw [← Setup.isSome_policy_after_iff, Option.not_isSome_iff_eq_none] at hpolicy
    exact Setup.build_of_policy_none hretriever hpolicy
  · obtain ⟨hretriever, hpolicy, hmessage⟩ := Setup.build_eq_ok_iff.mp hbuild
    rw [Setup.retriever_after] at hretriever
    rw [Setup.policy_after] at hpolicy
    refine ⟨hretriever, hpolicy, hmessage ▸ Setup.forbiddenMessage_after steps,
      fun roster call registration context => ?_⟩
    cases hfirst : Reason.first? roster call registration with
    | some reason => exact c.decide_of_first? hfirst context
    | none =>
        obtain ⟨r, rule, required, hr, hrule, hget, hchecks, hroster⟩ :=
          c.decide_of_first?_eq_none hfirst context
        have hconsulted := hchecks
        unfold Checks at hconsulted
        refine ⟨r, rule, required, hr, hrule, hget, hroster, fun failure hretrieve => ?_,
          fun held hretrieve => ?_, hchecks.outcome_iff⟩
        · rw [hretrieve] at hconsulted
          exact hconsulted.1
        · rw [hretrieve] at hconsulted
          exact hconsulted.1

/-- Two retrievers one after the other, a message after the settings. -/
def resetup : List (Setup.Step Unit) :=
  [ .message "Wait", .retriever { retrieve := fun _ => .ok ["*:*:*"] }, .policy Policy.wildcard
  , .settings { forbiddenMessage := "Leave" }, .policy Policy.bestMatch
  , .retriever { retrieve := fun _ => .ok ["report:write"] }, .message "Stop" ]

/-- A hand-made registration without keys. -/
def keyless : Registration := { rule := some { resource := some "report" } }

/-- A stranger is stopped with the last message, for what is filed under method and path. -/
theorem keyless_forbidden :
    ∃ c, (Setup.after resetup).build = .ok c ∧
      Reason.first? ((∅ : Roster).insert "GET:/report" ["report:read"])
        { method := "get", path := "/report" } (some keyless) = none ∧
      (c.decide ((∅ : Roster).insert "GET:/report" ["report:read"])
        { method := "get", path := "/report" } (some keyless) ()).outcome =
        .ok (.forbid 403 "Stop") := by
  refine ⟨_, rfl, by decide +kernel, ?_⟩
  have hdecide := ((fail_closed resetup).2.2.2 _ rfl).2.2.2
    ((∅ : Roster).insert "GET:/report" ["report:read"])
    { method := "get", path := "/report" } (some keyless) ()
  have hfirst : Reason.first? ((∅ : Roster).insert "GET:/report" ["report:read"])
      { method := "get", path := "/report" } (some keyless) = none := by decide +kernel
  rw [hfirst] at hdecide
  obtain ⟨r, rule, required, hr, hrule, hget, -, -, -, -, hforbid, -⟩ := hdecide
  obtain rfl : keyless = r := Option.some.inj hr
  obtain rfl : ({ resource := some "report" } : Rule) = rule := Option.some.inj hrule
  have hrequired : ((∅ : Roster).insert "GET:/report" ["report:read"]).get? "GET:/report" =
      some ["report:read"] := by decide +kernel
  obtain rfl : ["report:read"] = required := Option.some.inj (hrequired.symm.trans hget)
  exact hforbid.mpr ⟨["report:write"], rfl, by decide +kernel⟩

end Checkpoint

end Turnstile
