/-
Decisions under way at the same time.

A decision is made in three moves: its call is looked up, its retriever answers, its policy
answers.  Between the moves of one decision anything may happen: moves of other decisions,
and reconfigurations of the roster, also by the very retriever that is being asked.  A
reconfiguration is a list of changes and happens at once.

`Since q roster p` is the invariant of one decision.  It says how far a decision can have come
whose call was looked up on `roster`, and it mentions no other roster: every further move keeps
it on whatever roster that move finds.  So a completed decision is the one that
`Checkpoint.decide` makes in one go on the roster of its look-up.

The last part takes the others away.  Of a run a decision sees its own moves and the changes to
its own key; run alone against just those it comes exactly as far.
-/
import Mathlib.Data.List.Induction
import Mathlib.Logic.Function.Basic
import Turnstile.Checkpoint
import Turnstile.Proofs.Roster

namespace Turnstile

/-! ### One decision, move by move -/

/-- A call with everything that is needed to decide on it. -/
structure Inquiry (κ : Type) where
  checkpoint : Checkpoint κ
  call : Call
  registration : Option Registration
  context : κ

/-- How far a decision has come. -/
inductive Stage where
  | waiting
  /-- The retriever is finding out what the caller holds. -/
  | retrieving (rule : Rule) (required : List String)
  /-- The policy is making up its mind. -/
  | judging (rule : Rule) (required held : List String)
  | decided (outcome : Except Fault Decision)

/-- The outcome, once there is one. -/
def Stage.outcome? : Stage → Option (Except Fault Decision)
  | decided outcome => some outcome
  | _ => none

theorem Stage.outcome?_eq_some_iff {stage : Stage} {outcome : Except Fault Decision} :
    stage.outcome? = some outcome ↔ stage = decided outcome := by
  cases stage <;> simp [outcome?]

/-- A decision under way: how far it has come, and who was asked so far. -/
structure Progress where
  stage : Stage := .waiting
  asked : List Consultation := []

inductive Move where
  | lookUp
  /-- The retriever answers. -/
  | retrieve
  /-- The policy answers. -/
  | judge
  deriving DecidableEq, Repr

namespace Inquiry

variable {κ : Type} (q : Inquiry κ)

/-- The decision in one go, on a roster that nobody else touches. -/
def decideOn (roster : Roster) : Ruling :=
  q.checkpoint.decide roster q.call q.registration q.context

/-- One move of the decision, if it is the move's turn.  Only looking up reads the roster. -/
def advance (roster : Roster) : Move → Progress → Option Progress
  | .lookUp, { stage := .waiting, asked } =>
    match Lookup.of roster q.call q.registration with
    | .pass reason => some { stage := .decided (.ok (.allow reason)), asked }
    | .consult rule required =>
      some { stage := .retrieving rule required, asked := asked ++ [.retriever] }
  | .retrieve, { stage := .retrieving rule required, asked } =>
    match q.checkpoint.retriever.retrieve q.context with
    | .error failure => some { stage := .decided (.error (.retrieval failure)), asked }
    | .ok held =>
      some
        { stage := .judging rule required held
          asked := asked ++ [.policy rule.policy.isSome required held] }
  | .judge, { stage := .judging rule required held, asked } =>
    some { stage := .decided (q.checkpoint.judge rule required held), asked }
  | _, _ => none

/-! ### What a look-up leads to -/

/-- How far a decision can have come since its call was looked up on a roster. -/
inductive Since (roster : Roster) : Progress → Prop where
  | retrieving {rule : Rule} {required : List String}
      (hlookup : Lookup.of roster q.call q.registration = .consult rule required) :
      Since roster { stage := .retrieving rule required, asked := [.retriever] }
  | judging {rule : Rule} {required held : List String}
      (hlookup : Lookup.of roster q.call q.registration = .consult rule required)
      (hretrieve : q.checkpoint.retriever.retrieve q.context = .ok held) :
      Since roster
        { stage := .judging rule required held
          asked := [.retriever, .policy rule.policy.isSome required held] }
  | decided : Since roster
      { stage := .decided (q.decideOn roster).outcome, asked := (q.decideOn roster).consulted }

variable {q} {roster : Roster} {p p' : Progress}

/-- A decision that moves by looking up was waiting, and has not come further than that. -/
theorem since_of_lookUp (h : q.advance roster .lookUp {} = some p) : q.Since roster p := by
  simp only [advance] at h
  cases hlookup : Lookup.of roster q.call q.registration with
  | pass reason =>
      rw [hlookup, Option.some.injEq] at h
      have hdecide : q.decideOn roster =
          { outcome := .ok (.allow reason), consulted := [], roster } := by
        rw [decideOn, Checkpoint.decide, hlookup, Checkpoint.settle]
      have hdecided : q.Since roster _ := .decided
      rwa [hdecide, h] at hdecided
  | consult rule required =>
      rw [hlookup, Option.some.injEq] at h
      exact h ▸ .retrieving hlookup

/-- A decision waits until it is looked up. -/
theorem eq_lookUp_of_advance {m : Move} (h : q.advance roster m {} = some p) : m = .lookUp := by
  cases m with
  | lookUp => rfl
  | retrieve => simp [advance] at h
  | judge => simp [advance] at h

/-- **A further move finds nothing new on the roster**, whichever it finds. -/
theorem Since.advance (h : q.Since roster p) {now : Roster} {m : Move}
    (hmove : q.advance now m p = some p') : q.Since roster p' ∧ m ≠ .lookUp := by
  cases h with
  | @retrieving rule required hlookup =>
      cases m with
      | lookUp => simp [Inquiry.advance] at hmove
      | judge => simp [Inquiry.advance] at hmove
      | retrieve =>
          refine ⟨?_, by decide⟩
          simp only [Inquiry.advance] at hmove
          cases hretrieve : q.checkpoint.retriever.retrieve q.context with
          | error failure =>
              rw [hretrieve, Option.some.injEq] at hmove
              have hdecide : (q.decideOn roster).outcome = .error (.retrieval failure) ∧
                  (q.decideOn roster).consulted = [.retriever] := by
                simp [decideOn, Checkpoint.decide, hlookup, Checkpoint.settle, hretrieve]
              have hdecided : q.Since roster _ := .decided
              rwa [hdecide.1, hdecide.2, hmove] at hdecided
          | ok held =>
              rw [hretrieve, Option.some.injEq] at hmove
              exact hmove ▸ .judging hlookup hretrieve
  | @judging rule required held hlookup hretrieve =>
      cases m with
      | lookUp => simp [Inquiry.advance] at hmove
      | retrieve => simp [Inquiry.advance] at hmove
      | judge =>
          refine ⟨?_, by decide⟩
          simp only [Inquiry.advance, Option.some.injEq] at hmove
          have hdecide : (q.decideOn roster).outcome = q.checkpoint.judge rule required held ∧
              (q.decideOn roster).consulted =
                [.retriever, .policy rule.policy.isSome required held] := by
            simp [decideOn, Checkpoint.decide, hlookup, Checkpoint.settle, hretrieve]
          have hdecided : q.Since roster _ := .decided
          rwa [hdecide.1, hdecide.2, hmove] at hdecided
  | decided => cases m <;> simp [Inquiry.advance] at hmove

/-- What is decided since a look-up is what is decided on its roster in one go. -/
theorem Since.eq_of_decided (h : q.Since roster p) {outcome : Except Fault Decision}
    (hdecided : p.stage = .decided outcome) :
    outcome = (q.decideOn roster).outcome ∧ p.asked = (q.decideOn roster).consulted := by
  cases h with
  | retrieving hlookup => cases hdecided
  | judging hlookup hretrieve => cases hdecided
  | decided =>
      obtain rfl := Stage.decided.inj hdecided
      exact ⟨rfl, rfl⟩

/-- A decision under way can go on, until it is made. -/
theorem exists_advance (q : Inquiry κ) (roster : Roster) {p : Progress}
    (h : ∀ outcome, p.stage ≠ .decided outcome) : ∃ m p', q.advance roster m p = some p' := by
  obtain ⟨stage, asked⟩ := p
  cases stage with
  | waiting =>
      refine ⟨.lookUp, ?_⟩
      simp only [advance]
      cases Lookup.of roster q.call q.registration <;> exact ⟨_, rfl⟩
  | retrieving rule required =>
      refine ⟨.retrieve, ?_⟩
      simp only [advance]
      cases q.checkpoint.retriever.retrieve q.context <;> exact ⟨_, rfl⟩
  | judging rule required held => exact ⟨.judge, _, rfl⟩
  | decided outcome => exact absurd rfl (h outcome)

end Inquiry

/-! ### Many decisions over one catalog -/

/-- Decisions under way, told apart by `ι`, and the catalog they share. -/
structure Traffic (ι : Type) where
  catalog : Catalog
  progress : ι → Progress

namespace Traffic

/-- What can happen next. -/
inductive Event (ι : Type) where
  /-- A decision moves. -/
  | move (i : ι) (m : Move)
  /-- The roster is changed, by the retriever of a decision or by anyone else. -/
  | reconfigure (retrieverOf : Option ι) (changes : List Roster.Change)
  deriving DecidableEq

/-- The reconfigurations of a run, in order. -/
def reconfigurations {ι : Type} (events : List (Event ι)) : List (List Roster.Change) :=
  events.filterMap fun
    | .move _ _ => none
    | .reconfigure _ changes => some changes

theorem reconfigurations_concat_move {ι : Type} (events : List (Event ι)) (i : ι) (m : Move) :
    reconfigurations (events ++ [.move i m]) = reconfigurations events := by
  simp [reconfigurations]

theorem reconfigurations_concat_reconfigure {ι : Type} (events : List (Event ι))
    (retrieverOf : Option ι) (changes : List Roster.Change) :
    reconfigurations (events ++ [.reconfigure retrieverOf changes]) =
      reconfigurations events ++ [changes] := by
  simp [reconfigurations]

/-- What a roster is after reconfigurations, each made as a whole. -/
def reconfigured (roster : Roster) (all : List (List Roster.Change)) : Roster :=
  all.foldl Roster.applyAll roster

/-- Nothing has been looked up yet. -/
def start {ι : Type} (catalog : Catalog) : Traffic ι := { catalog, progress := fun _ => {} }

/-- Whether the retriever of a decision is being asked. -/
def isRetrieving {ι : Type} (t : Traffic ι) (i : ι) : Bool :=
  match (t.progress i).stage with
  | .retrieving _ _ => true
  | _ => false

/-- The traffic with its roster changed. -/
def change {ι : Type} (t : Traffic ι) (changes : List Roster.Change) : Traffic ι :=
  { t with catalog := t.catalog.withRoster (t.catalog.roster.applyAll changes) }

variable {ι κ : Type} [DecidableEq ι] (inquiries : ι → Inquiry κ)

/-- The traffic after an event, if the event can happen. -/
def step (t : Traffic ι) : Event ι → Option (Traffic ι)
  | .move i m =>
    ((inquiries i).advance t.catalog.roster m (t.progress i)).map fun p =>
      { t with progress := Function.update t.progress i p }
  | .reconfigure none changes => some (t.change changes)
  | .reconfigure (some i) changes => if t.isRetrieving i then some (t.change changes) else none

/-- The traffic after events in order, if they can happen so. -/
def run (t : Traffic ι) : List (Event ι) → Option (Traffic ι)
  | [] => some t
  | event :: events => (step inquiries t event).bind (run · events)

variable {inquiries} {t t' u : Traffic ι} {events : List (Event ι)}

/-- What an event does. -/
theorem step_cases {event : Event ι} (h : step inquiries t event = some u) :
    (∃ i m p, event = .move i m ∧
      (inquiries i).advance t.catalog.roster m (t.progress i) = some p ∧
      u = { t with progress := Function.update t.progress i p }) ∨
    ∃ retrieverOf changes, event = .reconfigure retrieverOf changes ∧ u = t.change changes := by
  cases event with
  | move i m =>
      obtain ⟨p, hadvance, hu⟩ := Option.map_eq_some_iff.mp h
      exact .inl ⟨i, m, p, rfl, hadvance, hu.symm⟩
  | reconfigure retrieverOf changes =>
      refine .inr ⟨retrieverOf, changes, rfl, ?_⟩
      cases retrieverOf with
      | none => exact (Option.some.inj h).symm
      | some i =>
          obtain ⟨-, hu⟩ := Option.ite_none_right_eq_some.mp h
          exact (Option.some.inj hu).symm

theorem run_append (t : Traffic ι) (events more : List (Event ι)) :
    run inquiries t (events ++ more) = (run inquiries t events).bind (run inquiries · more) := by
  induction events generalizing t with
  | nil => rfl
  | cons event rest ih =>
      rw [List.cons_append, run, run, Option.bind_assoc]
      exact Option.bind_congr fun v _ => ih v

/-- A run of one more event. -/
theorem run_concat {event : Event ι} :
    run inquiries t (events ++ [event]) = some u ↔
      ∃ v, run inquiries t events = some v ∧ step inquiries v event = some u := by
  rw [run_append, Option.bind_eq_some_iff]
  simp [run]

/-! ### What a run keeps -/

/-- The catalog after a run is the one before with all reconfigurations made to its roster. -/
theorem catalog_run (catalog : Catalog) (h : run inquiries (start catalog) events = some t) :
    t.catalog = catalog.withRoster (reconfigured catalog.roster (reconfigurations events)) := by
  induction events using List.reverseRecOn generalizing t with
  | nil => exact (Option.some.inj h).symm ▸ rfl
  | append_singleton events event ih =>
      obtain ⟨v, hv, hstep⟩ := run_concat.mp h
      have hcatalog := ih hv
      obtain ⟨i, m, p, rfl, -, rfl⟩ | ⟨retrieverOf, changes, rfl, rfl⟩ := step_cases hstep
      · rw [reconfigurations_concat_move]
        exact hcatalog
      · rw [reconfigurations_concat_reconfigure, reconfigured, List.foldl_concat]
        simp only [change, hcatalog]
        rfl

/-- A decision was looked up once, at some point of the run, and has come as far as that
look-up leads. -/
structure LookedUp (inquiries : ι → Inquiry κ) (catalog : Catalog) (events : List (Event ι))
    (i : ι) (p : Progress) (before after : List (Event ι)) (v : Traffic ι) : Prop where
  split : events = before ++ .move i .lookUp :: after
  notMem_before : .move i .lookUp ∉ before
  notMem_after : .move i .lookUp ∉ after
  /-- What the look-up found. -/
  run_before : run inquiries (start catalog) before = some v
  since : (inquiries i).Since v.catalog.roster p

/-- In a run a decision still waits, or it has been looked up. -/
theorem waiting_or_lookedUp (catalog : Catalog)
    (h : run inquiries (start catalog) events = some t) (i : ι) :
    (t.progress i = {} ∧ .move i .lookUp ∉ events) ∨
      ∃ before after v, LookedUp inquiries catalog events i (t.progress i) before after v := by
  induction events using List.reverseRecOn generalizing t with
  | nil =>
      obtain rfl := Option.some.inj h
      exact .inl ⟨rfl, List.not_mem_nil⟩
  | append_singleton events event ih =>
      obtain ⟨v, hv, hstep⟩ := run_concat.mp h
      by_cases hown : ∃ m, event = .move i m
      · obtain ⟨m, rfl⟩ := hown
        obtain ⟨p, hadvance, rfl⟩ := Option.map_eq_some_iff.mp hstep
        simp only [Function.update_self]
        obtain ⟨hwaiting, hnever⟩ | ⟨before, after, w, hlooked⟩ := ih hv
        · rw [hwaiting] at hadvance
          obtain rfl := Inquiry.eq_lookUp_of_advance hadvance
          exact .inr ⟨events, [], v, rfl, hnever, List.not_mem_nil, hv,
            Inquiry.since_of_lookUp hadvance⟩
        · obtain ⟨hsince, hm⟩ := hlooked.since.advance hadvance
          refine .inr ⟨before, after ++ [.move i m], w, by rw [hlooked.split]; simp,
            hlooked.notMem_before, ?_, hlooked.run_before, hsince⟩
          simpa [hlooked.notMem_after] using hm.symm
      · -- Whatever else happens, the decision stays where it is.
        have hne : event ≠ .move i .lookUp := fun heq => hown ⟨_, heq⟩
        have hsame : t.progress i = v.progress i := by
          obtain ⟨j, m, p, rfl, -, rfl⟩ | ⟨_, _, -, rfl⟩ := step_cases hstep
          · have hij : i ≠ j := fun heq => hown ⟨m, by rw [heq]⟩
            exact Function.update_of_ne hij _ _
          · rfl
        rw [hsame]
        obtain ⟨hwaiting, hnever⟩ | ⟨before, after, w, hlooked⟩ := ih hv
        · refine .inl ⟨hwaiting, ?_⟩
          simpa [hnever] using hne.symm
        · refine .inr ⟨before, after ++ [event], w, by rw [hlooked.split]; simp,
            hlooked.notMem_before, ?_, hlooked.run_before, hlooked.since⟩
          simpa [hlooked.notMem_after] using hne.symm

/-! ### A decision without interruption -/

/-- **Made in one run, the moves of a decision are the decision.**  This holds of a retriever
that changes the roster by a list of changes, and then the roster is the decision's, too. -/
theorem exists_run_decided (t : Traffic ι) {i : ι} (hwaiting : t.progress i = {})
    {changes : List Roster.Change}
    (hrevise : ∀ roster, (inquiries i).checkpoint.retriever.revise (inquiries i).context roster =
      roster.applyAll changes) :
    ∃ events u, run inquiries t events = some u ∧
      (u.progress i).stage = .decided ((inquiries i).decideOn t.catalog.roster).outcome ∧
      (u.progress i).asked = ((inquiries i).decideOn t.catalog.roster).consulted ∧
      u.catalog.roster = ((inquiries i).decideOn t.catalog.roster).roster := by
  simp only [Inquiry.decideOn, Checkpoint.decide]
  cases hlookup : Lookup.of t.catalog.roster (inquiries i).call (inquiries i).registration with
  | pass reason =>
      refine ⟨[.move i .lookUp], _, by simp [run, step, hwaiting, Inquiry.advance, hlookup]; rfl,
        ?_⟩
      simp [Checkpoint.settle]
  | consult rule required =>
      cases hretrieve : (inquiries i).checkpoint.retriever.retrieve (inquiries i).context with
      | error failure =>
          refine ⟨[.move i .lookUp, .reconfigure (some i) changes, .move i .retrieve], _,
            by simp [run, step, hwaiting, Inquiry.advance, hlookup, hretrieve, isRetrieving,
              change]; rfl, ?_⟩
          simp [Checkpoint.settle, hretrieve, hrevise, Catalog.withRoster]
      | ok held =>
          refine ⟨[.move i .lookUp, .reconfigure (some i) changes, .move i .retrieve,
            .move i .judge], _,
            by simp [run, step, hwaiting, Inquiry.advance, hlookup, hretrieve, isRetrieving,
              change]; rfl, ?_⟩
          simp [Checkpoint.settle, hretrieve, hrevise, Catalog.withRoster]

/-! ### A decision alone -/

end Traffic

namespace Inquiry

variable {κ : Type} (q : Inquiry κ)

/-- The key a decision is about; without a registration that of the method and path alone. -/
def key : String := Lookup.key q.call (q.registration.getD {})

variable {q} {roster roster' : Roster}

/-- A look-up depends on the roster only through the entry of the key. -/
theorem lookup_congr (h : roster.get? q.key = roster'.get? q.key) :
    Lookup.of roster q.call q.registration = Lookup.of roster' q.call q.registration := by
  unfold key at h
  cases hr : q.registration with
  | none => rfl
  | some r =>
      rw [hr, Option.getD_some] at h
      simp only [Lookup.of, h]

theorem advance_congr (h : roster.get? q.key = roster'.get? q.key) (m : Move) (p : Progress) :
    q.advance roster m p = q.advance roster' m p := by
  obtain ⟨stage, asked⟩ := p
  cases m <;> cases stage <;> simp only [advance, lookup_congr h]

/-- **So does the decision.** -/
theorem decideOn_congr (h : roster.get? q.key = roster'.get? q.key) :
    (q.decideOn roster).outcome = (q.decideOn roster').outcome ∧
      (q.decideOn roster).consulted = (q.decideOn roster').consulted := by
  simp only [decideOn, Checkpoint.decide, lookup_congr h]
  cases Lookup.of roster' q.call q.registration with
  | pass reason => exact ⟨rfl, rfl⟩
  | consult rule required =>
      simp only [Checkpoint.settle]
      cases q.checkpoint.retriever.retrieve q.context <;> exact ⟨rfl, rfl⟩

end Inquiry

namespace Traffic

variable {ι κ : Type} [DecidableEq ι] {inquiries : ι → Inquiry κ} {t t' u : Traffic ι}
  {events : List (Event ι)}

/-- What a decision sees of an event: its own moves, and what changes its own key. -/
def Event.seenBy (i : ι) (key : String) : Event ι → List (Event ι)
  | .move j m => if j = i then [.move j m] else []
  | .reconfigure _ changes =>
    (changes.filter (Roster.Change.touches key)).map fun c => .reconfigure none [c]

/-- Two traffics look the same to a decision. -/
def Alike (i : ι) (key : String) (t u : Traffic ι) : Prop :=
  t.progress i = u.progress i ∧ t.catalog.roster.get? key = u.catalog.roster.get? key

theorem run_changes (changes : List Roster.Change) (u : Traffic ι) :
    run inquiries u (changes.map fun c => .reconfigure none [c]) = some (u.change changes) := by
  induction changes generalizing u with
  | nil => rfl
  | cons c rest ih => exact ih (u.change [c])

/-- What a decision sees of an event keeps two traffics alike. -/
theorem step_alike {i : ι} {event : Event ι} (h : step inquiries t event = some t')
    (halike : Alike i (inquiries i).key t u) :
    ∃ u', run inquiries u (event.seenBy i (inquiries i).key) = some u' ∧
      Alike i (inquiries i).key t' u' := by
  obtain ⟨hprogress, hentry⟩ := halike
  obtain ⟨j, m, p, rfl, hadvance, rfl⟩ | ⟨retrieverOf, changes, rfl, rfl⟩ := step_cases h
  · by_cases hij : j = i
    · subst hij
      rw [Inquiry.advance_congr hentry, hprogress] at hadvance
      refine ⟨{ u with progress := Function.update u.progress j p }, ?_, ?_, hentry⟩
      · simp [Event.seenBy, run, step, hadvance]
      · simp only [Function.update_self]
    · refine ⟨u, by simp [Event.seenBy, hij, run], ?_, hentry⟩
      exact (Function.update_of_ne (Ne.symm hij) _ _).trans hprogress
  · exact ⟨_, run_changes _ u, hprogress, Roster.get?_applyAll_filter _ changes hentry⟩

/-- **Alone against what it sees of a run, a decision comes as far as in the run.** -/
theorem run_alike {i : ι} :
    ∀ (events : List (Event ι)) {t t' u : Traffic ι}, run inquiries t events = some t' →
      Alike i (inquiries i).key t u →
      ∃ u', run inquiries u (events.flatMap (Event.seenBy i (inquiries i).key)) = some u' ∧
        Alike i (inquiries i).key t' u' := by
  intro events
  induction events with
  | nil =>
      intro t t' u h halike
      exact ⟨u, rfl, Option.some.inj h ▸ halike⟩
  | cons event rest ih =>
      intro t t' u h halike
      obtain ⟨v, hstep, hrest⟩ := Option.bind_eq_some_iff.mp h
      obtain ⟨w, hw, halike'⟩ := step_alike hstep halike
      obtain ⟨u', hu', hfinal⟩ := ih hrest halike'
      refine ⟨u', ?_, hfinal⟩
      rw [List.flatMap_cons, run_append, hw]
      exact hu'

/-- Runs of which a decision sees the same take it equally far. -/
theorem progress_eq_of_seen {i : ι} {events' : List (Event ι)} {catalog : Catalog}
    (h : run inquiries (start catalog) events = some t)
    (h' : run inquiries (start catalog) events' = some t')
    (hseen : events'.flatMap (Event.seenBy i (inquiries i).key) =
      events.flatMap (Event.seenBy i (inquiries i).key)) :
    t'.progress i = t.progress i := by
  have hself : Alike i (inquiries i).key (start catalog) (start catalog) := ⟨rfl, rfl⟩
  obtain ⟨u, hu, halike⟩ := run_alike events h hself
  obtain ⟨u', hu', halike'⟩ := run_alike events' h' hself
  rw [hseen, hu] at hu'
  obtain rfl := Option.some.inj hu'
  exact halike'.1.trans halike.1.symm

/-! ### Linearizability -/

/--
**Decisions happen at their look-ups.**  After any run the roster is what the reconfigurations
of the run made of it, each as a whole and in their order, and nothing else of the catalog has
changed.  A decision that was made in the run was looked up once, on the roster that the
reconfigurations before had left, and its outcome and whom it asked for what are those of the
decision made there in one go.  They depend on that roster only through the entry of the
decision's own key; and a run in which the decision makes the same moves among the same changes
to that key, whatever else happens when, takes it equally far.
-/
theorem linearizable (inquiries : ι → Inquiry κ) (catalog : Catalog)
    (hrun : run inquiries (start catalog) events = some t) :
    t.catalog.roster = reconfigured catalog.roster (reconfigurations events) ∧
    t.catalog.privileges = catalog.privileges ∧ t.catalog.hierarchy = catalog.hierarchy ∧
    ∀ i,
      (∀ outcome, (t.progress i).stage = .decided outcome →
        ∃ before after v, events = before ++ .move i .lookUp :: after ∧
          .move i .lookUp ∉ before ∧ .move i .lookUp ∉ after ∧
          run inquiries (start catalog) before = some v ∧
          v.catalog.roster = reconfigured catalog.roster (reconfigurations before) ∧
          outcome = ((inquiries i).decideOn v.catalog.roster).outcome ∧
          (t.progress i).asked = ((inquiries i).decideOn v.catalog.roster).consulted) ∧
      (∀ roster roster' : Roster,
        roster.get? (inquiries i).key = roster'.get? (inquiries i).key →
        ((inquiries i).decideOn roster).outcome = ((inquiries i).decideOn roster').outcome ∧
        ((inquiries i).decideOn roster).consulted = ((inquiries i).decideOn roster').consulted) ∧
      ∀ events' t', run inquiries (start catalog) events' = some t' →
        events'.flatMap (Event.seenBy i (inquiries i).key) =
          events.flatMap (Event.seenBy i (inquiries i).key) →
        t'.progress i = t.progress i := by
  have hcatalog := catalog_run catalog hrun
  refine ⟨by rw [hcatalog]; rfl, by rw [hcatalog]; rfl, by rw [hcatalog]; rfl, fun i => ⟨?_,
    fun roster roster' h => Inquiry.decideOn_congr h,
    fun events' t' h' hseen => progress_eq_of_seen hrun h' hseen⟩⟩
  intro outcome hdecided
  obtain ⟨hwaiting, -⟩ | ⟨before, after, v, hlooked⟩ := waiting_or_lookedUp catalog hrun i
  · rw [hwaiting] at hdecided
    cases hdecided
  · obtain ⟨houtcome, hasked⟩ := hlooked.since.eq_of_decided hdecided
    have hroster : v.catalog.roster = reconfigured catalog.roster (reconfigurations before) := by
      rw [catalog_run catalog hlooked.run_before]
      rfl
    exact ⟨before, after, v, hlooked.split, hlooked.notMem_before, hlooked.notMem_after,
      hlooked.run_before, hroster, houtcome, hasked⟩

/-- Two calls of one report, by a caller who may only write it. -/
def twice : Bool → Inquiry Unit := fun _ =>
  { checkpoint :=
      { retriever := { retrieve := fun _ => .ok ["report:write"] }
        policy := Policy.wildcard
        forbiddenMessage := "No Privilege" }
    call := { method := "GET", path := "/report" }
    registration := some { rule := some { resource := some "report" } }
    context := () }

/-- A catalog in which reading the report takes a privilege. -/
def readers : Catalog where
  privileges := ["report:*", "report:read"]
  hierarchy := [("report", ["*", "read"])]
  roster := (∅ : Roster).insert "GET:/report" ["report:read"]

/-- The retriever of the first call clears the roster, and the second is looked up after. -/
def overtaken : List (Event Bool) :=
  [ .move false .lookUp, .reconfigure (some false) [.clear], .move true .lookUp
  , .move false .retrieve, .move false .judge ]

/-- The first call is forbidden by what it read, the second passes for want of an entry. -/
theorem overtaken_decided :
    ∃ t, run twice (start readers) overtaken = some t ∧
      t.catalog.roster = reconfigured readers.roster [[.clear]] ∧
      (t.progress false).stage = .decided (.ok (.forbid 403 "No Privilege")) ∧
      (t.progress true).stage = .decided (.ok (.allow .noCatalogEntry)) := by
  have htest : (run twice (start readers) overtaken).any (fun t =>
      (t.progress false).stage.outcome? = some (.ok (.forbid 403 "No Privilege")) ∧
      (t.progress true).stage.outcome? = some (.ok (.allow .noCatalogEntry))) = true := by
    decide +kernel
  obtain ⟨t, hrun, hpassed⟩ := (Option.any_eq_true _ _).mp htest
  obtain ⟨hfirst, hsecond⟩ := of_decide_eq_true hpassed
  exact ⟨t, hrun, (linearizable twice readers hrun).1, Stage.outcome?_eq_some_iff.mp hfirst,
    Stage.outcome?_eq_some_iff.mp hsecond⟩

end Traffic

end Turnstile
