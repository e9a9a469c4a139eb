/-
The three books of a catalog tell of the same registrations.

A listed method of an endpoint with a resource is recorded when it was the first to claim its
key.  Recording it is the only thing that changes a catalog, and it changes all three books at
once: the roster gets an entry, the resource gets operations and the list of privileges gets
what the entry requires, behind the privilege for all operations.  So each book can be read off
the records, in their order; `Keeps` is that invariant.  Listing everything once at the end
loses nothing, and what the hierarchy knows of is, beside the additional privileges, exactly
what is listed.
-/
import Turnstile.Proofs.Registration

namespace Turnstile

/-- What is recorded of a method of an endpoint. -/
structure Record where
  key : String
  resource : String
  operations : List String

namespace Record

/-- The privileges that are required under the key. -/
def required (r : Record) : List String :=
  r.operations.map fun operation => r.resource ++ ":" ++ operation

/-- The entry on the roster. -/
def entry (r : Record) : String × List String := (r.key, r.required)

/-- The privileges that are listed. -/
def listed (r : Record) : List String := (r.resource ++ ":" ++ "*") :: r.required

/-- Of the records of one key, the first. -/
def firsts (records : List Record) : List Record :=
  records.eraseDupsBy fun a b => a.key == b.key

/-- The operations known of a resource, if any record is about it. -/
def known (records : List Record) (resource : String) : Option (List String) :=
  if ∃ r ∈ records, r.resource = resource then
    some ("*" :: (records.filter (·.resource = resource)).flatMap (·.operations))
  else none

theorem firsts_concat (records : List Record) (r : Record) :
    firsts (records ++ [r]) =
      if r.key ∈ records.map key then firsts records else firsts records ++ [r] :=
  eraseDupsBy_concat key r records

/-- A further record adds to what is known of its own resource. -/
theorem known_concat (records : List Record) (r : Record) (resource : String) :
    known (records ++ [r]) resource =
      if r.resource = resource then
        some ((known records resource).getD ["*"] ++ r.operations)
      else known records resource := by
  by_cases h : r.resource = resource
  · have hsome : ∃ r' ∈ records ++ [r], r'.resource = resource := ⟨r, by simp, h⟩
    rw [if_pos h, known, if_pos hsome, List.filter_append, List.flatMap_append]
    by_cases hknown : ∃ r' ∈ records, r'.resource = resource
    · rw [known, if_pos hknown]
      simp [h]
    · have hnone : records.filter (·.resource = resource) = [] := by
        simpa [List.filter_eq_nil_iff] using hknown
      rw [known, if_neg hknown, hnone]
      simp [h]
  · have hiff : (∃ r' ∈ records ++ [r], r'.resource = resource) ↔
        ∃ r' ∈ records, r'.resource = resource := by
      simp [or_and_right, exists_or, h]
    rw [if_neg h, known, known, if_congr hiff rfl rfl, List.filter_append]
    simp [h]

end Record

namespace Endpoint

variable (derive : Endpoint → Option Constraints)

/-- The records that an endpoint asks for, method by method. -/
def records (e : Endpoint) : List Record :=
  match e.rule with
  | none => []
  | some rule =>
    match rule.resource with
    | none => []
    | some resource => e.methods.map fun method =>
        { key := e.keyUnder derive method, resource, operations := rule.normalizedOperations }

/-- The records of some endpoints: of each key, that of the method that claimed it first. -/
def recorded (es : List Endpoint) : List Record := Record.firsts (es.flatMap (records derive))

theorem records_of_none {e : Endpoint} (h : e.rule.bind (·.resource) = none) :
    e.records derive = [] := by
  unfold records
  cases hrule : e.rule with
  | none => rfl
  | some rule =>
      have hresource : rule.resource = none := by simpa [hrule] using h
      simp only [hresource]

theorem records_of_resource {e : Endpoint} {rule : Rule} {resource : String}
    (hrule : e.rule = some rule) (hresource : rule.resource = some resource) :
    e.records derive = e.methods.map fun method =>
      { key := e.keyUnder derive method, resource, operations := rule.normalizedOperations } := by
  simp only [records, hrule, hresource]

theorem map_entry_records (e : Endpoint) :
    (e.records derive).map Record.entry = e.claims derive := by
  unfold records claims
  cases hrule : e.rule with
  | none => rfl
  | some rule =>
      cases hresource : rule.resource with
      | none => simp [Rule.required?, hresource]
      | some resource =>
          simp [Rule.required?_eq, hresource, Record.entry, Record.required, Rule.privilege]

theorem map_entry_flatMap_records (es : List Endpoint) :
    (es.flatMap (records derive)).map Record.entry = es.flatMap (claims derive) := by
  simp only [List.map_flatMap, map_entry_records]

/-- The roster of some endpoints is what is recorded of them. -/
theorem map_entry_recorded (es : List Endpoint) :
    (recorded derive es).map Record.entry = firsts (es.flatMap (claims derive)) := by
  rw [← map_entry_flatMap_records]
  exact map_eraseDupsBy Record.key Prod.fst (fun _ => rfl) _

theorem operations_ne_nil {e : Endpoint} {r : Record} (h : r ∈ e.records derive) :
    r.operations ≠ [] := by
  unfold records at h
  split at h
  · simp at h
  · next rule _ =>
    split at h
    · simp at h
    · obtain ⟨method, -, rfl⟩ := List.mem_map.mp h
      unfold Rule.normalizedOperations
      split <;> simp

end Endpoint

namespace Catalog.Draft

variable {d : Draft} {additional : List String} {records : List Record}

/-- The books of a catalog are read off the records that were asked for. -/
structure Keeps (d : Draft) (additional : List String) (records : List Record) : Prop where
  holds : d.Holds (records.map Record.entry)
  privileges : d.privileges = additional ++ (Record.firsts records).flatMap Record.listed
  hierarchy : ∀ resource, d.hierarchy[resource]? = Record.known (Record.firsts records) resource

theorem keeps_new (settings : Settings) (derive : Endpoint → Option Constraints) :
    ((Draft.new settings).withDeriver derive).Keeps settings.additionalPrivileges [] where
  holds := holds_new settings derive
  privileges := (List.append_nil _).symm
  hierarchy resource := by
    show (∅ : Std.TreeMap String (List String))[resource]? = _
    simp [Record.known, Record.firsts]

theorem Keeps.contains_iff (h : d.Keeps additional records) (key : String) :
    d.roster.contains key = true ↔ key ∈ records.map Record.key := by
  rw [h.holds.contains_iff, List.map_map]
  rfl

/-! ### One method -/

theorem keeps_claim (h : d.Keeps additional records) (resource : String)
    (operations : List String) (e : Endpoint) (r : Registration) (method : String) :
    (claim resource operations e (d, r) method).1.Keeps additional
      (records ++ [{ key := Endpoint.key method e.path e.constraints, resource, operations }]) := by
  have hholds := holds_claim h.holds resource operations e r method
  -- Roster and records agree on which keys are taken, so all books grow or none does.
  refine ⟨?_, ?_, ?_⟩
  · rw [List.map_append]
    exact hholds
  · simp only [claim]
    rw [Record.firsts_concat]
    by_cases hc : d.roster.contains (Endpoint.key method e.path e.constraints) = true
    · rw [if_pos hc, if_pos ((h.contains_iff _).mp hc), h.privileges]
    · rw [if_neg hc, if_neg (mt (h.contains_iff _).mpr hc), h.privileges, List.flatMap_append,
        List.append_assoc, List.flatMap_singleton]
      rfl
  · intro name
    simp only [claim]
    rw [Record.firsts_concat]
    by_cases hc : d.roster.contains (Endpoint.key method e.path e.constraints) = true
    · rw [if_pos hc, if_pos ((h.contains_iff _).mp hc), h.hierarchy]
    · rw [if_neg hc, if_neg (mt (h.contains_iff _).mpr hc), Record.known_concat,
        Std.TreeMap.getElem?_insert, Std.TreeMap.getD_eq_getD_getElem?, h.hierarchy, h.hierarchy]
      by_cases hname : resource = name
      · subst hname
        simp
      · simp [hname]

/-! ### One endpoint -/

theorem keeps_claims (resource : String) (operations : List String) (e : Endpoint) :
    ∀ (methods : List String) {d : Draft} {records : List Record} (r : Registration),
      d.Keeps additional records →
      (methods.foldl (claim resource operations e) (d, r)).1.Keeps additional
        (records ++ methods.map fun method =>
          { key := Endpoint.key method e.path e.constraints, resource, operations }) := by
  intro methods
  induction methods with
  | nil => intro d records r h; simpa using h
  | cons m rest ih =>
      intro d records r h
      have hstep := ih (claim resource operations e (d, r) m).2
        (keeps_claim h resource operations e r m)
      rw [List.append_assoc] at hstep
      exact hstep

theorem keeps_register (h : d.Keeps additional records) (e : Endpoint) :
    (d.register e).1.Keeps additional (records ++ e.records d.derive) := by
  rcases register_cases d e with ⟨hnone, hsame⟩ | ⟨rule, resource, hrule, hresource, hregister⟩
  · rw [hsame, Endpoint.records_of_none d.derive hnone, List.append_nil]
    exact h
  · rw [hregister, Endpoint.records_of_resource d.derive hrule hresource]
    exact keeps_claims resource rule.normalizedOperations
      { e with constraints := e.constraintsUnder d.derive } e.methods _ h

/-! ### Registrations that change nothing -/

theorem claims_of_contained (resource : String) (operations : List String) (e : Endpoint)
    (r : Registration) : ∀ methods : List String,
    (∀ method ∈ methods, d.roster.contains (Endpoint.key method e.path e.constraints) = true) →
      methods.foldl (claim resource operations e) (d, r) = (d, r) := by
  intro methods
  induction methods with
  | nil => intro _; rfl
  | cons m rest ih =>
      intro hcontained
      have hm : claim resource operations e (d, r) m = (d, r) := by
        simp only [claim, hcontained m (by simp), if_true]
      rw [List.foldl_cons, hm]
      exact ih fun method hmethod => hcontained method (by simp [hmethod])

/-- An endpoint that claims no new key leaves the catalog as it is, and gets no key. -/
theorem register_of_taken (h : d.Keeps additional records) {e : Endpoint}
    (htaken : e.rule.bind (·.resource) = none ∨ e.methods = [] ∨
      ∀ method ∈ e.methods, e.keyUnder d.derive method ∈ records.map Record.key) :
    d.register e = (d, { rule := e.rule, constraints := e.constraintsUnder d.derive }) := by
  rcases register_cases d e with ⟨-, hsame⟩ | ⟨rule, resource, hrule, hresource, hregister⟩
  · exact hsame
  · have hcontained : ∀ method ∈ e.methods,
        d.roster.contains (Endpoint.key method e.path (e.constraintsUnder d.derive)) = true := by
      intro method hmethod
      rcases htaken with hnone | hempty | hkeys
      · simp [hrule, hresource] at hnone
      · simp [hempty] at hmethod
      · exact (h.contains_iff _).mpr (hkeys method hmethod)
    rw [hregister, claims_of_contained _ _ _ _ _ hcontained]

/-! ### A whole run -/

theorem keeps_registerAll :
    ∀ (es : List Endpoint) {d : Draft} {records : List Record}, d.Keeps additional records →
      (d.registerAll es).1.Keeps additional
        (records ++ es.flatMap (Endpoint.records d.derive)) := by
  intro es
  induction es with
  | nil => intro d records h; simpa [registerAll] using h
  | cons e rest ih =>
      intro d records h
      have hrest := ih (keeps_register h e)
      rw [derive_register, List.append_assoc] at hrest
      exact hrest

theorem keeps_run (settings : Settings) (derive : Endpoint → Option Constraints)
    (es : List Endpoint) :
    (run settings derive es).1.Keeps settings.additionalPrivileges
      (es.flatMap (Endpoint.records derive)) := by
  have h := keeps_registerAll es (keeps_new settings derive)
  rwa [List.nil_append] at h

/-! ### The books, once registration has ended -/

namespace Keeps

/-- The hierarchy lists exactly the resources that are recorded, each with its operations. -/
theorem mem_hierarchy_iff (h : d.Keeps additional records) (resource : String)
    (operations : List String) :
    (resource, operations) ∈ d.finalize.hierarchy ↔
      ∃ known, Record.known (Record.firsts records) resource = some known ∧
        operations = known.eraseDups := by
  simp only [finalize, List.mem_map, Prod.exists, Prod.mk.injEq, ← h.hierarchy,
    Std.TreeMap.mem_toList_iff_getElem?_eq_some, distinct_eq_eraseDups]
  constructor
  · intro hmem
    obtain ⟨_, known, hknown, rfl, rfl⟩ := hmem
    exact ⟨known, hknown, rfl⟩
  · intro hmem
    obtain ⟨known, hknown, rfl⟩ := hmem
    exact ⟨resource, known, hknown, rfl, rfl⟩

end Keeps

theorem nodup_hierarchy (d : Draft) : (d.finalize.hierarchy.map (·.1)).Nodup := by
  have hnames : d.finalize.hierarchy.map (·.1) = d.hierarchy.toList.map (·.1) := by
    rw [finalize, List.map_map]
    rfl
  rw [hnames, List.Nodup, List.pairwise_map]
  refine Std.TreeMap.distinct_keys_toList.imp fun hdistinct heq => ?_
  exact hdistinct (Std.LawfulEqCmp.compare_eq_iff_eq.mpr heq)

/-- What is listed of some records is, resource by resource, what is known of them. -/
theorem mem_flatMap_listed_iff (records : List Record) (privilege : String) :
    privilege ∈ records.flatMap Record.listed ↔
      ∃ resource known, Record.known records resource = some known ∧
        ∃ operation ∈ known, privilege = resource ++ ":" ++ operation := by
  simp only [List.mem_flatMap, Record.known, Option.ite_none_right_eq_some, Option.some.injEq]
  constructor
  · intro h
    obtain ⟨r, hr, hlisted⟩ := h
    refine ⟨r.resource, _, ⟨⟨r, hr, rfl⟩, rfl⟩, ?_⟩
    rcases List.mem_cons.mp hlisted with rfl | hrequired
    · exact ⟨"*", by simp, rfl⟩
    · obtain ⟨operation, hoperation, rfl⟩ := List.mem_map.mp hrequired
      have hmem : operation ∈ (records.filter (·.resource = r.resource)).flatMap (·.operations) :=
        List.mem_flatMap.mpr ⟨r, by simpa using hr, hoperation⟩
      exact ⟨operation, List.mem_cons_of_mem _ hmem, rfl⟩
  · intro h
    obtain ⟨resource, _, ⟨⟨r, hr, hresource⟩, rfl⟩, operation, hoperation, rfl⟩ := h
    rcases List.mem_cons.mp hoperation with rfl | hmem
    · exact ⟨r, hr, hresource ▸ List.mem_cons_self⟩
    · obtain ⟨r', hr', hmem'⟩ := List.mem_flatMap.mp hmem
      obtain ⟨hr', hresource'⟩ := List.mem_filter.mp hr'
      rw [decide_eq_true_iff] at hresource'
      exact ⟨r', hr', List.mem_cons_of_mem _ (hresource' ▸ List.mem_map_of_mem hmem')⟩

namespace Keeps

theorem finalize_privileges (h : d.Keeps additional records) :
    d.finalize.privileges =
      (additional ++ (Record.firsts records).flatMap Record.listed).eraseDups := by
  rw [finalize, h.privileges, distinct_eq_eraseDups]

/-- As a set, the privileges are the additional ones and those that the hierarchy spells out. -/
theorem mem_privileges_iff (h : d.Keeps additional records) (privilege : String) :
    privilege ∈ d.finalize.privileges ↔
      privilege ∈ additional ∨
        ∃ resource operations, (resource, operations) ∈ d.finalize.hierarchy ∧
          ∃ operation ∈ operations, privilege = resource ++ ":" ++ operation := by
  rw [h.finalize_privileges, List.mem_eraseDups, List.mem_append, mem_flatMap_listed_iff]
  refine or_congr_right ⟨fun hlisted => ?_, fun hspelled => ?_⟩
  · obtain ⟨resource, known, hknown, operation, hoperation, rfl⟩ := hlisted
    exact ⟨resource, known.eraseDups, (h.mem_hierarchy_iff _ _).mpr ⟨known, hknown, rfl⟩,
      operation, List.mem_eraseDups.mpr hoperation, rfl⟩
  · obtain ⟨resource, operations, hmem, operation, hoperation, rfl⟩ := hspelled
    obtain ⟨known, hknown, rfl⟩ := (h.mem_hierarchy_iff _ _).mp hmem
    exact ⟨resource, known, hknown, operation, List.mem_eraseDups.mp hoperation, rfl⟩

end Keeps

/-- An entry of the roster requires something, and nothing that is not listed. -/
theorem required_listed (settings : Settings) (derive : Endpoint → Option Constraints)
    (es : List Endpoint) {key : String} {required : List String}
    (hrequired : (run settings derive es).1.finalize.required? key = some required) :
    required ≠ [] ∧ required ⊆ (run settings derive es).1.finalize.privileges := by
  have h := keeps_run settings derive es
  have hlookup : ((Endpoint.recorded derive es).map Record.entry).lookup key = some required := by
    have hget := h.holds.get?_eq key
    rw [Endpoint.map_entry_flatMap_records, ← lookup_firsts, ← Endpoint.map_entry_recorded] at hget
    exact hget ▸ hrequired
  obtain ⟨entries, more, hentries, -⟩ := List.lookup_eq_some_iff.mp hlookup
  have hmem : (key, required) ∈ (Endpoint.recorded derive es).map Record.entry := by
    simp [hentries]
  obtain ⟨r, hr, hentry⟩ := List.mem_map.mp hmem
  obtain rfl : r.required = required := congrArg Prod.snd hentry
  obtain ⟨e, -, hasked⟩ :=
    List.mem_flatMap.mp ((eraseDupsBy_sublist Record.key _).subset hr)
  refine ⟨by simpa [Record.required] using Endpoint.operations_ne_nil derive hasked, ?_⟩
  intro privilege hprivilege
  rw [h.finalize_privileges, List.mem_eraseDups, List.mem_append]
  exact .inr (List.mem_flatMap.mpr ⟨r, hr, List.mem_cons_of_mem _ hprivilege⟩)

/-- What an endpoint would add is missing from no book when all it claims was taken. -/
theorem run_without (settings : Settings) (derive : Endpoint → Option Constraints)
    (before after : List Endpoint) {e : Endpoint}
    (htaken : e.rule.bind (·.resource) = none ∨ e.methods = [] ∨
      ∀ method ∈ e.methods,
        e.keyUnder derive method ∈ (Endpoint.recorded derive before).map Record.key) :
    (run settings derive (before ++ e :: after)).1 = (run settings derive (before ++ after)).1 := by
  have h := keeps_run settings derive before
  have hderive : (run settings derive before).1.derive = derive :=
    derive_registerAll before _
  have hsame : ((run settings derive before).1.register e).1 = (run settings derive before).1 := by
    rw [register_of_taken h (htaken.imp_right (Or.imp_right fun hkeys method hmethod => ?_))]
    rw [hderive]
    exact (mem_map_eraseDupsBy_iff Record.key).mp (hkeys method hmethod)
  simp only [run, registerAll_append]
  show (((run settings derive before).1.register e).1.registerAll after).1 = _
  rw [hsame]
  rfl

/-! ### The books agree -/

/-- **The three books of a catalog tell of the same registrations.**  Whatever is registered,
call what a listed method of an endpoint with a resource asks for recorded if the method was
the first to claim its key.  The roster lists the records' entries.  The privileges are, once
each, the additional ones and then, record by record, the one for all operations and those
that are required.  The hierarchy has the resources of the records, once each, and under each
the wildcard and then the operations of its records, once each.  Hence the privileges are, as
a set, the additional ones and what the hierarchy spells out, and no entry of the roster is
empty or requires what is not listed.  An endpoint without a resource, without methods, or
all of whose keys were taken could as well not have been registered. -/
theorem books_coherent (settings : Settings) (derive : Endpoint → Option Constraints)
    (es : List Endpoint) :
    let catalog := (((Draft.new settings).withDeriver derive).registerAll es).1.finalize
    let recorded := Endpoint.recorded derive es
    catalog.roster.toList = recorded.map Record.entry ∧
    catalog.privileges =
      (settings.additionalPrivileges ++ recorded.flatMap Record.listed).eraseDups ∧
    (catalog.hierarchy.map (·.1)).Nodup ∧
    (∀ resource operations, (resource, operations) ∈ catalog.hierarchy ↔
      (∃ r ∈ recorded, r.resource = resource) ∧
        operations = ("*" :: (recorded.filter (·.resource = resource)).flatMap
          (·.operations)).eraseDups) ∧
    (∀ privilege, privilege ∈ catalog.privileges ↔
      privilege ∈ settings.additionalPrivileges ∨
        ∃ resource operations, (resource, operations) ∈ catalog.hierarchy ∧
          ∃ operation ∈ operations, privilege = resource ++ ":" ++ operation) ∧
    (∀ key required, catalog.required? key = some required →
      required ≠ [] ∧ required ⊆ catalog.privileges) ∧
    ∀ before e after, es = before ++ e :: after →
      (e.rule.bind (·.resource) = none ∨ e.methods = [] ∨
        ∀ method ∈ e.methods,
          e.keyUnder derive method ∈ (Endpoint.recorded derive before).map Record.key) →
      (((Draft.new settings).withDeriver derive).registerAll (before ++ after)).1.finalize =
        catalog := by
  intro catalog recorded
  have h := keeps_run settings derive es
  refine ⟨?_, h.finalize_privileges, nodup_hierarchy _, fun resource operations => ?_,
    h.mem_privileges_iff, fun key required => required_listed settings derive es,
    fun before e after hes htaken => ?_⟩
  · rw [Endpoint.map_entry_recorded, ← Endpoint.map_entry_flatMap_records]
    exact h.holds.toList
  · refine (h.mem_hierarchy_iff resource operations).trans ?_
    simp only [Record.known, Option.ite_none_right_eq_some, Option.some.injEq]
    constructor
    · intro hknown
      obtain ⟨_, ⟨hresource, rfl⟩, rfl⟩ := hknown
      exact ⟨hresource, rfl⟩
    · intro hrecorded
      obtain ⟨hresource, rfl⟩ := hrecorded
      exact ⟨_, ⟨hresource, rfl⟩, rfl⟩
  · subst hes
    exact congrArg finalize (run_without settings derive before after htaken).symm

/-- A report declared twice, the second time under another resource and with its method in
lower case: the required privilege is listed, and the second declaration is in no book. -/
theorem redeclared_report_unrecorded :
    let report : Endpoint :=
      { methods := ["GET"], path := "/report"
        rule := some { resource := some "report", operations := some ["read"] } }
    let again : Endpoint :=
      { methods := ["get"], path := "/report", rule := some { resource := some "admin" } }
    let underived := (new {}).withDeriver fun _ => none
    (underived.registerAll [report, again]).1.finalize.required? "GET:/report" =
      some ["report:read"] ∧
    ["report:read"] ⊆ (underived.registerAll [report, again]).1.finalize.privileges ∧
    (∀ method ∈ again.methods, again.keyUnder (fun _ => none) method ∈
      (Endpoint.recorded (fun _ => none) [report]).map Record.key) ∧
    (underived.registerAll [report]).1.finalize =
      (underived.registerAll [report, again]).1.finalize := by
  intro report again underived
  have hrequired : (underived.registerAll [report, again]).1.finalize.required? "GET:/report" =
      some ["report:read"] := by decide +kernel
  have htaken : ∀ method ∈ again.methods, again.keyUnder (fun _ => none) method ∈
      (Endpoint.recorded (fun _ => none) [report]).map Record.key := by decide +kernel
  obtain ⟨-, -, -, -, -, hlisted, hwithout⟩ := books_coherent {} (fun _ => none) [report, again]
  exact ⟨hrequired, (hlisted _ _ hrequired).2, htaken,
    hwithout [report] again [] rfl (.inr (.inr htaken))⟩

end Catalog.Draft

end Turnstile
