/-
Endpoints that claim no key in common can be registered in any order.

A record is dropped only for an earlier one of the same key.  Where no two endpoints claim one
key that can only be a record of the same endpoint, so what is recorded is what would be
recorded of each endpoint by itself (`recorded_of_independent`), and in another order of the
endpoints it is the same, in another order.

The three books are read off the records.  The privileges, and the operations of a resource, are
listed once each, and so are the same up to order; the resources are listed by name and so are
the same altogether; and each key of the roster has one entry, wherever that stands.  An
endpoint is left with those of its keys that no earlier one had claimed, which are all of them.
-/
import Turnstile.Proofs.Coherence

namespace Turnstile

/-! ### What is known of a resource -/

/-- Of the same records in another order the same is known, in another order. -/
theorem Record.known_perm {records records' : List Record} (hperm : records.Perm records')
    {resource : String} {known : List String}
    (hknown : Record.known records resource = some known) :
    ∃ known', Record.known records' resource = some known' ∧ known.Perm known' := by
  unfold Record.known at hknown ⊢
  rw [Option.ite_none_right_eq_some, Option.some.injEq] at hknown
  obtain ⟨⟨r, hr, hresource⟩, rfl⟩ := hknown
  rw [if_pos ⟨r, hperm.mem_iff.mp hr, hresource⟩]
  exact ⟨_, rfl, ((hperm.filter _).flatMap_right _).cons "*"⟩

theorem Record.isSome_known_perm {records records' : List Record} (hperm : records.Perm records')
    (resource : String) :
    (Record.known records resource).isSome = (Record.known records' resource).isSome := by
  simp only [Record.known, hperm.mem_iff]
  split <;> rfl

/-! ### Endpoints that claim no key in common -/

namespace Endpoint

variable {derive : Endpoint → Option Constraints} {es es' : List Endpoint}

/-- No two endpoints, at different places, claim one key. -/
def Independent (derive : Endpoint → Option Constraints) (es : List Endpoint) : Prop :=
  es.Pairwise fun e e' => ∀ key, e.Claims derive key → ¬e'.Claims derive key

/-- Whether two endpoints claim a key in common is settled by looking at their claims. -/
instance (e e' : Endpoint) :
    Decidable (∀ key, e.Claims derive key → ¬e'.Claims derive key) :=
  inferInstanceAs (Decidable (∀ key ∈ (e.claims derive).map (·.1), ¬e'.Claims derive key))

instance : Decidable (Independent derive es) :=
  inferInstanceAs (Decidable (es.Pairwise _))

theorem Independent.perm (h : Independent derive es) (hperm : es.Perm es') :
    Independent derive es' :=
  hperm.pairwise h fun hapart key hclaims hclaims' => hapart key hclaims' hclaims

/-- The endpoints before a place claim no key of the one there. -/
theorem Independent.notMem_before (h : Independent derive es) {i : Nat} {e : Endpoint}
    (hi : es[i]? = some e) {key : String} (hclaims : e.Claims derive key) :
    key ∉ ((es.take i).flatMap (claims derive)).map (·.1) := by
  rw [mem_keys_flatMap]
  intro hbefore
  obtain ⟨e', he', hclaims'⟩ := hbefore
  rw [eq_take_append hi] at h
  have hapart := (List.pairwise_append.mp h).2.2 e' he' e List.mem_cons_self
  exact hapart key hclaims' hclaims

/-- The keys of an endpoint's records are those it claims. -/
theorem mem_keys_records_iff {e : Endpoint} {key : String} :
    key ∈ (e.records derive).map Record.key ↔ e.Claims derive key := by
  rw [Claims, ← map_entry_records, List.map_map]
  rfl

/-- **What is recorded of independent endpoints is recorded of each by itself.** -/
theorem recorded_of_independent (h : Independent derive es) :
    recorded derive es = es.flatMap fun e => Record.firsts (e.records derive) := by
  induction es with
  | nil => rfl
  | cons e rest ih =>
      obtain ⟨hfirst, hrest⟩ := List.pairwise_cons.mp h
      have hapart : ∀ r ∈ rest.flatMap (records derive),
          r.key ∉ (e.records derive).map Record.key := by
        intro r hr hmem
        obtain ⟨e', he', hrecord⟩ := List.mem_flatMap.mp hr
        exact hfirst e' he' r.key (mem_keys_records_iff.mp hmem)
          (mem_keys_records_iff.mp (List.mem_map_of_mem hrecord))
      have hsplit : recorded derive (e :: rest) =
          Record.firsts (e.records derive) ++ recorded derive rest := by
        rw [recorded, List.flatMap_cons]
        exact eraseDupsBy_append_of_disjoint Record.key hapart
      rw [hsplit, ih hrest, List.flatMap_cons]

theorem recorded_perm (h : Independent derive es) (hperm : es.Perm es') :
    (recorded derive es).Perm (recorded derive es') := by
  rw [recorded_of_independent h, recorded_of_independent (h.perm hperm)]
  exact hperm.flatMap_right _

end Endpoint

namespace Catalog.Draft

open Endpoint

variable {derive : Endpoint → Option Constraints} {es es' : List Endpoint}

/-! ### The books -/

/-- The resources are listed by name, so it only matters which there are. -/
theorem hierarchy_names_eq {d d' : Draft}
    (h : ∀ resource : String, d.hierarchy[resource]?.isSome = d'.hierarchy[resource]?.isSome) :
    d.finalize.hierarchy.map (·.1) = d'.finalize.hierarchy.map (·.1) := by
  have hnames : ∀ d : Draft, d.finalize.hierarchy.map (·.1) =
      (d.hierarchy.map fun _ _ => ()).keys := by
    intro d
    rw [Std.TreeMap.keys_map, ← Std.TreeMap.map_fst_toList_eq_keys, finalize, List.map_map]
    rfl
  rw [hnames, hnames]
  refine (Std.TreeMap.Equiv.of_forall_mem_unit_iff fun resource => ?_).keys_eq
  rw [Std.TreeMap.mem_map, Std.TreeMap.mem_map, Std.TreeMap.mem_iff_isSome_getElem?,
    Std.TreeMap.mem_iff_isSome_getElem?, h]

section Books

variable {d d' : Draft} {additional additional' : List String} {records records' : List Record}

theorem resources_eq (h : d.Keeps additional records) (h' : d'.Keeps additional' records')
    (hperm : (Record.firsts records).Perm (Record.firsts records')) :
    d.finalize.hierarchy.map (·.1) = d'.finalize.hierarchy.map (·.1) := by
  refine hierarchy_names_eq fun resource => ?_
  rw [h.hierarchy, h'.hierarchy]
  exact Record.isSome_known_perm hperm resource

/-- The operations of a resource are the same up to order when the records are. -/
theorem operations_perm (h : d.Keeps additional records) (h' : d'.Keeps additional' records')
    (hperm : (Record.firsts records).Perm (Record.firsts records')) {resource : String}
    {operations operations' : List String}
    (hmem : (resource, operations) ∈ d.finalize.hierarchy)
    (hmem' : (resource, operations') ∈ d'.finalize.hierarchy) : operations.Perm operations' := by
  obtain ⟨known, hknown, rfl⟩ := (h.mem_hierarchy_iff _ _).mp hmem
  obtain ⟨found, hfound, rfl⟩ := (h'.mem_hierarchy_iff _ _).mp hmem'
  obtain ⟨known', hknown', hsame⟩ := Record.known_perm hperm hknown
  obtain rfl := Option.some.inj (hknown'.symm.trans hfound)
  exact eraseDups_perm fun operation => hsame.mem_iff

end Books

theorem toList_run (settings : Settings) (derive : Endpoint → Option Constraints)
    (es : List Endpoint) :
    (run settings derive es).1.roster.toList = (recorded derive es).map Record.entry := by
  rw [map_entry_recorded]
  exact (holds_run settings derive es).toList

/-- An endpoint that shares no key with others has a key for every method it lists, wherever it
stands among them. -/
theorem keyFor_of_independent (h : Independent derive es) {i : Nat} {e : Endpoint}
    {r : Registration} (hi : es[i]? = some e)
    (hr : Registered ((es.take i).flatMap (Endpoint.claims derive)) derive e r)
    (method key : String) :
    r.keyFor method = some key ↔
      (∃ m ∈ e.methods, Text.sameIgnoringCase method m = true ∧ key = e.keyUnder derive m) ∧
        e.Claims derive key := by
  rw [hr.keyFor]
  refine and_congr_right fun _ => and_iff_left_of_imp fun hclaims => ?_
  exact h.notMem_before hi hclaims

/--
**Independent registrations commute.**  Let no two endpoints of a list claim one key, and
register them in another order.  The catalogs list the same entries and the same privileges up
to order, and require the same under every key; they know of the same resources, and of the same
operations of each up to order.  Every endpoint is left with the same rule, the same constraints
and the same key for every method.
-/
theorem independent_commute (settings : Settings) (derive : Endpoint → Option Constraints)
    {es es' : List Endpoint} (hperm : es.Perm es') (hindependent : Independent derive es) :
    let (d, registrations) := ((Draft.new settings).withDeriver derive).registerAll es
    let (d', registrations') := ((Draft.new settings).withDeriver derive).registerAll es'
    d.finalize.roster.toList.Perm d'.finalize.roster.toList ∧
    (∀ key, d.finalize.required? key = d'.finalize.required? key) ∧
    d.finalize.privileges.Perm d'.finalize.privileges ∧
    d.finalize.hierarchy.map (·.1) = d'.finalize.hierarchy.map (·.1) ∧
    (∀ resource operations operations', (resource, operations) ∈ d.finalize.hierarchy →
      (resource, operations') ∈ d'.finalize.hierarchy → operations.Perm operations') ∧
    ∀ (i j : Nat) (e : Endpoint), es[i]? = some e → es'[j]? = some e →
      ∃ r r', registrations[i]? = some r ∧ registrations'[j]? = some r' ∧
        r.rule = r'.rule ∧ r.constraints = r'.constraints ∧ r.keyFor = r'.keyFor := by
  have h := keeps_run settings derive es
  have h' := keeps_run settings derive es'
  have hrecorded := recorded_perm hindependent hperm
  have hroster : (run settings derive es).1.roster.toList.Perm
      (run settings derive es').1.roster.toList := by
    rw [toList_run, toList_run]
    exact hrecorded.map Record.entry
  have hprivileges : (run settings derive es).1.finalize.privileges.Perm
      (run settings derive es').1.finalize.privileges := by
    rw [h.finalize_privileges, h'.finalize_privileges]
    refine eraseDups_perm fun privilege => ?_
    exact ((hrecorded.flatMap_right Record.listed).append_left _).mem_iff
  refine ⟨hroster, h.holds.sound.get?_eq_of_perm h'.holds.sound hroster, hprivileges,
    resources_eq h h' hrecorded, fun resource operations operations' hmem hmem' =>
      operations_perm h h' hrecorded hmem hmem', fun i j e hi hj => ?_⟩
  obtain ⟨r, hr, hregistered⟩ := registered_run settings derive hi
  obtain ⟨r', hr', hregistered'⟩ := registered_run settings derive hj
  have hindependent' := hindependent.perm hperm
  refine ⟨r, r', hr, hr', hregistered.rule.trans hregistered'.rule.symm,
    hregistered.constraints.trans hregistered'.constraints.symm, ?_⟩
  funext method
  refine Option.ext fun key => ?_
  rw [keyFor_of_independent hindependent hi hregistered,
    keyFor_of_independent hindependent' hj hregistered']

/-- One account, which is read. -/
def account : Endpoint where
  methods := ["GET", "get"]
  path := "/account"
  rule := some { resource := some "account", operations := some ["read"] }

/-- All accounts, another path of the same resource. -/
def accounts : Endpoint where
  methods := ["GET"]
  path := "/accounts"
  rule := some { resource := some "account", operations := some ["list", "read"] }

/-- Whichever of the two is registered first, the same is required, the same operations are
known, and the one account has the same key. -/
theorem accounts_commute :
    let (d, registrations) :=
      ((Draft.new {}).withDeriver fun _ => none).registerAll [account, accounts]
    let (d', registrations') :=
      ((Draft.new {}).withDeriver fun _ => none).registerAll [accounts, account]
    [account, accounts].Perm [accounts, account] ∧
    Independent (fun _ => none) [account, accounts] ∧
    (∀ key, d.finalize.required? key = d'.finalize.required? key) ∧
    (∀ operations operations', ("account", operations) ∈ d.finalize.hierarchy →
      ("account", operations') ∈ d'.finalize.hierarchy → operations.Perm operations') ∧
    ∃ r r', registrations[0]? = some r ∧ registrations'[1]? = some r' ∧
      r.keyFor "get" = r'.keyFor "get" := by
  have hperm : [account, accounts].Perm [accounts, account] := .swap _ _ _
  have hindependent : Independent (fun _ => none) [account, accounts] := by decide +kernel
  obtain ⟨-, hrequired, -, -, hoperations, hregistered⟩ :=
    independent_commute {} (fun _ => none) hperm hindependent
  obtain ⟨r, r', hr, hr', -, -, hkeys⟩ := hregistered 0 1 account rfl rfl
  exact ⟨hperm, hindependent, hrequired, hoperations "account", r, r', hr, hr', congrFun hkeys _⟩

end Catalog.Draft

end Turnstile
