/-
Only the full wildcard grants everything, and lesser privileges never add up to it.

The full wildcard matches whatever is required, because no text is read as a privilege without
a resource or without an operation, and in place of a missing role a wildcard may stand.  Every
other privilege has a position that is no wildcard, and a list of such privileges is finite: a
token that is longer than all their texts is at none of their positions.  A requirement written
with that token in all three positions (`unheard`) meets none of them, because a literal agrees
with nothing but itself and the wildcard.
-/
import Turnstile.Proofs.BestMatch
import Turnstile.Proofs.Matching

namespace Turnstile

namespace Privilege

/-! ### The full wildcard -/

theorem isUniversal_iff {p : Privilege} :
    p.isUniversal = true ↔
      p.resource = .wildcard ∧ p.role = .wildcard ∧ p.operation = .wildcard := by
  simp [isUniversal, Segment.isWildcard, and_assoc]

/-- A text that is read as three wildcards has two colons and is written like that. -/
theorem isUniversal_parse_iff (s : String) : (parse s).isUniversal = true ↔ s = "*:*:*" := by
  constructor
  · intro h
    obtain ⟨hresource, hrole, hoperation⟩ := isUniversal_iff.mp h
    have hlong : ¬Short s := by
      intro hshort
      rw [parse_of_short hshort] at hrole
      cases hrole
    have htext := text_parse s
    rw [if_pos (mem_of_not_short hlong), text, hresource, hrole, hoperation] at htext
    exact htext.symm
  · intro h
    rw [h]
    decide +kernel

/-- It stands for every privilege that can be read. -/
theorem isSome_weight?_universal {p q : Privilege} (hp : p.Legible) (hq : q.isUniversal = true) :
    (weight? p q).isSome := by
  obtain ⟨hresource, hrole, hoperation⟩ := isUniversal_iff.mp hq
  rw [isSome_weight?_iff, hresource, hrole, hoperation]
  exact ⟨Segment.agrees_wildcard (.inr hp.resource.ne_absent), Segment.agrees_wildcard (.inl rfl),
    Segment.agrees_wildcard (.inr hp.operation_ne_absent)⟩

/-! ### A token that nobody mentions -/

theorem length_resourceOf_le (s : String) : (resourceOf s).length ≤ s.length := by
  rw [resourceOf, String.length_ofList, ← String.length_toList]
  exact (List.takeWhile_prefix _).length_le

theorem length_restOf_le (s : String) : (restOf s).length ≤ s.length := by
  rw [restOf, String.length_ofList, List.length_tail, ← String.length_toList]
  have hdrop := List.length_dropWhile_le (· != ':') s.toList
  omega

/-- The three positions, in the order in which they are written. -/
def segments (p : Privilege) : List Segment := [p.resource, p.role, p.operation]

/-- No position of a privilege is longer than its text. -/
theorem length_text_le {s : String} {x : Segment} (h : x ∈ (parse s).segments) :
    x.text.length ≤ s.length := by
  have hresource := length_resourceOf_le s
  have hrest := length_restOf_le s
  by_cases hshort : Short s
  · rw [parse_of_short hshort] at h
    simp only [segments, List.mem_cons, List.not_mem_nil, or_false] at h
    rcases h with rfl | rfl | rfl
    · rwa [Segment.text_ofToken]
    · exact Nat.zero_le _
    · rwa [Segment.text_ofToken]
  · have hrole : (roleOf s).length ≤ (restOf s).length := length_resourceOf_le _
    have hoperation : (operationOf s).length ≤ (restOf s).length := length_restOf_le _
    rw [parse_of_long hshort] at h
    simp only [segments, List.mem_cons, List.not_mem_nil, or_false] at h
    rcases h with h | h | h <;> rw [h, Segment.text_ofToken] <;> omega

/-- The length of some texts together. -/
def totalLength : List String → Nat
  | [] => 0
  | s :: rest => s.length + totalLength rest

theorem length_le_totalLength {texts : List String} {s : String} (h : s ∈ texts) :
    s.length ≤ totalLength texts := by
  induction texts with
  | nil => cases h
  | cons t rest ih =>
      unfold totalLength
      rcases List.mem_cons.mp h with rfl | hrest
      · omega
      · have hle := ih hrest
        omega

/-- A token that is longer than all of some texts. -/
def outgrowing (texts : List String) : String :=
  .ofList (.replicate (totalLength texts + 1) 'x')

theorem length_lt_outgrowing {texts : List String} {s : String} (h : s ∈ texts) :
    s.length < (outgrowing texts).length := by
  have hle := length_le_totalLength h
  rw [outgrowing, String.length_ofList, List.length_replicate]
  omega

theorem notMem_outgrowing (texts : List String) : ':' ∉ (outgrowing texts).toList := by
  simp [outgrowing]

theorem outgrowing_ne_wildcard (texts : List String) : outgrowing texts ≠ "*" := by
  intro h
  have hlist := congrArg String.toList h
  simp [outgrowing, List.replicate_succ] at hlist

/-- A requirement of which no one of some texts mentions any part. -/
def unheard (texts : List String) : String :=
  outgrowing texts ++ ":" ++ outgrowing texts ++ ":" ++ outgrowing texts

theorem parse_unheard (texts : List String) :
    parse (unheard texts) =
      { resource := .value (outgrowing texts), role := .value (outgrowing texts)
        operation := .value (outgrowing texts) } := by
  have hfree := notMem_outgrowing texts
  rw [unheard, parse_triple hfree hfree, Segment.ofToken, if_neg (outgrowing_ne_wildcard texts)]

/-- A position that agrees with that token is a wildcard. -/
theorem eq_wildcard_of_agrees {texts : List String} {s : String} (hs : s ∈ texts) {x : Segment}
    (hx : x ∈ (parse s).segments) {lenient : Bool}
    (hagrees : (Segment.compare lenient (.value (outgrowing texts)) x).agrees = true) :
    x = .wildcard := by
  refine (Segment.agrees_value_iff.mp hagrees).resolve_left fun heq => ?_
  have hshort := length_text_le hx
  have hlong := length_lt_outgrowing hs
  rw [heq] at hshort
  exact absurd hshort (Nat.not_le_of_lt hlong)

/-- Of the texts it was made for, only the full wildcard meets the requirement. -/
theorem eq_universal_of_matches {texts : List String} {s : String} (hs : s ∈ texts)
    (h : (weight? (parse (unheard texts)) (parse s)).isSome) : s = "*:*:*" := by
  rw [isSome_weight?_iff, parse_unheard] at h
  obtain ⟨hresource, hrole, hoperation⟩ := h
  refine (isUniversal_parse_iff s).mp (isUniversal_iff.mpr ⟨?_, ?_, ?_⟩)
  · exact eq_wildcard_of_agrees hs (by simp [segments]) hresource
  · exact eq_wildcard_of_agrees hs (by simp [segments]) hrole
  · exact eq_wildcard_of_agrees hs (by simp [segments]) hoperation

end Privilege

namespace Match

open Privilege

theorem isSome_ofPair?_universal (r : String) : (ofPair? r "*:*:*").isSome := by
  rw [isSome_ofPair?_iff]
  exact isSome_weight?_universal (legible_parse r) ((isUniversal_parse_iff _).mpr rfl)

theorem isSome_best?_singleton_iff {r : String} {held : List String} :
    (best? [r] held).isSome ↔ ∃ h ∈ held, (ofPair? r h).isSome := by
  rw [isSome_best?_iff]
  simp

/-- The requirement that a list never heard of is met by nothing in it but the full wildcard. -/
theorem isSome_best?_unheard_iff {held : List String} :
    (best? [unheard held] held).isSome ↔ "*:*:*" ∈ held := by
  rw [isSome_best?_singleton_iff]
  constructor
  · intro hmatch
    obtain ⟨h, hh, hsome⟩ := hmatch
    rw [isSome_ofPair?_iff] at hsome
    exact eq_universal_of_matches hh hsome ▸ hh
  · intro hmem
    exact ⟨_, hmem, isSome_ofPair?_universal _⟩

theorem grantsAll_iff (held : List String) :
    (∀ r, (best? [r] held).isSome) ↔ "*:*:*" ∈ held := by
  constructor
  · intro hall
    exact isSome_best?_unheard_iff.mp (hall (unheard held))
  · intro hmem r
    exact isSome_best?_singleton_iff.mpr ⟨_, hmem, isSome_ofPair?_universal r⟩

/--
**Only the full wildcard grants everything.**  A list meets every requirement exactly when it
holds the full wildcard, however much else it holds; a single privilege matches every
requirement exactly when it is read as three wildcards, and only one text is.  A list without
it is refused some requirement.
-/
theorem only_universal_grants_all :
    (∀ held, (∀ r, (best? [r] held).isSome) ↔ "*:*:*" ∈ held) ∧
    (∀ h, (∀ r, (ofPair? r h).isSome) ↔ (parse h).isUniversal = true) ∧
    (∀ h, (parse h).isUniversal = true ↔ h = "*:*:*") ∧
    ∀ held, "*:*:*" ∉ held ↔
      ∃ r, best? [r] held = none ∧ Policy.bestMatch [r] held = .ok false := by
  refine ⟨grantsAll_iff, fun h => ?_, isUniversal_parse_iff, fun held => ?_⟩
  · have hsingle : ∀ r, (best? [r] [h]).isSome ↔ (ofPair? r h).isSome := by
      intro r
      rw [isSome_best?_singleton_iff]
      simp
    rw [isUniversal_parse_iff, ← forall_congr' hsingle, grantsAll_iff, List.mem_singleton, eq_comm]
  · rw [← grantsAll_iff, not_forall]
    refine exists_congr fun r => ?_
    rw [Option.not_isSome_iff_eq_none, Policy.bestMatch, Policy.bestMatchAllows]
    cases best? [r] held <;> simp

/-- Grants that cover each position between them do not cover it together. -/
example : best? ["account:admin:read"] ["*:*:write", "*:user:*", "report:*:*", "*:*", "*"] =
    none := by decide +kernel

end Match

end Turnstile
