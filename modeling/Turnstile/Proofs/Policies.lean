/-
Exactly where the two shipped policies disagree.

The wildcard policy cuts a privilege once, the best-match policy twice, so they can only
disagree over a text with two colons or more.  Of two such texts the wildcard policy wants what
stands behind the first colon to be equal; the best-match policy lets wildcards in there.  Of
one such text and one with fewer colons, the wildcard policy is content with an asterisk behind
the colon of the latter, whatever the role of the former; the best-match policy asks for a
wildcard in place of that role, and then lets the operations agree.  A lone asterisk is a grant
to the wildcard policy and nothing of the kind to the other, and is left out of the comparison.
-/
import Turnstile.Proofs.BestMatch
import Turnstile.Proofs.Matching

namespace Turnstile.Policy

open Privilege

/-! ### Each policy in terms of the parts of texts -/

theorem tokensAgree_iff {a b : String} : tokensAgree a b = true ↔ Agree a b := by
  simp only [tokensAgree, Agree, Bool.or_eq_true, beq_iff_eq]
  exact or_comm

theorem halves_eq (s : String) : halves s = (resourceOf s, restOf s) := by
  rw [halves, cut_eq]
  by_cases h : ':' ∈ s.toList
  · simp only [if_pos h, Option.getD_some]
  · simp only [if_neg h, Option.getD_none, restOf_of_notMem h]

/-- Two privileges agree before and behind the first colon. -/
def AgreeInHalves (r h : String) : Prop :=
  Agree (resourceOf r) (resourceOf h) ∧ Agree (restOf r) (restOf h)

theorem agreeInHalves_comm {r h : String} : AgreeInHalves r h ↔ AgreeInHalves h r :=
  and_congr agree_comm agree_comm

theorem halvesAgree_iff {r h : String} : halvesAgree r h = true ↔ AgreeInHalves r h := by
  rw [halvesAgree, Bool.and_eq_true, halves_eq, halves_eq, tokensAgree_iff, tokensAgree_iff]
  rfl

/-- The wildcard policy consents to a lone asterisk on either side, and to any pair that
agrees on both sides of the first colon. -/
theorem wildcardAllows_iff {required held : List String} :
    wildcardAllows required held = true ↔
      ("*" ∈ required ∨ "*" ∈ held) ∨ ∃ r ∈ required, ∃ h ∈ held, AgreeInHalves r h := by
  simp only [wildcardAllows, Bool.or_eq_true, List.any_eq_true, List.mem_append, beq_iff_eq,
    halvesAgree_iff, exists_eq_right]
  rw [or_comm (a := "*" ∈ held)]
  refine or_congr_right ⟨?_, ?_⟩
  · intro h
    obtain ⟨h, hh, r, hr, hagree⟩ := h
    exact ⟨r, hr, h, hh, hagree⟩
  · intro h
    obtain ⟨r, hr, h, hh, hagree⟩ := h
    exact ⟨h, hh, r, hr, hagree⟩

/-- Where no privilege has a role, the policies differ over lone asterisks only. -/
theorem wildcardAllows_iff_of_short {required held : List String}
    (hshort : ∀ s ∈ required ++ held, Short s) :
    wildcardAllows required held = true ↔
      ("*" ∈ required ∨ "*" ∈ held) ∨ (Match.best? required held).isSome := by
  rw [wildcardAllows_iff, Match.isSome_best?_iff]
  refine or_congr_right ?_
  refine exists_congr fun r => and_congr_right fun hr => exists_congr fun h =>
    and_congr_right fun hh => ?_
  exact (Match.isSome_ofPair?_of_short (hshort r (List.mem_append_left _ hr))
    (hshort h (List.mem_append_right _ hh))).symm

/-! ### One pair -/

/-- A short text that ends in an asterisk beside a long one that names its role. -/
def HidesRole (short long : String) : Prop :=
  Short short ∧ ¬Short long ∧ restOf short = "*" ∧ roleOf long ≠ "*"

/-- A short text beside a long one that is for any role and agrees on the operation. -/
def WaivesRole (short long : String) : Prop :=
  Short short ∧ ¬Short long ∧ restOf short ≠ "*" ∧ roleOf long = "*" ∧
    (operationOf long = "*" ∨ operationOf long = restOf short)

/-- Two long texts that agree by a wildcard behind the first colon. -/
def MeetsInParts (r h : String) : Prop :=
  ¬Short r ∧ ¬Short h ∧ restOf r ≠ restOf h ∧
    Agree (roleOf r) (roleOf h) ∧ Agree (operationOf r) (operationOf h)

instance (short long : String) : Decidable (HidesRole short long) :=
  inferInstanceAs (Decidable (_ ∧ _))

instance (short long : String) : Decidable (WaivesRole short long) :=
  inferInstanceAs (Decidable (_ ∧ _))

instance (r h : String) : Decidable (MeetsInParts r h) := inferInstanceAs (Decidable (_ ∧ _))

/-- The pairs to which only the wildcard policy consents. -/
def WildcardOnly (r h : String) : Prop :=
  Agree (resourceOf r) (resourceOf h) ∧ (HidesRole r h ∨ HidesRole h r)

/-- The pairs to which only the best-match policy consents. -/
def BestMatchOnly (r h : String) : Prop :=
  Agree (resourceOf r) (resourceOf h) ∧
    (MeetsInParts r h ∨ WaivesRole r h ∨ WaivesRole h r)

instance (r h : String) : Decidable (WildcardOnly r h) := inferInstanceAs (Decidable (_ ∧ _))

instance (r h : String) : Decidable (BestMatchOnly r h) := inferInstanceAs (Decidable (_ ∧ _))

variable {r h : String}

theorem wildcardAllows_singleton (hr : r ≠ "*") (hh : h ≠ "*") :
    wildcardAllows [r] [h] = true ↔ AgreeInHalves r h := by
  rw [wildcardAllows_iff]
  simp [Ne.symm hr, Ne.symm hh]

theorem bestMatchAllows_singleton :
    bestMatchAllows [r] [h] = true ↔ (Match.ofPair? r h).isSome := by
  rw [bestMatchAllows, Match.isSome_best?_iff]
  simp

/-- What stands behind the first of several colons is no asterisk. -/
theorem restOf_ne_of_long (h : ¬Short r) : restOf r ≠ "*" := by
  intro heq
  rw [short_iff, heq] at h
  exact h (by decide)

theorem restOf_ne_of_short_long (hr : Short r) (hh : ¬Short h) : restOf r ≠ restOf h := by
  intro heq
  rw [short_iff] at hr hh
  exact hh (heq ▸ hr)

theorem agree_restOf_of_long (hr : ¬Short r) (hh : ¬Short h) :
    Agree (restOf r) (restOf h) ↔ restOf r = restOf h := by
  simp only [Agree, restOf_ne_of_long hr, restOf_ne_of_long hh, or_false]

theorem agree_restOf_of_short_long (hr : Short r) (hh : ¬Short h) :
    Agree (restOf r) (restOf h) ↔ restOf r = "*" := by
  simp only [Agree, restOf_ne_of_short_long hr hh, restOf_ne_of_long hh, or_false, false_or]

/-- What tells the policies apart is said by `WildcardOnly` and `BestMatchOnly`. -/
structure ToldApart (r h : String) : Prop where
  wildcard : AgreeInHalves r h ∧ ¬(Match.ofPair? r h).isSome ↔ WildcardOnly r h
  bestMatch : (Match.ofPair? r h).isSome ∧ ¬AgreeInHalves r h ↔ BestMatchOnly r h

theorem wildcardOnly_comm : WildcardOnly r h ↔ WildcardOnly h r :=
  and_congr agree_comm or_comm

theorem meetsInParts_comm : MeetsInParts r h ↔ MeetsInParts h r := by
  simp only [MeetsInParts, ne_comm (a := restOf r), agree_comm (a := roleOf r),
    agree_comm (a := operationOf r)]
  exact and_left_comm

theorem bestMatchOnly_comm : BestMatchOnly r h ↔ BestMatchOnly h r :=
  and_congr agree_comm (or_congr meetsInParts_comm or_comm)

theorem ToldApart.symm (hapart : ToldApart r h) : ToldApart h r where
  wildcard := by
    rw [agreeInHalves_comm, Match.isSome_ofPair?_comm, wildcardOnly_comm, hapart.wildcard]
  bestMatch := by
    rw [agreeInHalves_comm, Match.isSome_ofPair?_comm, bestMatchOnly_comm, hapart.bestMatch]

theorem toldApart_of_short (hr : Short r) (hh : Short h) : ToldApart r h := by
  constructor <;> rw [Match.isSome_ofPair?_of_short hr hh] <;>
    simp [AgreeInHalves, WildcardOnly, BestMatchOnly, HidesRole, WaivesRole, MeetsInParts, hr, hh]

/-- Two texts with roles meet behind the first colon when they are equal there, or else in
their parts. -/
theorem toldApart_of_long (hr : ¬Short r) (hh : ¬Short h) : ToldApart r h := by
  constructor <;> rw [AgreeInHalves, Match.isSome_ofPair?_of_long hr hh, agree_restOf_of_long hr hh]
  all_goals
    simp only [WildcardOnly, BestMatchOnly, HidesRole, WaivesRole, MeetsInParts, hr, hh,
      not_false_iff, true_and, false_and, and_false, or_false]
    by_cases hrest : restOf r = restOf h
    · have hrole : Agree (roleOf r) (roleOf h) := .inl (congrArg resourceOf hrest)
      have hoperation : Agree (operationOf r) (operationOf h) := .inl (congrArg restOf hrest)
      simp [hrest, hrole, hoperation]
    · simp [hrest]

/-- Of a short text and a long one, the role of the latter decides. -/
theorem toldApart_of_short_long (hr : Short r) (hh : ¬Short h) : ToldApart r h := by
  constructor <;>
    rw [AgreeInHalves, Match.isSome_ofPair?_of_short_long hr hh, agree_restOf_of_short_long hr hh]
  all_goals
    simp only [WildcardOnly, BestMatchOnly, HidesRole, WaivesRole, MeetsInParts, hr, hh,
      not_true, not_false_iff, true_and, false_and, and_false, or_false, false_or]
    by_cases hrest : restOf r = "*"
    · have hoperation : Agree "*" (operationOf h) := .inr (.inl rfl)
      by_cases hrole : roleOf h = "*" <;> simp [hrest, hrole, hoperation]
    · have hoperation : Agree (restOf r) (operationOf h) ↔
          operationOf h = "*" ∨ operationOf h = restOf r := by
        simp only [Agree, hrest, false_or]
        rw [or_comm, eq_comm (a := restOf r)]
      simp [hrest, hoperation]

theorem toldApart (r h : String) : ToldApart r h := by
  by_cases hr : Short r <;> by_cases hh : Short h
  · exact toldApart_of_short hr hh
  · exact toldApart_of_short_long hr hh
  · exact (toldApart_of_short_long hh hr).symm
  · exact toldApart_of_long hr hh

/--
**Where the shipped policies disagree.**  As long as no privilege has a role, the wildcard
policy consents exactly when the other does or a lone asterisk is required or held.  Over one
pair without a lone asterisk, only the wildcard policy consents when the resources agree and
one text ends in an asterisk behind its only colon where the other names a role; only the
best-match policy does when the resources agree and two texts with roles agree by a wildcard
behind the first colon, or one is for any role and agrees with the other on the operation.
Over every other pair they answer alike.
-/
theorem shipped_disagree_iff :
    (∀ required held : List String, (∀ s ∈ required ++ held, Short s) →
      (wildcardAllows required held = true ↔
        ("*" ∈ required ∨ "*" ∈ held) ∨ (Match.best? required held).isSome)) ∧
    ∀ r h : String, r ≠ "*" → h ≠ "*" →
      (wildcard [r] [h] = .ok true ∧ bestMatch [r] [h] = .ok false ↔ WildcardOnly r h) ∧
      (bestMatch [r] [h] = .ok true ∧ wildcard [r] [h] = .ok false ↔ BestMatchOnly r h) ∧
      (¬WildcardOnly r h → ¬BestMatchOnly r h → wildcard [r] [h] = bestMatch [r] [h]) := by
  refine ⟨fun required held => wildcardAllows_iff_of_short, fun r h hr hh => ?_⟩
  have hwildcard := wildcardAllows_singleton hr hh
  have hbestMatch := bestMatchAllows_singleton (r := r) (h := h)
  have hapart := toldApart r h
  simp only [wildcard, bestMatch, Except.ok.injEq]
  rw [← hapart.wildcard, ← hapart.bestMatch, ← hwildcard, ← hbestMatch]
  cases wildcardAllows [r] [h] <;> cases bestMatchAllows [r] [h] <;> simp

/-- Over a deletion by administrators and the right to all operations on accounts, only the
wildcard policy consents; over reports without roles the two are one. -/
theorem deletion_told_apart :
    (∀ s ∈ ["report:read"] ++ ["report:*"], Short s) ∧
    (wildcardAllows ["report:read"] ["report:*"] = true ↔
      ("*" ∈ ["report:read"] ∨ "*" ∈ ["report:*"]) ∨
        (Match.best? ["report:read"] ["report:*"]).isSome) ∧
    "account:admin:delete" ≠ "*" ∧ "account:*" ≠ "*" ∧
    wildcard ["account:admin:delete"] ["account:*"] = .ok true ∧
    bestMatch ["account:admin:delete"] ["account:*"] = .ok false ∧
    ¬WildcardOnly "report:read" "report:*" ∧ ¬BestMatchOnly "report:read" "report:*" ∧
    wildcard ["report:read"] ["report:*"] = bestMatch ["report:read"] ["report:*"] := by
  have hshort : ∀ s ∈ ["report:read"] ++ ["report:*"], Short s := by decide
  obtain ⟨hwildcard, hbestMatch⟩ :=
    (shipped_disagree_iff.2 "account:admin:delete" "account:*" (by decide) (by decide)).1.mpr
      (by decide)
  have hneither : ¬WildcardOnly "report:read" "report:*" ∧
      ¬BestMatchOnly "report:read" "report:*" := by decide
  have hone := (shipped_disagree_iff.2 "report:read" "report:*" (by decide) (by decide)).2.2
    hneither.1 hneither.2
  exact ⟨hshort, shipped_disagree_iff.1 _ _ hshort, by decide, by decide, hwildcard, hbestMatch,
    hneither.1, hneither.2, hone⟩

end Turnstile.Policy
