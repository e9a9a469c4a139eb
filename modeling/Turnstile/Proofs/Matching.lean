/-
When two privileges match, in terms of their texts.

A position of two privileges agrees when the tokens there do, which `Agree` says of any two
tokens.  Only the role has a third possibility, that it was not written: then it agrees with
another such role, or with a wildcard.  So whether two texts match depends on how many colons
they have, and there are three cases, for two short texts, for two long ones and for one of
each.  Which of the two is required does not matter.
-/
import Turnstile.Privilege.Match
import Turnstile.Proofs.Privilege

namespace Turnstile

namespace Privilege

/-- Two tokens are equal, or one of them is the asterisk. -/
def Agree (a b : String) : Prop := a = b ∨ a = "*" ∨ b = "*"

instance (a b : String) : Decidable (Agree a b) := inferInstanceAs (Decidable (_ ∨ _))

theorem agree_comm {a b : String} : Agree a b ↔ Agree b a := by
  unfold Agree
  rw [eq_comm, or_comm (a := a = "*")]

end Privilege

namespace Segment

open Privilege

/-! ### One position -/

theorem compare_comm (lenient : Bool) (a b : Segment) :
    compare lenient a b = compare lenient b a := by
  simp only [compare, Comparison.mk.injEq]
  refine ⟨?_, Nat.add_comm _ _, Nat.add_comm _ _⟩
  rw [Bool.or_assoc, Bool.or_assoc, Bool.or_comm (standsFor lenient a b), BEq.comm]

theorem agrees_ofToken (lenient : Bool) (a b : String) :
    (compare lenient (ofToken a) (ofToken b)).agrees = true ↔ Agree a b := by
  unfold Agree
  by_cases ha : a = "*" <;> by_cases hb : b = "*" <;>
    simp [compare, standsFor, isWildcard, isAbsent, ofToken, ha, hb]

theorem agrees_absent : (compare true absent absent).agrees = true := rfl

/-- A role that was not written agrees with the wildcard and with no literal. -/
theorem agrees_absent_ofToken (b : String) :
    (compare true absent (ofToken b)).agrees = true ↔ b = "*" := by
  by_cases hb : b = "*" <;> simp [compare, standsFor, isWildcard, isAbsent, ofToken, hb]

/-- The wildcard agrees with every position that was written, and with one that was not where
absence is lenient. -/
theorem agrees_wildcard {lenient : Bool} {s : Segment} (h : lenient = true ∨ s ≠ .absent) :
    (compare lenient s .wildcard).agrees = true := by
  cases s with
  | wildcard => rfl
  | absent =>
      have hlenient : lenient = true := h.resolve_right fun hne => hne rfl
      rw [hlenient]
      rfl
  | value t => cases lenient <;> rfl

/-- A literal agrees with itself and with the wildcard. -/
theorem agrees_value_iff {lenient : Bool} {t : String} {s : Segment} :
    (compare lenient (.value t) s).agrees = true ↔ s = .value t ∨ s = .wildcard := by
  cases s with
  | wildcard => cases lenient <;> simp [compare, standsFor, isWildcard, isAbsent]
  | absent => simp [compare, standsFor, isWildcard]
  | value t' =>
      by_cases h : t = t'
      · simp [compare, standsFor, isWildcard, h]
      · simp [compare, standsFor, isWildcard, h, Ne.symm h]

end Segment

namespace Privilege

/-! ### All three positions -/

theorem weight?_comm (p q : Privilege) : weight? p q = weight? q p := by
  simp only [weight?, Segment.compare_comm _ p.resource, Segment.compare_comm _ p.role,
    Segment.compare_comm _ p.operation]

theorem isSome_weight?_iff (p q : Privilege) :
    (weight? p q).isSome ↔
      (Segment.compare false p.resource q.resource).agrees = true ∧
      (Segment.compare true p.role q.role).agrees = true ∧
      (Segment.compare false p.operation q.operation).agrees = true := by
  simp only [weight?, Option.isSome_ite, Bool.and_eq_true, and_assoc]

end Privilege

namespace Match

open Privilege

variable {r h : String}

theorem isSome_ofPair?_iff :
    (ofPair? r h).isSome ↔ (weight? (parse r) (parse h)).isSome := by
  simp [ofPair?, ofRead?]

theorem isSome_ofPair?_comm : (ofPair? r h).isSome ↔ (ofPair? h r).isSome := by
  rw [isSome_ofPair?_iff, isSome_ofPair?_iff, weight?_comm]

/-- Short texts match on resource and operation. -/
theorem isSome_ofPair?_of_short (hr : Short r) (hh : Short h) :
    (ofPair? r h).isSome ↔ Agree (resourceOf r) (resourceOf h) ∧ Agree (restOf r) (restOf h) := by
  rw [isSome_ofPair?_iff, isSome_weight?_iff, parse_of_short hr, parse_of_short hh,
    Segment.agrees_ofToken, Segment.agrees_ofToken, iff_true_intro Segment.agrees_absent, true_and]

/-- Long texts match on resource, role and operation. -/
theorem isSome_ofPair?_of_long (hr : ¬Short r) (hh : ¬Short h) :
    (ofPair? r h).isSome ↔ Agree (resourceOf r) (resourceOf h) ∧
      Agree (roleOf r) (roleOf h) ∧ Agree (operationOf r) (operationOf h) := by
  rw [isSome_ofPair?_iff, isSome_weight?_iff, parse_of_long hr, parse_of_long hh,
    Segment.agrees_ofToken, Segment.agrees_ofToken, Segment.agrees_ofToken]

/-- A short text matches a long one only if the role of that is the wildcard. -/
theorem isSome_ofPair?_of_short_long (hr : Short r) (hh : ¬Short h) :
    (ofPair? r h).isSome ↔ Agree (resourceOf r) (resourceOf h) ∧
      roleOf h = "*" ∧ Agree (restOf r) (operationOf h) := by
  rw [isSome_ofPair?_iff, isSome_weight?_iff, parse_of_short hr, parse_of_long hh,
    Segment.agrees_ofToken, Segment.agrees_absent_ofToken, Segment.agrees_ofToken]

end Match

end Turnstile
