/-
What becomes of a match when a held privilege is widened.

A privilege is widened by putting the wildcard at some of its positions.  A wildcard agrees with
all that the position agreed with before, so nothing that matched is lost; a literal that gives
way costs the match a point, and a role that was not written cost that point already.

For a whole list this says that access is never lost.  It does not say that the best match
cannot become heavier: a widened privilege may answer a requirement that it did not answer
before, and answer it better than what was found (`widening_adds_weight`).  That is the only
way, because a pair that matched before weighs no more than it did.
-/
import Mathlib.Data.List.Forall2
import Turnstile.Proofs.Weight

namespace Turnstile

/-! ### Positions -/

namespace Segment

/-- The position is kept, or the wildcard stands there now. -/
def Widens (s s' : Segment) : Prop := s' = s ∨ s' = .wildcard

instance (s s' : Segment) : Decidable (s.Widens s') := inferInstanceAs (Decidable (_ ∨ _))

/-- One where a literal gave way to the wildcard. -/
def opened : Segment → Segment → Nat
  | value _, wildcard => 1
  | _, _ => 0

theorem agrees_absent_strict_iff {s : Segment} :
    (compare false absent s).agrees = true ↔ s = absent := by
  cases s <;> simp [compare, standsFor, isWildcard, isAbsent]

namespace Widens

variable {s s' : Segment}

/-- What agreed with the position still does. -/
theorem agrees (h : s.Widens s') {lenient : Bool} (hwritten : lenient = true ∨ s ≠ .absent)
    {r : Segment} (hagrees : (compare lenient r s).agrees = true) :
    (compare lenient r s').agrees = true := by
  rcases h with rfl | rfl
  · exact hagrees
  · refine agrees_wildcard ?_
    cases lenient with
    | true => exact .inl rfl
    | false =>
        -- Where absence is strict, only an absent position agrees with an absent one.
        refine .inr fun hr => ?_
        rw [hr, agrees_absent_strict_iff] at hagrees
        exact hwritten.elim Bool.noConfusion fun hne => hne hagrees

theorem cost_eq (h : s.Widens s') : s'.cost = s.cost + s.opened s' := by
  rcases h with rfl | rfl
  · cases s' <;> rfl
  · cases s <;> rfl

end Widens

end Segment

/-! ### Privileges -/

namespace Privilege

/-- Every position is kept, or the wildcard stands there now. -/
def Widens (p p' : Privilege) : Prop :=
  p.resource.Widens p'.resource ∧ p.role.Widens p'.role ∧ p.operation.Widens p'.operation

instance (p p' : Privilege) : Decidable (p.Widens p') := inferInstanceAs (Decidable (_ ∧ _))

/-- How many literals gave way to the wildcard. -/
def opened (p p' : Privilege) : Nat :=
  p.resource.opened p'.resource + p.role.opened p'.role + p.operation.opened p'.operation

variable {p q q' : Privilege}

theorem Widens.cost_eq (h : q.Widens q') : q'.cost = q.cost + q.opened q' := by
  obtain ⟨hresource, hrole, hoperation⟩ := h
  unfold cost opened
  rw [hresource.cost_eq, hrole.cost_eq, hoperation.cost_eq]
  omega

/-- What a privilege matches it still matches when it is widened. -/
theorem Widens.matches (h : q.Widens q') (hq : q.Legible) (hmatch : (weight? p q).isSome) :
    (weight? p q').isSome := by
  rw [isSome_weight?_iff] at hmatch ⊢
  obtain ⟨hresource, hrole, hoperation⟩ := hmatch
  exact ⟨h.1.agrees (.inr hq.resource.ne_absent) hresource, h.2.1.agrees (.inl rfl) hrole,
    h.2.2.agrees (.inr hq.operation_ne_absent) hoperation⟩

/-- **And the match weighs less by the literals that gave way.** -/
theorem Widens.weight?_eq (h : q.Widens q') (hq : q.Legible) {w : Nat}
    (hweight : weight? p q = some w) :
    ∃ w', weight? p q' = some w' ∧ w' + q.opened q' = w := by
  obtain ⟨hmatch, hsum⟩ := weight?_eq_some_iff.mp hweight
  have hcost := h.cost_eq
  have hp := cost_le p
  have hq' := cost_le q'
  refine ⟨w - q.opened q', weight?_eq_some_iff.mpr ⟨h.matches hq hmatch, ?_⟩, ?_⟩
  · omega
  · omega

/-- A text that is read as another one is, with the wildcard at some positions. -/
def Broadens (h h' : String) : Prop := (parse h).Widens (parse h')

instance (h h' : String) : Decidable (Broadens h h') :=
  inferInstanceAs (Decidable ((parse h).Widens (parse h')))

end Privilege

/-! ### Lists of privileges -/

namespace Match

open Privilege

variable {required held held' : List String} {r h h' : String} {m m' : Match}

theorem ofPair?_of_broadens (hbroad : Broadens h h') (hm : ofPair? r h = some m) :
    ∃ m', ofPair? r h' = some m' ∧ m'.weight + (parse h).opened (parse h') = m.weight := by
  obtain ⟨-, -, hweight⟩ := ofPair?_eq_some_iff.mp hm
  obtain ⟨w', hweight', hsum⟩ := hbroad.weight?_eq (legible_parse h) hweight
  exact ⟨{ required := r, held := h', weight := w' },
    ofPair?_eq_some_iff.mpr ⟨rfl, rfl, hweight'⟩, hsum⟩

/-- Each privilege of the list stands beside the one it is widened to. -/
theorem getElem?_of_broadens (hbroad : List.Forall₂ Broadens held held') {j : Nat}
    (hj : j < held.length) :
    ∃ h h', held[j]? = some h ∧ held'[j]? = some h' ∧ (h, h') ∈ held.zip held' ∧
      Broadens h h' := by
  have hj' : j < held'.length := hbroad.length_eq ▸ hj
  have hh : held[j]? = some held[j] := List.getElem?_eq_getElem hj
  have hh' : held'[j]? = some held'[j] := List.getElem?_eq_getElem hj'
  have hmem : (held[j], held'[j]) ∈ held.zip held' :=
    List.mem_of_getElem? (List.getElem?_zip_eq_some.mpr ⟨hh, hh'⟩)
  exact ⟨held[j], held'[j], hh, hh', hmem, List.forall₂_zip hbroad hmem⟩

/-- At a place where there was a match, there is one that is no heavier. -/
theorem cell_of_broadens (hbroad : List.Forall₂ Broadens held held') {i j : Nat}
    (hm : cell required held i j = some m) :
    ∃ m', cell required held' i j = some m' ∧ m'.weight ≤ m.weight := by
  obtain ⟨r, h, hr, hh, hpair⟩ := cell_eq_some_iff.mp hm
  obtain ⟨hj, -⟩ := List.getElem?_eq_some_iff.mp hh
  obtain ⟨_, h', hsame, hh', -, hwide⟩ := getElem?_of_broadens hbroad hj
  obtain rfl := Option.some.inj (hsame.symm.trans hh)
  obtain ⟨m', hpair', hsum⟩ := ofPair?_of_broadens hwide hpair
  exact ⟨m', cell_eq_some_iff.mpr ⟨r, h', hr, hh', hpair'⟩, by omega⟩

/-- So something is still found. -/
theorem exists_best?_of_broadens (hbroad : List.Forall₂ Broadens held held')
    (hm : best? required held = some m) : ∃ m', best? required held' = some m' := by
  obtain ⟨i, j, hcell, -⟩ := exists_cell_of_best? hm
  obtain ⟨m', hcell', -⟩ := cell_of_broadens hbroad hcell
  obtain ⟨b, hbest, -⟩ := exists_best?_of_cell hcell'
  exact ⟨b, hbest⟩

/-- If it is heavier than what was found before, it is a match that was none before. -/
theorem unmatched_of_heavier (hbroad : List.Forall₂ Broadens held held')
    (hm : best? required held = some m) (hm' : best? required held' = some m')
    (hlt : m.weight < m'.weight) :
    ∃ h, (h, m'.held) ∈ held.zip held' ∧ ofPair? m'.required h = none := by
  obtain ⟨_, _, -, hrest⟩ := exists_cell_of_best? hm
  obtain ⟨i, j, hcell', -⟩ := exists_cell_of_best? hm'
  obtain ⟨r, h', hr, hh', hpair⟩ := cell_eq_some_iff.mp hcell'
  obtain ⟨hrequired, hheld, -⟩ := ofPair?_eq_some_iff.mp hpair
  obtain ⟨hj, -⟩ := List.getElem?_eq_some_iff.mp hh'
  obtain ⟨h, _, hh, hsame, hmem, -⟩ := getElem?_of_broadens hbroad (hbroad.length_eq ▸ hj)
  obtain rfl := Option.some.inj (hsame.symm.trans hh')
  rw [hrequired, hheld]
  refine ⟨h, hmem, Option.eq_none_iff_forall_ne_some.mpr fun b hb => ?_⟩
  -- Had the pair matched before, what is found now would be no heavier than what was found then.
  have hcell : cell required held i j = some b := cell_eq_some_iff.mpr ⟨r, h, hr, hh, hb⟩
  obtain ⟨b', hsame', hle⟩ := cell_of_broadens hbroad hcell
  obtain rfl := Option.some.inj (hsame'.symm.trans hcell')
  have hbound := (hrest i j b hcell).1
  omega

theorem bestMatch_eq_ok_true_iff :
    Policy.bestMatch required held = .ok true ↔ ∃ m, best? required held = some m := by
  rw [Policy.bestMatch, Except.ok.injEq, Policy.bestMatchAllows, Option.isSome_iff_exists]

/--
**Widening never loses access.**  If a held privilege matches a requirement, it still does with
the wildcard at some of its positions, and the match weighs less by the number of literals that
gave way.  If any privileges of a list are widened like that, the policy still consents where it
did, and the match found is heavier than before only if its requirement was not met before by
the privilege that is widened there.
-/
theorem widening_keeps_access :
    (∀ r h h' m, Broadens h h' → ofPair? r h = some m →
      ∃ m', ofPair? r h' = some m' ∧ m'.weight + (parse h).opened (parse h') = m.weight) ∧
    ∀ required held held', List.Forall₂ Broadens held held' →
      (Policy.bestMatch required held = .ok true → Policy.bestMatch required held' = .ok true) ∧
      ∀ m m', best? required held = some m → best? required held' = some m' →
        m.weight < m'.weight →
          ∃ h, (h, m'.held) ∈ held.zip held' ∧ ofPair? m'.required h = none := by
  refine ⟨fun r h h' m => ofPair?_of_broadens, fun required held held' hbroad => ⟨?_, ?_⟩⟩
  · rw [bestMatch_eq_ok_true_iff, bestMatch_eq_ok_true_iff]
    intro hfound
    obtain ⟨m, hm⟩ := hfound
    exact exists_best?_of_broadens hbroad hm
  · intro m m'
    exact unmatched_of_heavier hbroad

/-- Who holds everything, and a right to accounts that is widened to all resources. -/
def beforeWidening : List String := ["*:*:*", "account:admin:read"]

def afterWidening : List String := ["*:*:*", "*:admin:read"]

/-- The report was read by the right to everything before, and by the widened one after. -/
theorem widening_adds_weight :
    List.Forall₂ Broadens beforeWidening afterWidening ∧
    best? ["report:admin:read"] beforeWidening =
      some { required := "report:admin:read", held := "*:*:*", weight := 6 } ∧
    best? ["report:admin:read"] afterWidening =
      some { required := "report:admin:read", held := "*:admin:read", weight := 8 } := by
  refine ⟨.cons ?_ (.cons ?_ .nil), ?_, ?_⟩ <;> decide +kernel

/-- There the heavier match is one that was none before; and a right that is widened at a role
that was not written and at an operation loses the one point of the operation. -/
theorem widened_account_found :
    List.Forall₂ Broadens beforeWidening afterWidening ∧
    Policy.bestMatch ["report:admin:read"] beforeWidening = .ok true ∧
    Policy.bestMatch ["report:admin:read"] afterWidening = .ok true ∧
    (∃ h, (h, "*:admin:read") ∈ beforeWidening.zip afterWidening ∧
      ofPair? "report:admin:read" h = none) ∧
    Broadens "account:read" "account:*:*" ∧
    ∃ m, ofPair? "account:read" "account:*:*" = some m ∧
      m.weight + (parse "account:read").opened (parse "account:*:*") = 7 := by
  have hbroad : List.Forall₂ Broadens beforeWidening afterWidening := by
    refine .cons ?_ (.cons ?_ .nil) <;> decide +kernel
  have hpair : Broadens "account:read" "account:*:*" := by decide +kernel
  have hconsent : Policy.bestMatch ["report:admin:read"] beforeWidening = .ok true := by
    decide +kernel
  have hlists := widening_keeps_access.2 ["report:admin:read"] _ _ hbroad
  refine ⟨hbroad, hconsent, hlists.1 hconsent, ?_, hpair, ?_⟩
  · exact hlists.2 { required := "report:admin:read", held := "*:*:*", weight := 6 }
      { required := "report:admin:read", held := "*:admin:read", weight := 8 }
      (by decide +kernel) (by decide +kernel) (by decide)
  · exact widening_keeps_access.1 "account:read" "account:read" "account:*:*"
      { required := "account:read", held := "account:read", weight := 7 } hpair (by decide +kernel)

end Match

end Turnstile
