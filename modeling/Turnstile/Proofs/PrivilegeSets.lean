/-
The shipped policies answer for sets of privileges, not for lists.

The wildcard policy looks for a lone asterisk or for a pair that agrees, and the best-match
policy for a pair that matches; neither asks where in the two lists a privilege stands, how
often it does, or which of the two lists is the required one.  The weight of the match found is
the greatest element of a set as well, that of the weights of all matching pairs (`weights`), so
it has nothing to do with order either, and more privileges can only raise it.

What does depend on order is which of several equally heavy matches is found.  Of two matches
the later one is taken only if it is heavier, and that choice is associative: what is found for
one list of requirements behind another is the choice between what is found for either.  There
is no such law for what is held, because the search goes through the requirements first.
-/
import Mathlib.Order.Bounds.Basic
import Turnstile.Proofs.Policies
import Turnstile.Proofs.Weight

namespace Turnstile

namespace Match

open Privilege

/-! ### Choosing between two matches -/

@[simp] theorem none_heavier (next : Option Match) : heavier none next = next := by
  cases next <;> rfl

@[simp] theorem heavier_none (best : Option Match) : heavier best none = best := by
  cases best <;> rfl

theorem heavier_some (b m : Match) :
    heavier (some b) (some m) = if b.weight < m.weight then some m else some b := rfl

/-- The later match is there, and is heavier than the earlier one if that is there too. -/
def Outweighs (next best : Option Match) : Prop := ∃ m ∈ next, ∀ b ∈ best, b.weight < m.weight

instance (next best : Option Match) : Decidable (Outweighs next best) :=
  inferInstanceAs (Decidable (∃ m ∈ next, ∀ b ∈ best, b.weight < m.weight))

theorem heavier_eq_ite (best next : Option Match) :
    heavier best next = if Outweighs next best then next else best := by
  cases next with
  | none => simp [Outweighs]
  | some m =>
      cases best with
      | none => simp [Outweighs]
      | some b => simp [Outweighs, heavier_some]

theorem heavier_assoc (a b c : Option Match) :
    heavier (heavier a b) c = heavier a (heavier b c) := by
  cases a with
  | none => simp
  | some a =>
      cases b with
      | none => simp
      | some b =>
          cases c with
          | none => simp
          | some c =>
              by_cases hab : a.weight < b.weight <;> by_cases hbc : b.weight < c.weight
              · have hac : a.weight < c.weight := hab.trans hbc
                simp only [heavier_some, if_pos hab, if_pos hbc, if_pos hac]
              · simp only [heavier_some, if_pos hab, if_neg hbc]
              · simp only [heavier_some, if_neg hab, if_pos hbc]
              · have hac : ¬a.weight < c.weight := by omega
                simp only [heavier_some, if_neg hab, if_neg hbc, if_neg hac]

instance : Std.Associative heavier := ⟨heavier_assoc⟩

/-- The search goes through all pairs, requirement by requirement. -/
theorem best?_eq_foldl_pairs (required held : List String) :
    best? required held =
      (required.flatMap fun r => held.map (ofPair? r)).foldl heavier none := by
  rw [best?_eq_foldl_ofPair?, List.foldl_flatMap]
  simp only [List.foldl_map]

/-- **Requirements are searched one list after the other.** -/
theorem best?_append (first second held : List String) :
    best? (first ++ second) held = heavier (best? first held) (best? second held) := by
  rw [best?_eq_foldl_pairs, List.flatMap_append, List.foldl_append, ← best?_eq_foldl_pairs]
  calc (second.flatMap fun r => held.map (ofPair? r)).foldl heavier (best? first held)
      = (second.flatMap fun r => held.map (ofPair? r)).foldl heavier
          (heavier (best? first held) none) := by rw [heavier_none]
    _ = heavier (best? first held)
          ((second.flatMap fun r => held.map (ofPair? r)).foldl heavier none) := List.foldl_assoc
    _ = heavier (best? first held) (best? second held) := by rw [← best?_eq_foldl_pairs]

/-! ### The weight that is found -/

/-- The weight of the match that is found. -/
def bestWeight? (required held : List String) : Option Nat :=
  (best? required held).map Match.weight

/-- The weights of all matches between two lists. -/
def weights (required held : List String) : Set Nat :=
  {w | ∃ r ∈ required, ∃ h ∈ held, weight? (parse r) (parse h) = some w}

variable {required required' held held' : List String} {w : Nat}

theorem mem_weights_iff :
    w ∈ weights required held ↔ ∃ i j m, cell required held i j = some m ∧ m.weight = w := by
  constructor
  · intro hw
    obtain ⟨r, hr, h, hh, hweight⟩ := hw
    obtain ⟨i, hi⟩ := List.mem_iff_getElem?.mp hr
    obtain ⟨j, hj⟩ := List.mem_iff_getElem?.mp hh
    have hpair : ofPair? r h = some { required := r, held := h, weight := w } :=
      ofPair?_eq_some_iff.mpr ⟨rfl, rfl, hweight⟩
    exact ⟨i, j, _, cell_eq_some_iff.mpr ⟨r, h, hi, hj, hpair⟩, rfl⟩
  · intro hcell
    obtain ⟨i, j, m, hm, rfl⟩ := hcell
    obtain ⟨r, h, hi, hj, hpair⟩ := cell_eq_some_iff.mp hm
    exact ⟨r, List.mem_of_getElem? hi, h, List.mem_of_getElem? hj,
      (ofPair?_eq_some_iff.mp hpair).2.2⟩

theorem isGreatest_of_best? {b : Match} (hbest : best? required held = some b) :
    IsGreatest (weights required held) b.weight := by
  obtain ⟨i, j, hcell, hrest⟩ := exists_cell_of_best? hbest
  refine ⟨mem_weights_iff.mpr ⟨i, j, b, hcell, rfl⟩, fun w hw => ?_⟩
  obtain ⟨i', j', m, hm, rfl⟩ := mem_weights_iff.mp hw
  exact (hrest i' j' m hm).1

/-- **The weight found is the greatest of all matches between the lists.** -/
theorem bestWeight?_eq_some_iff :
    bestWeight? required held = some w ↔ IsGreatest (weights required held) w := by
  rw [bestWeight?, Option.map_eq_some_iff]
  constructor
  · intro hfound
    obtain ⟨b, hbest, rfl⟩ := hfound
    exact isGreatest_of_best? hbest
  · intro hgreatest
    obtain ⟨i, j, m, hm, -⟩ := mem_weights_iff.mp hgreatest.1
    obtain ⟨b, hbest, -⟩ := exists_best?_of_cell hm
    exact ⟨b, hbest, (isGreatest_of_best? hbest).unique hgreatest⟩

theorem exists_bestWeight?_iff :
    (∃ w, bestWeight? required held = some w) ↔ (weights required held).Nonempty := by
  constructor
  · intro hfound
    obtain ⟨w, hw⟩ := hfound
    exact ⟨w, (bestWeight?_eq_some_iff.mp hw).1⟩
  · intro hnonempty
    obtain ⟨w, hw⟩ := hnonempty
    obtain ⟨i, j, m, hm, -⟩ := mem_weights_iff.mp hw
    obtain ⟨b, hbest, -⟩ := exists_best?_of_cell hm
    exact ⟨b.weight, by rw [bestWeight?, hbest, Option.map_some]⟩

theorem bestWeight?_congr (h : weights required held = weights required' held') :
    bestWeight? required held = bestWeight? required' held' := by
  refine Option.ext fun w => ?_
  rw [bestWeight?_eq_some_iff, bestWeight?_eq_some_iff, h]

theorem weights_comm (required held : List String) :
    weights required held = weights held required := by
  refine Set.ext fun w => ⟨fun hw => ?_, fun hw => ?_⟩ <;>
  · obtain ⟨r, hr, h, hh, hweight⟩ := hw
    exact ⟨h, hh, r, hr, weight?_comm _ _ ▸ hweight⟩

theorem weights_subset (hrequired : required ⊆ required') (hheld : held ⊆ held') :
    weights required held ⊆ weights required' held' := by
  intro w hw
  obtain ⟨r, hr, h, hh, hweight⟩ := hw
  exact ⟨r, hrequired hr, h, hheld hh, hweight⟩

/-- More privileges on either side match no less well. -/
theorem exists_bestWeight?_of_subset (hrequired : required ⊆ required') (hheld : held ⊆ held')
    (hw : bestWeight? required held = some w) :
    ∃ w', bestWeight? required' held' = some w' ∧ w ≤ w' := by
  have hsubset := weights_subset hrequired hheld
  have hgreatest := bestWeight?_eq_some_iff.mp hw
  obtain ⟨w', hw'⟩ := exists_bestWeight?_iff.mpr ⟨w, hsubset hgreatest.1⟩
  exact ⟨w', hw', hgreatest.mono (bestWeight?_eq_some_iff.mp hw') hsubset⟩

end Match

namespace Policy

open Match

variable {required required' held held' : List String}

/-! ### The answers -/

theorem bestMatchAllows_eq (required held : List String) :
    bestMatchAllows required held = (bestWeight? required held).isSome := by
  rw [bestMatchAllows, bestWeight?, Option.isSome_map]

theorem wildcardAllows_of_subset (hrequired : required ⊆ required') (hheld : held ⊆ held')
    (hallows : wildcardAllows required held = true) : wildcardAllows required' held' = true := by
  rw [wildcardAllows_iff] at hallows ⊢
  refine hallows.imp (Or.imp (@hrequired _) (@hheld _)) fun hpair => ?_
  obtain ⟨r, hr, h, hh, hagree⟩ := hpair
  exact ⟨r, hrequired hr, h, hheld hh, hagree⟩

theorem wildcardAllows_comm (required held : List String) :
    wildcardAllows required held = wildcardAllows held required := by
  rw [Bool.eq_iff_iff, wildcardAllows_iff, wildcardAllows_iff]
  refine or_congr or_comm ⟨fun hpair => ?_, fun hpair => ?_⟩ <;>
  · obtain ⟨r, hr, h, hh, hagree⟩ := hpair
    exact ⟨h, hh, r, hr, agreeInHalves_comm.mp hagree⟩

theorem bestMatchAllows_of_subset (hrequired : required ⊆ required') (hheld : held ⊆ held')
    (hallows : bestMatchAllows required held = true) :
    bestMatchAllows required' held' = true := by
  rw [bestMatchAllows_eq, Option.isSome_iff_exists] at hallows ⊢
  obtain ⟨w, hw⟩ := hallows
  obtain ⟨w', hw', -⟩ := exists_bestWeight?_of_subset hrequired hheld hw
  exact ⟨w', hw'⟩

/--
**The shipped policies answer for sets of privileges.**  Lists that hold the same privileges, in
any order and any number of times, get the same answers from both, and the match found between
them weighs the same; so do the two lists exchanged for one another.  With more privileges
required or held neither consent is withdrawn, and the match found is no lighter.  What is found
for one list of requirements behind another is what is found for the second if that is heavier
than what is found for the first, if anything is, and otherwise what is found for the first.
-/
theorem answers_of_sets :
    (∀ required required' held held' : List String,
      (∀ s, s ∈ required ↔ s ∈ required') → (∀ s, s ∈ held ↔ s ∈ held') →
        wildcardAllows required held = wildcardAllows required' held' ∧
        bestMatchAllows required held = bestMatchAllows required' held' ∧
        bestWeight? required held = bestWeight? required' held') ∧
    (∀ required held : List String,
      wildcardAllows required held = wildcardAllows held required ∧
      bestMatchAllows required held = bestMatchAllows held required ∧
      bestWeight? required held = bestWeight? held required) ∧
    (∀ required required' held held' : List String, required ⊆ required' → held ⊆ held' →
      (wildcardAllows required held = true → wildcardAllows required' held' = true) ∧
      (bestMatchAllows required held = true → bestMatchAllows required' held' = true) ∧
      ∀ w, bestWeight? required held = some w →
        ∃ w', bestWeight? required' held' = some w' ∧ w ≤ w') ∧
    ∀ first second held : List String,
      best? (first ++ second) held =
        if Outweighs (best? second held) (best? first held) then best? second held
        else best? first held := by
  refine ⟨fun required required' held held' hrequired hheld => ?_, fun required held => ?_,
    fun required required' held held' hrequired hheld => ?_, fun first second held => ?_⟩
  · have hto : required ⊆ required' := fun s hs => (hrequired s).mp hs
    have hfrom : required' ⊆ required := fun s hs => (hrequired s).mpr hs
    have hto' : held ⊆ held' := fun s hs => (hheld s).mp hs
    have hfrom' : held' ⊆ held := fun s hs => (hheld s).mpr hs
    have hweights : weights required held = weights required' held' :=
      (weights_subset hto hto').antisymm (weights_subset hfrom hfrom')
    refine ⟨?_, ?_, bestWeight?_congr hweights⟩
    · exact Bool.eq_iff_iff.mpr
        ⟨wildcardAllows_of_subset hto hto', wildcardAllows_of_subset hfrom hfrom'⟩
    · rw [bestMatchAllows_eq, bestMatchAllows_eq, bestWeight?_congr hweights]
  · have hweight := bestWeight?_congr (weights_comm required held)
    refine ⟨wildcardAllows_comm required held, ?_, hweight⟩
    rw [bestMatchAllows_eq, bestMatchAllows_eq, hweight]
  · exact ⟨wildcardAllows_of_subset hrequired hheld, bestMatchAllows_of_subset hrequired hheld,
      fun w => exists_bestWeight?_of_subset hrequired hheld⟩
  · rw [best?_append, heavier_eq_ite]

/-- Which of two equally heavy matches is found depends on which is required first. -/
example : best? ["account:read", "report:read"] ["*:read"] =
      some { required := "account:read", held := "*:read", weight := 6 } ∧
    best? ["report:read", "account:read"] ["*:read"] =
      some { required := "report:read", held := "*:read", weight := 6 } := by
  decide +kernel

/-- Two requirements and a right to all reading, in other orders and repeated, and then beside
the very right to what is required. -/
theorem reading_answered_alike :
    let required := ["account:read", "report:read"]
    let again := ["report:read", "account:read", "report:read"]
    (∀ s, s ∈ required ↔ s ∈ again) ∧
    wildcardAllows required ["*:read"] = wildcardAllows again ["*:read"] ∧
    bestWeight? required ["*:read"] = bestWeight? again ["*:read"] ∧
    required ⊆ again ∧ ["*:read"] ⊆ ["report:read", "*:read"] ∧
    bestWeight? required ["*:read"] = some 6 ∧
    ∃ w, bestWeight? again ["report:read", "*:read"] = some w ∧ 6 ≤ w := by
  intro required again
  have hsame : ∀ s, s ∈ required ↔ s ∈ again := by
    intro s
    simp only [required, again, List.mem_cons, List.not_mem_nil, or_false]
    tauto
  have hmore : required ⊆ again := fun s hs => (hsame s).mp hs
  have hheld : ["*:read"] ⊆ ["report:read", "*:read"] := List.subset_cons_self _ _
  have hweight : bestWeight? required ["*:read"] = some 6 := by decide +kernel
  obtain ⟨hwildcard, -, halike⟩ :=
    answers_of_sets.1 required again ["*:read"] ["*:read"] hsame fun s => Iff.rfl
  exact ⟨hsame, hwildcard, halike, hmore, hheld, hweight,
    (answers_of_sets.2.2.1 required again _ _ hmore hheld).2.2 6 hweight⟩

end Policy

end Turnstile
