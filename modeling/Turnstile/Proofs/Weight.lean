/-
How much a match weighs.

A position costs a match one point on each side where no literal stands.  So the weight is nine
less what either privilege costs, and a privilege costs the same whatever it is matched with:
one point for each position that is a wildcard or was not written.

Only a privilege that is written out, with a role and without a wildcard, costs nothing.  Two
such privileges match only if they are one, and texts that are read with a role are read apart,
so a match of full weight is that of a text with itself.  None is heavier; a requirement that is
written out and held word for word is therefore found whatever else is required or held, and of
several such the first that is required.
-/
import Turnstile.Proofs.BestMatch
import Turnstile.Proofs.Matching

namespace Turnstile

/-! ### What a position costs -/

namespace Segment

/-- The points a match loses for the position: one, unless a literal stands there. -/
def cost : Segment → Nat
  | value _ => 0
  | _ => 1

theorem penalty_compare (lenient : Bool) (a b : Segment) :
    (compare lenient a b).penalty = a.cost + b.cost := by
  cases a <;> cases b <;> rfl

theorem cost_ofToken (t : String) : (ofToken t).cost = if t = "*" then 1 else 0 := by
  by_cases h : t = "*" <;> simp [ofToken, cost, h]

theorem cost_eq_zero_iff {s : Segment} : s.cost = 0 ↔ ∃ t, s = .value t := by
  cases s <;> simp [cost]

theorem agrees_self (lenient : Bool) (s : Segment) : (compare lenient s s).agrees = true := by
  simp [compare]

/-- Literals agree only if they are one. -/
theorem eq_of_agrees {lenient : Bool} {a b : Segment}
    (h : (compare lenient a b).agrees = true) (ha : a.cost = 0) (hb : b.cost = 0) : a = b := by
  obtain ⟨t, rfl⟩ := cost_eq_zero_iff.mp ha
  rcases agrees_value_iff.mp h with heq | heq
  · exact heq.symm
  · rw [heq] at hb
    cases hb

end Segment

/-! ### What a privilege costs -/

namespace Privilege

/-- The points a match loses for one of its privileges: one for every position that is a
wildcard or was not written. -/
def cost (p : Privilege) : Nat := p.resource.cost + p.role.cost + p.operation.cost

theorem cost_le (p : Privilege) : p.cost ≤ 3 := by
  have hle : ∀ s : Segment, s.cost ≤ 1 := by
    intro s
    cases s <;> simp [Segment.cost]
  have hresource := hle p.resource
  have hrole := hle p.role
  have hoperation := hle p.operation
  unfold cost
  omega

/-- **The weight of a match is nine less what its two privileges cost.** -/
theorem weight?_eq_some_iff {p q : Privilege} {w : Nat} :
    weight? p q = some w ↔ (weight? p q).isSome ∧ w + (p.cost + q.cost) = 9 := by
  have hp := cost_le p
  have hq := cost_le q
  unfold cost at hp hq ⊢
  unfold weight?
  simp only [Segment.penalty_compare, fullWeight]
  split
  · simp only [Option.some.injEq, Option.isSome_some, true_and]
    omega
  · simp

theorem isSome_weight?_self (p : Privilege) : (weight? p p).isSome := by
  rw [isSome_weight?_iff]
  exact ⟨Segment.agrees_self _ _, Segment.agrees_self _ _, Segment.agrees_self _ _⟩

/-! ### Privileges that are written out -/

/-- The text has a role, and no part of it is the asterisk. -/
def WrittenOut (s : String) : Prop :=
  ¬Short s ∧ resourceOf s ≠ "*" ∧ roleOf s ≠ "*" ∧ operationOf s ≠ "*"

instance (s : String) : Decidable (WrittenOut s) := inferInstanceAs (Decidable (_ ∧ _))

/-- Only what is written out costs nothing. -/
theorem cost_parse_eq_zero_iff (s : String) : (parse s).cost = 0 ↔ WrittenOut s := by
  unfold cost
  by_cases hshort : Short s
  · have hrole : Segment.absent.cost = 1 := rfl
    rw [parse_of_short hshort, hrole]
    exact iff_of_false (by omega) fun h => h.1 hshort
  · rw [parse_of_long hshort, Segment.cost_ofToken, Segment.cost_ofToken, Segment.cost_ofToken]
    simp [WrittenOut, hshort, and_assoc]

/-- Privileges without wildcards match only if they are one. -/
theorem eq_of_matches {p q : Privilege} (h : (weight? p q).isSome) (hp : p.cost = 0)
    (hq : q.cost = 0) : p = q := by
  obtain ⟨hresource, hrole, hoperation⟩ := (isSome_weight?_iff p q).mp h
  obtain ⟨resource, role, operation⟩ := p
  obtain ⟨resource', role', operation'⟩ := q
  simp only [cost] at hp hq
  rw [Privilege.mk.injEq]
  exact ⟨Segment.eq_of_agrees hresource (by omega) (by omega),
    Segment.eq_of_agrees hrole (by omega) (by omega),
    Segment.eq_of_agrees hoperation (by omega) (by omega)⟩

/-- A text that is read with a role is read like no other. -/
theorem eq_of_parse_eq {s t : String} (hlong : ¬Short s) (h : parse s = parse t) : s = t := by
  rcases (parse_eq_iff s t).mp h with heq | ⟨hfree, -⟩ | ⟨hfree, heq⟩
  · exact heq
  · exact absurd (short_of_notMem hfree) hlong
  · refine absurd ?_ hlong
    have hnone : t.toList.count ':' = 0 := List.count_eq_zero.mpr hfree
    rw [heq, Short, String.toList_append, List.count_append, hnone]
    decide

/-- So at full weight, what is written out matches itself and nothing else does. -/
theorem weight?_parse_eq_nine_iff {r h : String} :
    weight? (parse r) (parse h) = some 9 ↔ r = h ∧ WrittenOut r := by
  rw [weight?_eq_some_iff]
  constructor
  · intro hnine
    obtain ⟨hsome, hcost⟩ := hnine
    have hr : (parse r).cost = 0 := by omega
    have hh : (parse h).cost = 0 := by omega
    have hout : WrittenOut r := (cost_parse_eq_zero_iff r).mp hr
    exact ⟨eq_of_parse_eq hout.1 (eq_of_matches hsome hr hh), hout⟩
  · intro hself
    obtain ⟨rfl, hout⟩ := hself
    have hcost := (cost_parse_eq_zero_iff r).mpr hout
    exact ⟨isSome_weight?_self _, by omega⟩

end Privilege

namespace Match

open Privilege

variable {required held : List String} {r h : String} {m : Match}

theorem ofPair?_eq_some_iff :
    ofPair? r h = some m ↔
      m.required = r ∧ m.held = h ∧ weight? (parse r) (parse h) = some m.weight := by
  obtain ⟨required, held, weight⟩ := m
  simp only [ofPair?, ofRead?, Option.map_eq_some_iff, Match.mk.injEq]
  constructor
  · intro hm
    obtain ⟨w, hw, rfl, rfl, rfl⟩ := hm
    exact ⟨rfl, rfl, hw⟩
  · intro hm
    obtain ⟨rfl, rfl, hw⟩ := hm
    exact ⟨weight, hw, rfl, rfl, rfl⟩

theorem weight_le_of_cell {i j : Nat} (hm : cell required held i j = some m) : m.weight ≤ 9 := by
  obtain ⟨r, h, -, -, hpair⟩ := cell_eq_some_iff.mp hm
  obtain ⟨-, hweight⟩ := weight?_eq_some_iff.mp (ofPair?_eq_some_iff.mp hpair).2.2
  omega

/-- The match of a text that is written out with itself. -/
def ofText (s : String) : Match := { required := s, held := s, weight := 9 }

/-- At the places of full weight one text that is written out is required and held. -/
theorem cell_full_iff {i j : Nat} :
    (cell required held i j = some m ∧ m.weight = 9) ↔
      ∃ s, required[i]? = some s ∧ held[j]? = some s ∧ WrittenOut s ∧ m = ofText s := by
  rw [cell_eq_some_iff]
  constructor
  · intro hfull
    obtain ⟨⟨r, h, hr, hh, hpair⟩, hweight⟩ := hfull
    obtain ⟨hrequired, hheld, hsome⟩ := ofPair?_eq_some_iff.mp hpair
    rw [hweight] at hsome
    obtain ⟨rfl, hout⟩ := weight?_parse_eq_nine_iff.mp hsome
    refine ⟨r, hr, hh, hout, ?_⟩
    rw [ofText, Match.mk.injEq]
    exact ⟨hrequired, hheld, hweight⟩
  · intro hfull
    obtain ⟨s, hr, hh, hout, rfl⟩ := hfull
    exact ⟨⟨s, s, hr, hh, ofPair?_eq_some_iff.mpr
      ⟨rfl, rfl, weight?_parse_eq_nine_iff.mpr ⟨rfl, hout⟩⟩⟩, rfl⟩

/-- The first requirement that is written out and held word for word. -/
def firstHeld? (required held : List String) : Option String :=
  required.find? fun s => WrittenOut s ∧ s ∈ held

theorem isSome_firstHeld?_iff :
    (firstHeld? required held).isSome ↔ ∃ s ∈ required, s ∈ held ∧ WrittenOut s := by
  simp [firstHeld?, List.find?_isSome, and_comm]

/-- A match of full weight is that of the first requirement held word for word: an earlier one
would have been found before. -/
theorem firstHeld?_of_best? (hbest : best? required held = some m) (hfull : m.weight = 9) :
    ∃ s, firstHeld? required held = some s ∧ WrittenOut s ∧ m = ofText s := by
  obtain ⟨i, j, hcell, hrest⟩ := exists_cell_of_best? hbest
  obtain ⟨s, hi, hj, hout, hm⟩ := cell_full_iff.mp ⟨hcell, hfull⟩
  refine ⟨s, ?_, hout, hm⟩
  obtain ⟨hlt, hget⟩ := List.getElem?_eq_some_iff.mp hi
  rw [firstHeld?, List.find?_eq_some_iff_getElem]
  refine ⟨decide_eq_true ⟨hout, List.mem_of_getElem? hj⟩, i, hlt, hget, fun i' hi' => ?_⟩
  rw [Bool.not_eq_true', decide_eq_false_iff_not]
  intro hearlier
  obtain ⟨hout', hmem⟩ := hearlier
  obtain ⟨j', hj'⟩ := List.mem_iff_getElem?.mp hmem
  have hi'' : required[i']? = some required[i'] := List.getElem?_eq_getElem (hi'.trans hlt)
  have hcell' := (cell_full_iff.mpr ⟨_, hi'', hj', hout', rfl⟩).1
  have hless := (hrest i' j' _ hcell').2 (Prod.Lex.lt_iff.mpr (.inl hi'))
  rw [hfull] at hless
  exact absurd hless (lt_irrefl 9)

/-- And when there is such a requirement, the match found is of full weight. -/
theorem exists_full_of_firstHeld? {s : String} (hfirst : firstHeld? required held = some s) :
    ∃ m, best? required held = some m ∧ m.weight = 9 := by
  obtain ⟨t, hrequired, hheld, hout⟩ :=
    isSome_firstHeld?_iff.mp (Option.isSome_iff_exists.mpr ⟨s, hfirst⟩)
  obtain ⟨i, hi⟩ := List.mem_iff_getElem?.mp hrequired
  obtain ⟨j, hj⟩ := List.mem_iff_getElem?.mp hheld
  have hcell := (cell_full_iff.mpr ⟨t, hi, hj, hout, rfl⟩).1
  obtain ⟨b, hbest, hge⟩ := exists_best?_of_cell hcell
  obtain ⟨_, _, hplace, -⟩ := exists_cell_of_best? hbest
  have hle := weight_le_of_cell hplace
  have hnine : (ofText t).weight = 9 := rfl
  exact ⟨b, hbest, by omega⟩

/--
**What is held word for word is found first.**  The match found is of full weight exactly when
some requirement that is written out, with a role and without a wildcard, is held word for word,
whatever else is required or held.  Then it is the match of the first such requirement with
itself.
-/
theorem best?_full_iff (required held : List String) :
    ((∃ m, best? required held = some m ∧ m.weight = 9) ↔
      ∃ s ∈ required, s ∈ held ∧ WrittenOut s) ∧
    (∀ m, best? required held = some m ∧ m.weight = 9 ↔
      ∃ s, firstHeld? required held = some s ∧ WrittenOut s ∧
        m = { required := s, held := s, weight := 9 }) := by
  have hexact : ∀ m, best? required held = some m ∧ m.weight = 9 ↔
      ∃ s, firstHeld? required held = some s ∧ WrittenOut s ∧ m = ofText s := by
    intro m
    constructor
    · intro hm
      exact firstHeld?_of_best? hm.1 hm.2
    · intro hs
      obtain ⟨s, hfirst, -, rfl⟩ := hs
      obtain ⟨b, hbest, hfull⟩ := exists_full_of_firstHeld? hfirst
      obtain ⟨s', hfirst', -, rfl⟩ := firstHeld?_of_best? hbest hfull
      obtain rfl := Option.some.inj (hfirst.symm.trans hfirst')
      exact ⟨hbest, hfull⟩
  refine ⟨?_, hexact⟩
  rw [← isSome_firstHeld?_iff, Option.isSome_iff_exists]
  constructor
  · intro hm
    obtain ⟨m, hm⟩ := hm
    obtain ⟨s, hfirst, -⟩ := (hexact m).mp hm
    exact ⟨s, hfirst⟩
  · intro hs
    obtain ⟨s, hfirst⟩ := hs
    exact exists_full_of_firstHeld? hfirst

/-- A requirement held word for word is found behind others that only a wildcard answers. -/
example : best? ["account:read", "account:admin:read"] ["*:*:*", "account:*:read",
    "account:admin:read"] = some (ofText "account:admin:read") := by
  decide +kernel

end Match

end Turnstile
