/-
Weights counted in bytes, and what the search minimises.

A match loses the points of its two privileges, and each privilege loses the same whatever it is
matched with (`Privilege.cost`).  But they are counted position by position: there the wildcards of
both sides are added up, then the roles that were not written, then the one to the other, then
position to position, and the sum is taken from nine.  `weightInBytes?` counts in that order, in
bytes, and gives up where a sum is no byte or the difference is negative.  It never gives up,
because at no point more than six are added up.

Since the weight is nine less the two costs, the heaviest match is the one whose privileges cost
the least, and a privilege always matches itself.
-/
import Turnstile.Proofs.Weight

namespace Turnstile

/-! ### Bytes that are added up -/

namespace Byte

/-- The sum of two bytes, if it is a byte. -/
def add? (a b : UInt8) : Option UInt8 :=
  if a.toNat + b.toNat < UInt8.size then some (a + b) else none

/-- The difference of two bytes, if it is not negative. -/
def sub? (a b : UInt8) : Option UInt8 := if b.toNat ≤ a.toNat then some (a - b) else none

theorem toNat_ofNat {n : Nat} (h : n < UInt8.size) : (UInt8.ofNat n).toNat = n := by
  rw [UInt8.toNat_ofNat']
  exact Nat.mod_eq_of_lt h

theorem add?_ofNat {m n : Nat} (h : m + n < UInt8.size) :
    add? (.ofNat m) (.ofNat n) = some (.ofNat (m + n)) := by
  rw [add?, toNat_ofNat (by omega), toNat_ofNat (by omega), if_pos h, UInt8.ofNat_add]

theorem sub?_ofNat {m n : Nat} (hm : m < UInt8.size) (h : n ≤ m) :
    sub? (.ofNat m) (.ofNat n) = some (.ofNat (m - n)) := by
  rw [sub?, toNat_ofNat hm, toNat_ofNat (by omega), if_pos h, UInt8.ofNat_sub h]

end Byte

/-! ### Points in bytes -/

/-- The points a match loses for a position: its wildcards and its absences. -/
def Segment.lossInBytes? (required held : Segment) : Option UInt8 := do
  let wildcards ← Byte.add? required.isWildcard.toUInt8 held.isWildcard.toUInt8
  let absences ← Byte.add? required.isAbsent.toUInt8 held.isAbsent.toUInt8
  Byte.add? wildcards absences

theorem Segment.lossInBytes?_eq (a b : Segment) :
    a.lossInBytes? b = some (.ofNat (a.cost + b.cost)) := by
  cases a <;> cases b <;> rfl

namespace Privilege

/-- The points a match loses, position by position. -/
def lossInBytes? (required held : Privilege) : Option UInt8 := do
  let resource ← required.resource.lossInBytes? held.resource
  let role ← required.role.lossInBytes? held.role
  let operation ← required.operation.lossInBytes? held.operation
  [resource, role, operation].foldlM Byte.add? 0

/-- What is left of the full weight. -/
def weightInBytes? (required held : Privilege) : Option UInt8 := do
  let loss ← required.lossInBytes? held
  Byte.sub? (.ofNat fullWeight) loss

theorem lossInBytes?_eq (p q : Privilege) :
    p.lossInBytes? q = some (.ofNat (p.cost + q.cost)) := by
  have hp := cost_le p
  have hq := cost_le q
  unfold cost at hp hq
  -- The sums on the way are no greater than the last one.
  have hlast : p.resource.cost + q.resource.cost + (p.role.cost + q.role.cost) +
      (p.operation.cost + q.operation.cost) < UInt8.size := by
    rw [UInt8.size]
    omega
  have hfirst : Byte.add? 0 (.ofNat (p.resource.cost + q.resource.cost)) =
      some (.ofNat (p.resource.cost + q.resource.cost)) :=
    (Byte.add?_ofNat (m := 0) (by omega)).trans (by rw [Nat.zero_add])
  simp only [lossInBytes?, Segment.lossInBytes?_eq, Option.bind_eq_bind, Option.bind_some,
    List.foldlM_cons, List.foldlM_nil, hfirst]
  rw [Byte.add?_ofNat (by omega), Option.bind_some, Byte.add?_ofNat hlast, Option.bind_some, cost,
    cost]
  congr 2
  omega

/-- **Counting in bytes never gives up**, and comes to nine less the two costs. -/
theorem weightInBytes?_eq (p q : Privilege) :
    p.weightInBytes? q = some (.ofNat (fullWeight - (p.cost + q.cost))) := by
  have hp := cost_le p
  have hq := cost_le q
  have hloss : p.cost + q.cost ≤ fullWeight := by rw [fullWeight]; omega
  rw [weightInBytes?, lossInBytes?_eq]
  exact Byte.sub?_ofNat (by decide) hloss

/-- What a privilege costs is how many of its positions are wildcards or were not written. -/
theorem cost_eq_countP (p : Privilege) :
    p.cost = [p.resource, p.role, p.operation].countP fun s => s.isWildcard || s.isAbsent := by
  have hcost : ∀ s : Segment, s.cost = if s.isWildcard || s.isAbsent then 1 else 0 := by
    intro s
    cases s <;> rfl
  simp only [cost, hcost, List.countP_cons, List.countP_nil]
  omega

end Privilege

/-! ### Costs of matches -/

namespace Match

open Privilege

variable {required held : List String} {r h : String} {m : Match}

/-- The weight of a match and the costs of its two privileges make nine. -/
theorem weight_add_cost (hm : ofPair? r h = some m) :
    m.weight + ((parse r).cost + (parse h).cost) = 9 :=
  (weight?_eq_some_iff.mp (ofPair?_eq_some_iff.mp hm).2.2).2

theorem ofPair?_self (s : String) :
    ofPair? s s = some { required := s, held := s, weight := 9 - 2 * (parse s).cost } := by
  have hcost := cost_le (parse s)
  refine ofPair?_eq_some_iff.mpr ⟨rfl, rfl, weight?_eq_some_iff.mpr ⟨isSome_weight?_self _, ?_⟩⟩
  show 9 - 2 * (parse s).cost + ((parse s).cost + (parse s).cost) = 9
  omega

/-- No match costs less than the one that is found. -/
theorem cost_le_of_best? {b : Match} (hbest : best? required held = some b) (hr : r ∈ required)
    (hh : h ∈ held) (hm : ofPair? r h = some m) :
    (parse b.required).cost + (parse b.held).cost ≤ (parse r).cost + (parse h).cost := by
  obtain ⟨i, j, hcell, hrest⟩ := exists_cell_of_best? hbest
  obtain ⟨r', h', -, -, hpair⟩ := cell_eq_some_iff.mp hcell
  obtain ⟨hrequired, hheld, -⟩ := ofPair?_eq_some_iff.mp hpair
  obtain ⟨i', hi'⟩ := List.mem_iff_getElem?.mp hr
  obtain ⟨j', hj'⟩ := List.mem_iff_getElem?.mp hh
  have hle := (hrest i' j' m (cell_eq_some_iff.mpr ⟨r, h, hi', hj', hm⟩)).1
  have hbound := weight_add_cost hpair
  have hother := weight_add_cost hm
  rw [hrequired, hheld]
  omega

/-- What is found is the match of a requirement with a privilege that is held. -/
theorem mem_of_best? {b : Match} (hbest : best? required held = some b) :
    b.required ∈ required ∧ b.held ∈ held ∧ ofPair? b.required b.held = some b := by
  obtain ⟨i, j, hcell, -⟩ := exists_cell_of_best? hbest
  obtain ⟨r, h, hr, hh, hpair⟩ := cell_eq_some_iff.mp hcell
  obtain ⟨rfl, rfl, -⟩ := ofPair?_eq_some_iff.mp hpair
  exact ⟨List.mem_of_getElem? hr, List.mem_of_getElem? hh, hpair⟩

/--
**The weight splits into what either privilege costs.**  A privilege costs a point for each of its
three positions that is a wildcard or was not written.  The weight of a match is nine less the two
costs, so it is between three and nine; it is what counting in bytes comes to, and counting in bytes
gives up for no two privileges, be it that they match or not.  Every privilege matches itself, at
nine less twice its cost.  And of all matches between two lists the one that is found has the least
cost.
-/
theorem weight_splits :
    (∀ s, (parse s).cost = [(parse s).resource, (parse s).role, (parse s).operation].countP
        (fun segment => segment.isWildcard || segment.isAbsent) ∧ (parse s).cost ≤ 3) ∧
    (∀ r h m, ofPair? r h = some m →
      m.weight + ((parse r).cost + (parse h).cost) = 9 ∧ 3 ≤ m.weight ∧ m.weight ≤ 9 ∧
      (parse r).weightInBytes? (parse h) = some (.ofNat m.weight)) ∧
    (∀ r h, ∃ w, (parse r).weightInBytes? (parse h) = some w ∧
      w.toNat + ((parse r).cost + (parse h).cost) = 9) ∧
    (∀ s, ofPair? s s = some { required := s, held := s, weight := 9 - 2 * (parse s).cost }) ∧
    ∀ required held b, best? required held = some b →
      b.required ∈ required ∧ b.held ∈ held ∧ ofPair? b.required b.held = some b ∧
      ∀ r ∈ required, ∀ h ∈ held, (ofPair? r h).isSome →
        (parse b.required).cost + (parse b.held).cost ≤ (parse r).cost + (parse h).cost := by
  refine ⟨fun s => ⟨cost_eq_countP _, cost_le _⟩, fun r h m hm => ?_, fun r h => ?_,
    ofPair?_self, fun required held b hbest => ?_⟩
  · have hsum := weight_add_cost hm
    have hr := cost_le (parse r)
    have hh := cost_le (parse h)
    have hweight : m.weight = fullWeight - ((parse r).cost + (parse h).cost) := by
      rw [fullWeight]
      omega
    exact ⟨hsum, by omega, by omega, by rw [weightInBytes?_eq, hweight]⟩
  · have hr := cost_le (parse r)
    have hh := cost_le (parse h)
    refine ⟨_, weightInBytes?_eq _ _, ?_⟩
    rw [Byte.toNat_ofNat (by rw [fullWeight, UInt8.size]; omega), fullWeight]
    omega
  · obtain ⟨hrequired, hheld, hpair⟩ := mem_of_best? hbest
    refine ⟨hrequired, hheld, hpair, fun r hr h hh hsome => ?_⟩
    obtain ⟨m, hm⟩ := Option.isSome_iff_exists.mp hsome
    exact cost_le_of_best? hbest hr hh hm

/-- A right to all of an administrator's work costs one point and a right to read anything as
anybody two, which leaves six; the administrator's own right to read is found before that. -/
theorem reading_costs_three :
    (∃ m, ofPair? "account:admin:*" "*:*:read" = some m ∧
      m.weight + ((parse "account:admin:*").cost + (parse "*:*:read").cost) = 9 ∧
      (parse "account:admin:*").weightInBytes? (parse "*:*:read") = some 6) ∧
    ∃ b, best? ["account:admin:*"] ["*:*:read", "account:admin:read"] = some b ∧
      (ofPair? "account:admin:*" "*:*:read").isSome ∧
      (parse b.required).cost + (parse b.held).cost ≤
        (parse "account:admin:*").cost + (parse "*:*:read").cost := by
  have hpair : ofPair? "account:admin:*" "*:*:read" =
      some { required := "account:admin:*", held := "*:*:read", weight := 6 } := by decide +kernel
  have hbest : best? ["account:admin:*"] ["*:*:read", "account:admin:read"] =
      some { required := "account:admin:*", held := "account:admin:read", weight := 8 } := by
    decide +kernel
  have hsome : (ofPair? "account:admin:*" "*:*:read").isSome := by rw [hpair]; rfl
  obtain ⟨hsum, -, -, hbytes⟩ := weight_splits.2.1 _ _ _ hpair
  exact ⟨⟨_, hpair, hsum, hbytes⟩, _, hbest, hsome,
    (weight_splits.2.2.2.2 _ _ _ hbest).2.2.2 _ (by simp) _ (by simp) hsome⟩

end Match

end Turnstile
