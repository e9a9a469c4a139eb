/-
A roster is the list of its entries.

The index answers look-ups and the order says what is listed, and nothing in the type ties
the two together.  `Sound` does: the order lists exactly the keys of the index, each once.
From that alone, looking a key up is looking it up in the listing, and entering a new key
puts its entry behind all others, which is all that registration ever does.
-/
import Mathlib.Data.List.Nodup
import Turnstile.Roster

namespace Turnstile.Roster

/-- The order lists the keys of the index, each once. -/
structure Sound (r : Roster) : Prop where
  nodup : r.order.Nodup
  mem_order : ∀ key, key ∈ r.order ↔ r.contains key = true

/-! ### What the index holds -/

@[simp] theorem get?_empty (key : String) : (∅ : Roster).get? key = none :=
  Std.TreeMap.getElem?_emptyc

theorem contains_eq_isSome (r : Roster) (key : String) : r.contains key = (r.get? key).isSome :=
  Std.TreeMap.contains_eq_isSome_getElem?

theorem get?_insert (r : Roster) (key : String) (privileges : List String) (k : String) :
    (r.insert key privileges).get? k = if key = k then some privileges else r.get? k := by
  simp [get?, insert, Std.TreeMap.getElem?_insert]

theorem contains_insert (r : Roster) (key : String) (privileges : List String) (k : String) :
    (r.insert key privileges).contains k = (decide (key = k) || r.contains k) := by
  rw [contains_eq_isSome, contains_eq_isSome, get?_insert]
  by_cases h : key = k <;> simp [h]

theorem get?_erase (r : Roster) (key k : String) :
    (r.erase key).get? k = if key = k then none else r.get? k := by
  unfold erase
  by_cases hc : r.contains key = true
  · rw [if_pos hc]
    simp [get?, Std.TreeMap.getElem?_erase]
  · rw [if_neg hc]
    by_cases hk : key = k
    · rw [contains_eq_isSome, hk] at hc
      rw [if_pos hk]
      exact Option.not_isSome_iff_eq_none.mp hc
    · rw [if_neg hk]

/-! ### One entry under changes

What a change makes of an entry depends on that entry only, and most changes leave it alone.
-/

/-- Whether a change is about a key. -/
def Change.touches (key : String) : Change → Bool
  | .insert k _ => k = key
  | .erase k => k = key
  | .clear => true

theorem get?_apply_of_not_touches {change : Change} {key : String}
    (h : change.touches key = false) (r : Roster) : (r.apply change).get? key = r.get? key := by
  cases change with
  | insert k privileges =>
      simp only [Change.touches, decide_eq_false_iff_not] at h
      rw [apply, get?_insert, if_neg h]
  | erase k =>
      simp only [Change.touches, decide_eq_false_iff_not] at h
      rw [apply, get?_erase, if_neg h]
  | clear => simp [Change.touches] at h

theorem get?_apply_congr {r r' : Roster} {key : String} (h : r.get? key = r'.get? key)
    (change : Change) : (r.apply change).get? key = (r'.apply change).get? key := by
  cases change with
  | insert k privileges => simp only [apply, get?_insert, h]
  | erase k => simp only [apply, get?_erase, h]
  | clear => rfl

/-- Of several changes only those about a key count for its entry. -/
theorem get?_applyAll_filter (key : String) :
    ∀ (changes : List Change) {r r' : Roster}, r.get? key = r'.get? key →
      (r.applyAll changes).get? key =
        (r'.applyAll (changes.filter (Change.touches key))).get? key := by
  intro changes
  induction changes with
  | nil => intro r r' h; exact h
  | cons change rest ih =>
      intro r r' h
      cases htouches : change.touches key with
      | true =>
          rw [List.filter_cons_of_pos htouches]
          exact ih (get?_apply_congr h change)
      | false =>
          rw [List.filter_cons_of_neg (by simp [htouches])]
          exact ih ((get?_apply_of_not_touches htouches r).trans h)

/-! ### Soundness is kept -/

theorem sound_empty : Sound ∅ where
  nodup := List.nodup_nil
  mem_order key := by
    rw [contains_eq_isSome, get?_empty]
    exact iff_of_false (List.not_mem_nil) (by simp)

theorem order_insert_of_new {r : Roster} {key : String} (hnew : r.contains key = false)
    (privileges : List String) : (r.insert key privileges).order = r.order ++ [key] := by
  simp [insert, hnew]

theorem Sound.insert {r : Roster} (h : r.Sound) (key : String) (privileges : List String) :
    (r.insert key privileges).Sound := by
  by_cases hc : r.contains key = true
  · have horder : (r.insert key privileges).order = r.order := by simp [Roster.insert, hc]
    refine ⟨horder ▸ h.nodup, fun k => ?_⟩
    rw [horder, h.mem_order, contains_insert]
    by_cases hk : key = k
    · simp [← hk, hc]
    · simp [hk]
  · have hnew : r.contains key = false := by simpa using hc
    have hfresh : key ∉ r.order := fun hmem => hc ((h.mem_order key).mp hmem)
    refine ⟨?_, fun k => ?_⟩
    · rw [order_insert_of_new hnew]
      exact List.nodup_append.mpr ⟨h.nodup, List.nodup_singleton key,
        fun a ha b hb hab => hfresh ((List.mem_singleton.mp hb ▸ hab) ▸ ha)⟩
    · rw [order_insert_of_new hnew, contains_insert, List.mem_append, List.mem_singleton,
        h.mem_order]
      by_cases hk : key = k
      · simp [hk]
      · simp [hk, Ne.symm hk]

/-! ### The listing -/

theorem toList_insert_of_new {r : Roster} (h : r.Sound) {key : String}
    (hnew : r.contains key = false) (privileges : List String) :
    (r.insert key privileges).toList = r.toList ++ [(key, privileges)] := by
  have hfresh : ∀ k ∈ r.order, key ≠ k := by
    intro k hk heq
    subst heq
    rw [(h.mem_order key).mp hk] at hnew
    exact Bool.noConfusion hnew
  simp only [toList, order_insert_of_new hnew, List.filterMap_append]
  congr 1
  · refine List.filterMap_congr fun k hk => ?_
    rw [get?_insert, if_neg (hfresh k hk)]
  · simp [get?_insert]

theorem lookup_filterMap (r : Roster) (key : String) (order : List String) :
    (order.filterMap fun k => (r.get? k).map (k, ·)).lookup key =
      if key ∈ order then r.get? key else none := by
  induction order with
  | nil => rfl
  | cons k rest ih =>
      by_cases hk : key = k
      · subst hk
        cases hget : r.get? key with
        | none => simp [hget, ih]
        | some privileges => simp [hget]
      · cases hget : r.get? k with
        | none => simp [hget, ih, hk]
        | some privileges => simp [hget, ih, hk, beq_eq_false_iff_ne.mpr hk, List.lookup_cons]

/-- What is listed is what is looked up. -/
theorem Sound.mem_toList_iff {r : Roster} (h : r.Sound) {key : String}
    {privileges : List String} : (key, privileges) ∈ r.toList ↔ r.get? key = some privileges := by
  simp only [toList, List.mem_filterMap, Option.map_eq_some_iff, Prod.mk.injEq]
  constructor
  · intro hlisted
    obtain ⟨k, -, found, hget, rfl, rfl⟩ := hlisted
    exact hget
  · intro hget
    have hmem : key ∈ r.order := by
      rw [h.mem_order, contains_eq_isSome, hget]
      rfl
    exact ⟨key, hmem, privileges, hget, rfl, rfl⟩

/-- Rosters that list the same, in whatever order, answer alike. -/
theorem Sound.get?_eq_of_perm {r r' : Roster} (h : r.Sound) (h' : r'.Sound)
    (hperm : r.toList.Perm r'.toList) (key : String) : r.get? key = r'.get? key := by
  refine Option.ext fun privileges => ?_
  rw [← h.mem_toList_iff, ← h'.mem_toList_iff, hperm.mem_iff]

/-- **Looking a key up is looking it up in the listing.** -/
theorem Sound.get?_eq_lookup {r : Roster} (h : r.Sound) (key : String) :
    r.get? key = r.toList.lookup key := by
  rw [toList, lookup_filterMap]
  by_cases hk : key ∈ r.order
  · rw [if_pos hk]
  · have hnone : r.contains key = false := by simpa using mt (h.mem_order key).mpr hk
    rw [if_neg hk]
    rw [contains_eq_isSome] at hnone
    simpa using hnone

end Turnstile.Roster
