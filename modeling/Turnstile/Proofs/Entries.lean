/-
A roster in use is a list of entries, and nothing else of it can be seen.

The list is what a roster would be without an index: entering a key that is listed replaces its
entry where it stands, a new key goes to the end, and striking a key out leaves the others where
they are (`Entries.change`).  Changing a roster and listing it is listing it and changing the
list, one change at a time, as long as index and order tell of the same keys.  `Sound` is kept
by every change, so after any run of changes a roster lists what the run makes of the empty
list, and whatever else it answers is read off that list.
-/
import Mathlib.Data.List.Perm.Basic
import Turnstile.Proofs.Roster

namespace Turnstile.Roster

/-! ### Entries without an index -/

/-- The entries of a roster in order. -/
abbrev Entries := List (String × List String)

namespace Entries

/-- Whether a key is entered. -/
def has (es : Entries) (key : String) : Bool := es.any (·.1 = key)

/-- Enters a key: in its old place if it has one, at the end otherwise. -/
def enter (es : Entries) (key : String) (privileges : List String) : Entries :=
  if has es key then es.map fun e => if e.1 = key then (key, privileges) else e
  else es ++ [(key, privileges)]

/-- Strikes a key out. -/
def strike (es : Entries) (key : String) : Entries := es.filter (·.1 ≠ key)

/-- The entries after a change. -/
def change (es : Entries) : Change → Entries
  | .insert key privileges => enter es key privileges
  | .erase key => strike es key
  | .clear => []

/-- The entries after changes made one after the other. -/
def changeAll (es : Entries) (changes : List Change) : Entries := changes.foldl change es

end Entries

/-! ### Every change keeps a roster sound -/

theorem contains_erase (r : Roster) (key k : String) :
    (r.erase key).contains k = (decide (key ≠ k) && r.contains k) := by
  rw [contains_eq_isSome, contains_eq_isSome, get?_erase]
  by_cases h : key = k <;> simp [h]

theorem erase_of_not_contains {r : Roster} {key : String} (h : r.contains key = false) :
    r.erase key = r := if_neg (by simp [h])

/-- Striking a key out takes it out of the order, if it is there at all. -/
theorem Sound.order_erase {r : Roster} (h : r.Sound) (key : String) :
    (r.erase key).order = r.order.filter (· ≠ key) := by
  cases hc : r.contains key with
  | true => simp [erase, hc]
  | false =>
      rw [erase_of_not_contains hc]
      refine (List.filter_eq_self.mpr fun k hk => ?_).symm
      have hmem := (h.mem_order k).mp hk
      exact decide_eq_true fun heq => by simp [heq, hc] at hmem

theorem Sound.erase {r : Roster} (h : r.Sound) (key : String) : (r.erase key).Sound where
  nodup := by
    rw [h.order_erase]
    exact h.nodup.filter _
  mem_order k := by
    rw [h.order_erase, contains_erase, List.mem_filter, h.mem_order, Bool.and_eq_true, and_comm,
      decide_eq_true_iff, decide_eq_true_iff, ne_comm]

theorem Sound.apply {r : Roster} (h : r.Sound) (change : Change) : (r.apply change).Sound := by
  cases change with
  | insert key privileges => exact h.insert key privileges
  | erase key => exact h.erase key
  | clear => exact sound_empty

theorem Sound.applyAll {r : Roster} (h : r.Sound) (changes : List Change) :
    (r.applyAll changes).Sound := by
  induction changes generalizing r with
  | nil => exact h
  | cons change rest ih => exact ih (h.apply change)

/-! ### Listing a changed roster -/

/-- The listing skips no key. -/
theorem Sound.map_fst_toList {r : Roster} (h : r.Sound) : r.toList.map Prod.fst = r.order := by
  have hfound : ∀ k ∈ r.order, ((r.get? k).map (k, ·)).map Prod.fst = some k := by
    intro k hk
    have hsome : (r.get? k).isSome := contains_eq_isSome r k ▸ (h.mem_order k).mp hk
    obtain ⟨privileges, hget⟩ := Option.isSome_iff_exists.mp hsome
    rw [hget]
    rfl
  rw [toList, List.map_filterMap, List.filterMap_congr hfound]
  exact List.filterMap_some

theorem Sound.has_toList {r : Roster} (h : r.Sound) (key : String) :
    Entries.has r.toList key = r.contains key := by
  have hkey : Entries.has r.toList key = true ↔ key ∈ r.toList.map Prod.fst := by
    simp [Entries.has]
  rw [Bool.eq_iff_iff, hkey, h.map_fst_toList, h.mem_order]

/-- Entering privileges under a key that is listed replaces its entry where it stands. -/
theorem toList_insert_of_contains {r : Roster} {key : String} (hc : r.contains key = true)
    (privileges : List String) :
    (r.insert key privileges).toList =
      r.toList.map fun e => if e.1 = key then (key, privileges) else e := by
  have horder : (r.insert key privileges).order = r.order := by simp [insert, hc]
  rw [toList, toList, horder, List.map_filterMap]
  refine List.filterMap_congr fun k _ => ?_
  rw [get?_insert]
  by_cases hk : key = k
  · subst hk
    obtain ⟨old, hold⟩ := Option.isSome_iff_exists.mp (contains_eq_isSome r key ▸ hc)
    simp [hold]
  · rw [if_neg hk]
    cases r.get? k <;> simp [Ne.symm hk]

theorem Sound.toList_insert {r : Roster} (h : r.Sound) (key : String) (privileges : List String) :
    (r.insert key privileges).toList = Entries.enter r.toList key privileges := by
  rw [Entries.enter, h.has_toList]
  cases hc : r.contains key with
  | true => exact toList_insert_of_contains hc privileges
  | false => exact toList_insert_of_new h hc privileges

theorem Sound.toList_erase {r : Roster} (h : r.Sound) (key : String) :
    (r.erase key).toList = Entries.strike r.toList key := by
  rw [toList, h.order_erase, List.filterMap_filter, Entries.strike, toList, List.filter_filterMap]
  refine List.filterMap_congr fun k _ => ?_
  rw [get?_erase]
  by_cases hk : key = k
  · subst hk
    cases r.get? key <;> simp [Option.filter]
  · cases r.get? k <;> simp [Option.filter, hk, Ne.symm hk]

/-- Changing a roster and listing it is listing it and changing the list. -/
theorem Sound.toList_apply {r : Roster} (h : r.Sound) (change : Change) :
    (r.apply change).toList = Entries.change r.toList change := by
  cases change with
  | insert key privileges => exact h.toList_insert key privileges
  | erase key => exact h.toList_erase key
  | clear => rfl

theorem Sound.toList_applyAll {r : Roster} (h : r.Sound) (changes : List Change) :
    (r.applyAll changes).toList = Entries.changeAll r.toList changes := by
  induction changes generalizing r with
  | nil => rfl
  | cons change rest ih =>
      refine (ih (h.apply change)).trans ?_
      rw [h.toList_apply]
      rfl

/-! ### What else a roster answers -/

/-- The index and the order have equally many keys, because they have the same ones. -/
theorem Sound.size_eq {r : Roster} (h : r.Sound) : r.size = r.toList.length := by
  have hperm : r.index.keys.Perm r.order := by
    refine (List.perm_ext_iff_of_nodup r.index.nodup_keys h.nodup).mpr fun key => ?_
    rw [Std.TreeMap.mem_keys, h.mem_order]
    exact Std.TreeMap.mem_iff_contains
  calc r.size = r.index.keys.length := Std.TreeMap.length_keys.symm
    _ = r.order.length := hperm.length_eq
    _ = r.toList.length := by rw [← h.map_fst_toList, List.length_map]

theorem Sound.isEmpty_eq {r : Roster} (h : r.Sound) : r.isEmpty = r.toList.isEmpty := by
  rw [isEmpty, Std.TreeMap.isEmpty_eq_size_eq_zero]
  show (r.size == 0) = _
  rw [h.size_eq]
  cases r.toList <;> rfl

/--
**A roster in use is the list of its entries.**  After any changes to an empty roster it lists
what the same changes make of the empty list: every entry, in order, none skipped.  Its keys are
those of the list, each once, and the order that it keeps enumerates the keys of its index.  Its
size, whether it is empty, and what is entered under a key, are those of the list.  Striking a
key out gives back what was entered under it and strikes the key from the list, or else gives
back nothing and changes nothing.
-/
theorem run_is_list (changes : List Change) :
    let r := (∅ : Roster).applyAll changes
    let es := Entries.changeAll [] changes
    r.toList = es ∧
      (r.keys = es.map Prod.fst ∧ r.keys.Nodup ∧ ∀ key, key ∈ r.keys ↔ key ∈ r.index) ∧
      (r.size = es.length ∧ r.isEmpty = es.isEmpty) ∧
      (∀ key, r.get? key = es.lookup key ∧ r.contains key = (es.lookup key).isSome) ∧
      ∀ key, (r.remove key).1 = es.lookup key ∧
        (r.remove key).2.toList = Entries.strike es key ∧
        (es.lookup key = none → (r.remove key).2 = r) := by
  intro r es
  have hsound : r.Sound := sound_empty.applyAll changes
  have hlist : r.toList = es := sound_empty.toList_applyAll changes
  have hget : ∀ key, r.get? key = es.lookup key := fun key => hlist ▸ hsound.get?_eq_lookup key
  refine ⟨hlist, ⟨?_, hsound.nodup, fun key => ?_⟩, ⟨?_, ?_⟩, fun key => ⟨hget key, ?_⟩,
    fun key => ⟨hget key, ?_, fun hnone => ?_⟩⟩
  · rw [← hlist, hsound.map_fst_toList]
    rfl
  · exact (hsound.mem_order key).trans Std.TreeMap.mem_iff_contains.symm
  · rw [← hlist, hsound.size_eq]
  · rw [← hlist, hsound.isEmpty_eq]
  · rw [contains_eq_isSome, hget]
  · rw [← hlist]
    exact hsound.toList_erase key
  · refine erase_of_not_contains ?_
    rw [contains_eq_isSome, hget, hnone]
    rfl

end Turnstile.Roster
