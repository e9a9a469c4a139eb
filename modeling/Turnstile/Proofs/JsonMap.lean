/-
Writes read as a map.

An object is a list of writes, and two lists of writes are one map when under every key
they leave the same: `lastWrite?`.  The fields an object shows are that map in key order,
so they depend on nothing else (`settled_congr`), and a function of the values only can be
applied before or after settling.
-/
import Mathlib.Data.List.Induction
import Mathlib.Data.List.Nodup
import Turnstile.Json

namespace Turnstile.Json

variable {α β : Type}

/-! ### What is left under a key -/

@[simp] theorem lastWrite?_nil (key : String) : lastWrite? ([] : List (String × α)) key = none :=
  rfl

theorem lastWrite?_append (xs ys : List (String × α)) (key : String) :
    lastWrite? (xs ++ ys) key = (lastWrite? ys key).or (lastWrite? xs key) := by
  simp only [lastWrite?, List.reverse_append, List.lookup_append]

theorem lastWrite?_singleton (write : String × α) (key : String) :
    lastWrite? [write] key = if write.1 = key then some write.2 else none := by
  obtain ⟨name, value⟩ := write
  rw [lastWrite?, List.reverse_singleton, List.lookup_cons]
  by_cases h : name = key
  · simp [h]
  · simp [h, beq_eq_false_iff_ne.mpr (Ne.symm h)]

theorem lastWrite?_cons (write : String × α) (xs : List (String × α)) (key : String) :
    lastWrite? (write :: xs) key =
      (lastWrite? xs key).or (if write.1 = key then some write.2 else none) := by
  rw [← List.singleton_append, lastWrite?_append, lastWrite?_singleton]

theorem lastWrite?_map (f : α → β) (xs : List (String × α)) (key : String) :
    lastWrite? (xs.map (Prod.map id f)) key = (lastWrite? xs key).map f := by
  induction xs with
  | nil => rfl
  | cons write xs ih =>
      rw [List.map_cons, lastWrite?_cons, lastWrite?_cons, ih, Option.map_or]
      simp only [Prod.map_fst, Prod.map_snd, id_eq, apply_ite (Option.map f), Option.map_some,
        Option.map_none]

theorem mem_of_lastWrite?_eq_some {xs : List (String × α)} {key : String} {v : α}
    (h : lastWrite? xs key = some v) : (key, v) ∈ xs := by
  obtain ⟨before, after, hsplit, -⟩ := List.lookup_eq_some_iff.mp h
  exact List.mem_reverse.mp (hsplit ▸ by simp)

/-- Something is left under every key that was written to. -/
theorem isSome_lastWrite?_of_mem {xs : List (String × α)} {key : String} {v : α}
    (h : (key, v) ∈ xs) : (lastWrite? xs key).isSome = true := by
  induction xs with
  | nil => simp at h
  | cons write xs ih =>
      rw [lastWrite?_cons, Option.isSome_or]
      obtain rfl | hmem := List.mem_cons.mp h
      · simp
      · simp [ih hmem]

/-- A key written to once keeps what was written. -/
theorem lastWrite?_eq_some_iff_mem {xs : List (String × α)} (hn : (xs.map Prod.fst).Nodup)
    {key : String} {v : α} : lastWrite? xs key = some v ↔ (key, v) ∈ xs := by
  refine ⟨mem_of_lastWrite?_eq_some, fun h => ?_⟩
  obtain ⟨w, hw⟩ := Option.isSome_iff_exists.mp (isSome_lastWrite?_of_mem h)
  have hsame : (key, w) = (key, v) :=
    List.inj_on_of_nodup_map hn (mem_of_lastWrite?_eq_some hw) h rfl
  rw [hw, (Prod.mk.inj hsame).2]

/-- The order in which keys are written to does not matter when each is written to once. -/
theorem lastWrite?_perm {xs ys : List (String × α)} (h : xs.Perm ys)
    (hn : (xs.map Prod.fst).Nodup) (key : String) : lastWrite? xs key = lastWrite? ys key := by
  refine Option.ext fun v => ?_
  rw [lastWrite?_eq_some_iff_mem hn, lastWrite?_eq_some_iff_mem ((h.map _).nodup_iff.mp hn),
    h.mem_iff]

/-! ### The fields of a map -/

theorem getElem?_ofList (xs : List (String × α)) (key : String) :
    (Std.TreeMap.ofList xs : Std.TreeMap String α)[key]? = lastWrite? xs key := by
  rw [Std.TreeMap.ofList_equiv_foldl.getElem?_eq]
  induction xs using List.reverseRecOn with
  | nil => rfl
  | append_singleton xs write ih =>
      rw [List.foldl_append, List.foldl_cons, List.foldl_nil, Std.TreeMap.getElem?_insert, ih,
        lastWrite?_append, lastWrite?_singleton]
      simp only [Std.compare_eq_iff_eq]
      split <;> simp

theorem mem_settled_iff {xs : List (String × α)} {key : String} {v : α} :
    (key, v) ∈ settled xs ↔ lastWrite? xs key = some v := by
  rw [settled, Std.TreeMap.mem_toList_iff_getElem?_eq_some, getElem?_ofList]

/-- **Writes that leave the same under every key show the same fields.** -/
theorem settled_congr {xs ys : List (String × α)}
    (h : ∀ key, lastWrite? xs key = lastWrite? ys key) : settled xs = settled ys := by
  refine Std.TreeMap.Equiv.toList_eq (Std.TreeMap.Equiv.of_forall_constGet?_eq fun key => ?_)
  rw [getElem?_ofList, getElem?_ofList, h]

theorem settled_map (f : α → β) (xs : List (String × α)) :
    settled (xs.map (Prod.map id f)) = (settled xs).map (Prod.map id f) := by
  have h : (Std.TreeMap.ofList (xs.map (Prod.map id f)) : Std.TreeMap String β).Equiv
      ((Std.TreeMap.ofList xs : Std.TreeMap String α).map fun _ => f) := by
    refine Std.TreeMap.Equiv.of_forall_constGet?_eq fun key => ?_
    rw [Std.TreeMap.getElem?_map, getElem?_ofList, getElem?_ofList, lastWrite?_map]
  rw [settled, h.toList_eq, Std.TreeMap.toList_map]
  rfl

end Turnstile.Json
