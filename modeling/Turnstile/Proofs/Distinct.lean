/-
Keeping first occurrences.

A list is told its duplicates by a key of each element, and of the elements with one key the
first is kept.  What is kept of a longer list follows from what is kept of a shorter one: a
further element is kept exactly when its key is new.  With the elements as their own keys this
is what `distinct` computes, although it goes through the list the other way, with the elements
that it has seen at hand.
-/
import Mathlib.Data.List.Induction
import Mathlib.Data.List.Nodup
import Turnstile.Catalog

namespace Turnstile

/-! ### One more element -/

section Keys

variable {α β κ : Type} [DecidableEq κ] (key : α → κ)

theorem mem_map_filter_iff {x a : α} (h : key x ≠ key a) (xs : List α) :
    key x ∈ (xs.filter fun b => decide ((key b == key a) = false)).map key ↔
      key x ∈ xs.map key := by
  simp only [List.mem_map, List.mem_filter, decide_eq_true_iff, beq_eq_false_iff_ne]
  constructor
  · intro hmem
    obtain ⟨b, ⟨hb, -⟩, hkey⟩ := hmem
    exact ⟨b, hb, hkey⟩
  · intro hmem
    obtain ⟨b, hb, hkey⟩ := hmem
    exact ⟨b, ⟨hb, hkey ▸ h⟩, hkey⟩

/-- A further element is kept exactly when its key is new. -/
theorem eraseDupsBy_concat (x : α) : ∀ xs : List α,
    (xs ++ [x]).eraseDupsBy (fun a b => key a == key b) =
      if key x ∈ xs.map key then xs.eraseDupsBy fun a b => key a == key b
      else (xs.eraseDupsBy fun a b => key a == key b) ++ [x]
  | [] => by simp [List.eraseDupsBy_cons]
  | a :: as => by
    rw [List.cons_append, List.eraseDupsBy_cons, List.eraseDupsBy_cons, List.filter_append]
    by_cases h : key x = key a
    · simp [h]
    · have hfilter : [x].filter (fun b => decide ((key b == key a) = false)) = [x] := by simp [h]
      have hmem : key x ∈ (a :: as).map key ↔ key x ∈ as.map key := by simp [h]
      rw [hfilter, eraseDupsBy_concat x (as.filter _)]
      simp only [mem_map_filter_iff key h, hmem]
      split <;> rfl
termination_by xs => xs.length
decreasing_by
  exact Nat.lt_succ_of_le (List.length_filter_le _ as)

/-- Keeping first occurrences is the same before and after a map that keeps keys. -/
theorem map_eraseDupsBy (key' : β → κ) {f : α → β} (hkey : ∀ a, key' (f a) = key a)
    (xs : List α) :
    (xs.eraseDupsBy fun a b => key a == key b).map f =
      (xs.map f).eraseDupsBy fun a b => key' a == key' b := by
  induction xs using List.reverseRecOn with
  | nil => rfl
  | append_singleton xs x ih =>
      have hkeys : (xs.map f).map key' = xs.map key := by simp [hkey]
      rw [List.map_append, List.map_singleton, eraseDupsBy_concat, eraseDupsBy_concat, hkeys, hkey]
      split
      · exact ih
      · rw [List.map_append, ih, List.map_singleton]

theorem eraseDupsBy_sublist (xs : List α) :
    (xs.eraseDupsBy fun a b => key a == key b).Sublist xs := by
  induction xs using List.reverseRecOn with
  | nil => exact .slnil
  | append_singleton xs x ih =>
      rw [eraseDupsBy_concat]
      split
      · exact ih.trans (List.sublist_append_left xs [x])
      · exact ih.append (List.Sublist.refl [x])

/-- No key is lost. -/
theorem map_eraseDupsBy_subset (xs : List α) :
    xs.map key ⊆ (xs.eraseDupsBy fun a b => key a == key b).map key := by
  induction xs using List.reverseRecOn with
  | nil => simp
  | append_singleton xs x ih =>
      rw [List.map_append, List.map_singleton, eraseDupsBy_concat]
      split
      · next hmem =>
        refine List.append_subset.mpr ⟨ih, fun k hk => ?_⟩
        exact List.mem_singleton.mp hk ▸ ih hmem
      · rw [List.map_append, List.map_singleton]
        exact List.append_subset.mpr ⟨List.Subset.trans ih (List.subset_append_left _ _),
          List.subset_append_right _ _⟩

/-- The keys of what is kept are those that there are. -/
theorem mem_map_eraseDupsBy_iff {k : κ} {xs : List α} :
    k ∈ (xs.eraseDupsBy fun a b => key a == key b).map key ↔ k ∈ xs.map key :=
  ⟨fun h => (eraseDupsBy_sublist key xs).map key |>.subset h,
    fun h => map_eraseDupsBy_subset key xs h⟩

/-- No key is kept twice. -/
theorem nodup_map_eraseDupsBy (xs : List α) :
    ((xs.eraseDupsBy fun a b => key a == key b).map key).Nodup := by
  induction xs using List.reverseRecOn with
  | nil => exact List.nodup_nil
  | append_singleton xs x ih =>
      rw [eraseDupsBy_concat]
      split
      · exact ih
      · next hnew =>
        rw [List.map_append, List.map_singleton, List.nodup_append]
        refine ⟨ih, List.nodup_singleton _, fun k hk k' hk' heq => hnew ?_⟩
        rw [← List.mem_singleton.mp hk', ← heq]
        exact (mem_map_eraseDupsBy_iff key).mp hk

/-- Of two lists that share no key everything is kept that is kept of either. -/
theorem eraseDupsBy_append_of_disjoint {xs ys : List α} (h : ∀ y ∈ ys, key y ∉ xs.map key) :
    (xs ++ ys).eraseDupsBy (fun a b => key a == key b) =
      (xs.eraseDupsBy fun a b => key a == key b) ++ ys.eraseDupsBy fun a b => key a == key b := by
  induction ys using List.reverseRecOn with
  | nil => simp
  | append_singleton ys y ih =>
      have hnew : key y ∉ xs.map key := h y (by simp)
      have hmem : key y ∈ (xs ++ ys).map key ↔ key y ∈ ys.map key := by
        rw [List.map_append, List.mem_append, or_iff_right hnew]
      rw [← List.append_assoc, eraseDupsBy_concat, eraseDupsBy_concat, if_congr hmem rfl rfl,
        ih fun y' hy' => h y' (by simp [hy'])]
      split
      · rfl
      · rw [List.append_assoc]

end Keys

/-! ### Elements as their own keys -/

section Elements

variable {α : Type} [DecidableEq α]

/-- Going on from what was seen leaves out what was seen. -/
theorem distinctFrom_eq :
    ∀ (xs seen : List α), distinctFrom seen xs = (xs.filter (· ∉ seen)).eraseDups := by
  intro xs
  induction xs with
  | nil => intro seen; rfl
  | cons x xs ih =>
      intro seen
      rw [distinctFrom]
      by_cases h : x ∈ seen
      · rw [if_pos h, ih, List.filter_cons_of_neg (by simpa using h)]
      · rw [if_neg h, ih, List.filter_cons_of_pos (by simpa using h), List.eraseDups_cons,
          List.filter_filter]
        congr 3
        funext y
        by_cases hy : y = x <;> simp [hy]

/-- **Listing everything once is erasing later duplicates.** -/
theorem distinct_eq_eraseDups (xs : List α) : distinct xs = xs.eraseDups := by
  rw [distinct, distinctFrom_eq, List.filter_eq_self.mpr (by simp)]

theorem eraseDups_concat (x : α) (xs : List α) :
    (xs ++ [x]).eraseDups = if x ∈ xs then xs.eraseDups else xs.eraseDups ++ [x] := by
  have h := eraseDupsBy_concat id x xs
  rwa [List.map_id] at h

theorem nodup_eraseDups (xs : List α) : xs.eraseDups.Nodup := by
  have h := nodup_map_eraseDupsBy id xs
  rwa [List.map_id] at h

/-- Where nothing is duplicate, nothing is erased. -/
theorem eraseDups_of_nodup {xs : List α} (h : xs.Nodup) : xs.eraseDups = xs := by
  induction xs using List.reverseRecOn with
  | nil => rfl
  | append_singleton xs x ih =>
      rw [List.nodup_append] at h
      have hnew : x ∉ xs := fun hx => h.2.2 x hx x (List.mem_singleton_self x) rfl
      rw [eraseDups_concat, if_neg hnew, ih h.1]

/-- Of duplicates either all pass a test or none. -/
theorem filter_eraseDups (q : α → Bool) (xs : List α) :
    xs.eraseDups.filter q = (xs.filter q).eraseDups := by
  induction xs using List.reverseRecOn with
  | nil => rfl
  | append_singleton xs x ih =>
      rw [eraseDups_concat, List.filter_append]
      cases hq : q x with
      | false =>
          rw [List.filter_cons_of_neg (by simp [hq]), List.filter_nil, List.append_nil, ← ih]
          split
          · rfl
          · simp [hq]
      | true =>
          rw [List.filter_cons_of_pos hq, List.filter_nil, eraseDups_concat, ← ih]
          by_cases hx : x ∈ xs <;> simp [hx, hq]

/-- What is left comes in the order of the first positions. -/
theorem pairwise_idxOf_eraseDups (xs : List α) :
    xs.eraseDups.Pairwise fun x y => xs.idxOf x < xs.idxOf y := by
  induction xs using List.reverseRecOn with
  | nil => exact .nil
  | append_singleton xs z ih =>
      -- A further element moves the first position of no other one.
      have hmem : ∀ {x}, x ∈ xs.eraseDups → x ∈ xs := List.mem_eraseDups.mp
      have hstay : xs.eraseDups.Pairwise fun x y => (xs ++ [z]).idxOf x < (xs ++ [z]).idxOf y := by
        refine ih.imp_of_mem fun hx hy hlt => ?_
        rwa [List.idxOf_append_of_mem (hmem hx), List.idxOf_append_of_mem (hmem hy)]
      rw [eraseDups_concat]
      split
      · exact hstay
      · next hnew =>
        refine List.pairwise_append.mpr ⟨hstay, List.pairwise_singleton _ _, fun x hx y hy => ?_⟩
        rw [List.mem_singleton.mp hy, List.idxOf_append_of_mem (hmem hx),
          List.idxOf_append_of_notMem hnew]
        exact Nat.lt_add_right _ (List.idxOf_lt_length_of_mem (hmem hx))

/-- Lists of the same elements are the same once duplicates are erased, up to order. -/
theorem eraseDups_perm {xs ys : List α} (h : ∀ x, x ∈ xs ↔ x ∈ ys) :
    xs.eraseDups.Perm ys.eraseDups := by
  refine (List.perm_ext_iff_of_nodup (nodup_eraseDups xs) (nodup_eraseDups ys)).mpr fun x => ?_
  rw [List.mem_eraseDups, List.mem_eraseDups, h]

/-! ### What is listed once -/

theorem nodup_distinct (xs : List α) : (distinct xs).Nodup := by
  rw [distinct_eq_eraseDups]
  exact nodup_eraseDups xs

theorem mem_distinct {x : α} {xs : List α} : x ∈ distinct xs ↔ x ∈ xs := by
  rw [distinct_eq_eraseDups, List.mem_eraseDups]

theorem filter_distinct (q : α → Bool) (xs : List α) :
    (distinct xs).filter q = distinct (xs.filter q) := by
  rw [distinct_eq_eraseDups, distinct_eq_eraseDups, filter_eraseDups]

/-- Of a second list what the first one lacks is kept. -/
theorem distinct_append (xs ys : List α) :
    distinct (xs ++ ys) = distinct xs ++ distinct (ys.filter (· ∉ xs)) := by
  have hlack : ys.removeAll xs = ys.filter (· ∉ xs) := by
    rw [List.removeAll]
    exact List.filter_congr fun y _ => by simp
  rw [distinct_eq_eraseDups, distinct_eq_eraseDups, distinct_eq_eraseDups, List.eraseDups_append,
    hlack]

/--
**Listing everything once keeps exactly the first occurrences.**  What is kept has no element
twice, has every element of the list, and has them in the order of their first positions there.
Nothing changes when it is listed once again.  Of two lists in a row all is kept that is kept of
the first, and then what is kept of the second and is not in the first.  And what is kept of one
list is what is kept of another, up to order, exactly when the two have the same elements.
-/
theorem distinct_keeps_firsts (xs ys : List α) :
    (distinct xs).Nodup ∧ (∀ x, x ∈ distinct xs ↔ x ∈ xs) ∧
    (distinct xs).Pairwise (fun x y => xs.idxOf x < xs.idxOf y) ∧
    distinct (distinct xs) = distinct xs ∧
    distinct (xs ++ ys) = distinct xs ++ (distinct ys).filter (· ∉ xs) ∧
    ((distinct xs).Perm (distinct ys) ↔ ∀ x, x ∈ xs ↔ x ∈ ys) := by
  refine ⟨nodup_distinct xs, fun x => mem_distinct, ?_, ?_, ?_, fun hperm x => ?_, fun hsame => ?_⟩
  · rw [distinct_eq_eraseDups]
    exact pairwise_idxOf_eraseDups xs
  · rw [distinct_eq_eraseDups (distinct xs), eraseDups_of_nodup (nodup_distinct xs)]
  · rw [distinct_append, filter_distinct]
  · rw [← mem_distinct, hperm.mem_iff, mem_distinct]
  · rw [distinct_eq_eraseDups, distinct_eq_eraseDups]
    exact eraseDups_perm hsame

/-- Operations that are declared again stay where they were declared first. -/
example : distinct ["*", "write", "read", "*", "write", "erase"] =
    ["*", "write", "read", "erase"] := by decide

end Elements

end Turnstile
