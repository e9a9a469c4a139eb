/-
What a client presents is read off one header value.

Of the headers named for it, in any case of letters, only the first has a say.  Its bytes are
either all visible, and then the value is a list with commas between the items, or one is not,
and then nothing is read off it.  `presented` says so without the reader's way through the
value, and two requests whose first values are the same present the same.
-/
import Mathlib.Data.List.DropRight
import Turnstile.Http.Credentials

namespace Turnstile

/-- Splitting keeps the pieces between separators, as the library's splitting does. -/
theorem Text.splitChars_eq_splitOn (sep : Char) (cs : List Char) :
    splitChars sep cs = cs.splitOn sep := by
  induction cs with
  | nil => exact (List.splitOn_nil sep).symm
  | cons c cs ih =>
      rw [List.splitOn, List.splitOnP_cons_eq_if_modifyHead, splitChars]
      by_cases hc : c = sep
      · rw [if_pos hc, if_pos (beq_iff_eq.mpr hc), ih]
        rfl
      · obtain ⟨piece, pieces, hpieces⟩ := List.exists_cons_of_ne_nil (splitChars_ne_nil sep cs)
        rw [if_neg hc, if_neg (by simpa using hc), ← List.splitOn, ← ih, hpieces]
        rfl

namespace Http

/-! ### Headers of one name -/

/-- The values of the headers of a name, in order. -/
def Request.values (r : Request) (name : String) : List (List UInt8) :=
  (r.headers.filter fun header => Text.sameIgnoringCase header.1 name).map (·.2)

theorem Request.header?_eq_head?_values (r : Request) (name : String) :
    r.header? name = (r.values name).head? := by
  rw [header?, values, List.head?_map, List.head?_filter]

/-! ### Visible values -/

/-- Whether a byte is a tab, a space or a printable ASCII character. -/
def Visible (b : UInt8) : Prop := b = 9 ∨ 0x20 ≤ b ∧ b ≤ 0x7e

instance (b : UInt8) : Decidable (Visible b) := inferInstanceAs (Decidable (_ ∨ _))

/-- Whether all of a value is visible. -/
def AllVisible (value : List UInt8) : Prop := ∀ b ∈ value, Visible b

instance (value : List UInt8) : Decidable (AllVisible value) := List.decidableBAll Visible value

theorem all_isVisible_iff {value : List UInt8} : value.all isVisible = true ↔ AllVisible value := by
  simp [AllVisible, isVisible, Visible]

theorem visibleText?_eq (value : List UInt8) :
    visibleText? value =
      if AllVisible value then some (value.map fun b => Char.ofNat b.toNat) else none := by
  simp only [visibleText?, all_isVisible_iff]

namespace Credentials

/-! ### What is presented -/

/-- The items of a value: what stands between commas, without the padding around it, where
anything is left. -/
def listed (value : List UInt8) : List String :=
  let pieces := (value.map fun b => Char.ofNat b.toNat).splitOn ','
  let trimmed := pieces.map fun piece => (piece.dropWhile isPadding).rdropWhile isPadding
  (trimmed.filter fun piece => piece ≠ []).map String.ofList

theorem items_eq_listed (value : List UInt8) :
    items (value.map fun b => Char.ofNat b.toNat) = listed value := by
  rw [items, listed, Text.splitChars_eq_splitOn]
  refine congrArg _ (List.filter_congr fun piece _ => ?_)
  cases piece <;> rfl

/-- What the values of the header present: nothing when there is none, else the items of the
first value, provided that it is visible. -/
def presented (values : List (List UInt8)) : Except Failure (List String) :=
  match values.head? with
  | none => .ok []
  | some value => if AllVisible value then .ok (listed value) else .error opaqueValue

theorem presented_congr {values values' : List (List UInt8)} (h : values.head? = values'.head?) :
    presented values = presented values' := by
  rw [presented, presented, h]

theorem ofValues_eq_presented (values : List (List UInt8)) :
    ofValues values = presented values := by
  cases values with
  | nil => rfl
  | cons value later =>
      simp only [ofValues, presented, List.head?_cons, visibleText?_eq]
      by_cases hvisible : AllVisible value
      · simp only [if_pos hvisible, items_eq_listed]
      · simp only [if_neg hvisible]

/-- **A request presents what its first value lists.** -/
theorem ofRequest_eq_presented (r : Request) : ofRequest r = presented (r.values header) := by
  rw [ofRequest, ofValues_eq_presented, r.header?_eq_head?_values]
  refine presented_congr ?_
  cases (r.values header).head? <;> rfl

theorem presented_of_opaque {values : List (List UInt8)}
    (h : ∃ value ∈ values.head?, ∃ b ∈ value, ¬Visible b) :
    presented values = .error opaqueValue := by
  obtain ⟨value, hvalue, b, hb, hopaque⟩ := h
  simp only [presented, Option.mem_def.mp hvalue]
  exact if_neg fun hvisible => hopaque (hvisible b hb)

theorem presented_of_visible {values : List (List UInt8)}
    (h : ∀ value ∈ values.head?, ∀ b ∈ value, Visible b) :
    presented values = .ok ((values.head?.map listed).getD []) := by
  rw [presented]
  cases hfirst : values.head? with
  | none => rfl
  | some value => exact if_pos (h value hfirst)

end Credentials

end Http

end Turnstile
