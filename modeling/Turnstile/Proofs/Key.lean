/-
What a route key tells apart.

A key is the method in upper case, a colon, the path and, when there are constraints, a
dash and their text in braces.  Two keys of one path under the same constraints are equal
exactly when their methods differ at most in case, which is `key_eq_iff_method`.  Across
paths a key gives its method and its path back as long as no method holds a colon and no
path holds what announces constraints: the method ends at the first colon, and the path at
the first place where constraints are announced.
-/
import Mathlib
import Turnstile.Endpoint

namespace Turnstile

namespace Text

/-! ### Case does not matter in exactly one way

Two texts agree without regard to case when their lower case forms are equal, and keys are
compared in upper case.  Both fold the same pairs of letters.
-/

theorem toLower_eq_iff_toUpper_eq (c d : Char) : c.toLower = d.toLower ↔ c.toUpper = d.toUpper := by
  constructor
  · intro h
    rw [← Char.toUpper_toLower_eq_toUpper c, h, Char.toUpper_toLower_eq_toUpper]
  · intro h
    rw [← Char.toLower_toUpper_eq_toLower c, h, Char.toLower_toUpper_eq_toLower]

theorem map_toLower_eq_iff (cs ds : List Char) :
    cs.map Char.toLower = ds.map Char.toLower ↔ cs.map Char.toUpper = ds.map Char.toUpper := by
  induction cs generalizing ds with
  | nil => cases ds <;> simp
  | cons c cs ih =>
      cases ds with
      | nil => simp
      | cons d ds => simp [toLower_eq_iff_toUpper_eq, ih]

/-- Texts agree without regard to case exactly when they agree in upper case. -/
theorem sameIgnoringCase_iff (s t : String) : sameIgnoringCase s t = true ↔ upper s = upper t := by
  simp only [sameIgnoringCase, upper, lower, beq_iff_eq, String.ofList_inj]
  exact map_toLower_eq_iff s.toList t.toList

theorem sameIgnoringCase_self (s : String) : sameIgnoringCase s s = true :=
  (sameIgnoringCase_iff s s).mpr rfl

/-- Upper case makes no colons. -/
theorem notMem_map_toUpper {cs : List Char} (h : ':' ∉ cs) : ':' ∉ cs.map Char.toUpper := by
  intro hmem
  obtain ⟨c, hc, hcolon⟩ := List.mem_map.mp hmem
  by_cases hlower : c.isLower
  · have halpha : c.toUpper.isUpper = c.isAlpha := Char.isUpper_toUpper_eq_isAlpha c
    rw [hcolon, Char.isAlpha, hlower, Bool.or_true] at halpha
    exact absurd halpha (by decide)
  · rw [Char.toUpper_eq_of_not_isLower hlower] at hcolon
    exact h (hcolon ▸ hc)

end Text

namespace Endpoint

/-- What announces the constraints of a key: a dash between spaces, and the brace they start
with. -/
def announcement : List Char := [' ', '-', ' ', '{']

/-- What stands behind the path in a key. -/
def tail : Option Constraints → List Char
  | none => []
  | some c => [' ', '-', ' '] ++ c.text.toList

/-- Constraints are announced before anything else of them is said. -/
theorem tail_cases (constraints : Option Constraints) :
    tail constraints = [] ∨ ∃ rest, tail constraints = announcement ++ rest := by
  cases constraints with
  | none => exact .inl rfl
  | some c =>
      refine .inr ⟨Json.separated ((Json.settled (Json.writeChars c.writes)).map Json.fieldText)
        ++ ['}'], ?_⟩
      simp [tail, announcement, Constraints.text, Json.compact, Json.chars]

theorem toList_key (method path : String) (constraints : Option Constraints) :
    (key method path constraints).toList =
      (Text.upper method).toList ++ ':' :: (path.toList ++ tail constraints) := by
  cases constraints <;> simp [key, tail]

/-! ### Keys of one path under the same constraints -/

theorem key_congr {method method' : String} (h : Text.upper method = Text.upper method')
    (path : String) (constraints : Option Constraints) :
    key method path constraints = key method' path constraints := by
  simp only [key, h]

/-- Keys of one path under the same constraints differ exactly when the methods do. -/
theorem key_eq_iff_method {method method' path : String} {constraints : Option Constraints} :
    key method path constraints = key method' path constraints ↔
      Text.upper method = Text.upper method' := by
  constructor
  · intro h
    have hlist := congrArg String.toList h
    rw [toList_key, toList_key] at hlist
    exact String.toList_inj.mp (List.append_cancel_right hlist)
  · exact fun h => key_congr h path constraints

/-! ### Keys of any paths

The first colon of a key ends its method.  What follows is the path, up to where
constraints are announced, and a path in which they are never announced cannot be mistaken
for one with constraints behind it.
-/

theorem key_parts {method method' path path' : String}
    {constraints constraints' : Option Constraints}
    (hm : ':' ∉ method.toList) (hm' : ':' ∉ method'.toList)
    (h : key method path constraints = key method' path' constraints') :
    Text.upper method = Text.upper method' ∧
      path.toList ++ tail constraints = path'.toList ++ tail constraints' := by
  have hlist := congrArg (fun k => Text.cutChars ':' k.toList) h
  have hcut : ∀ {m : String}, ':' ∉ m.toList → ∀ rest,
      Text.cutChars ':' ((Text.upper m).toList ++ ':' :: rest) =
        ((Text.upper m).toList, some rest) := by
    intro m hmem rest
    refine Text.cutChars_append_cons ?_ rest
    simpa [Text.upper] using Text.notMem_map_toUpper hmem
  simp only [toList_key, hcut hm, hcut hm', Prod.mk.injEq, Option.some.injEq] at hlist
  exact ⟨String.toList_inj.mp hlist.1, hlist.2⟩

/-- Where constraints are announced, nothing of a path is left to read, unless the path
announces some itself. -/
theorem eq_nil_of_tail_eq {path extra : List Char} {constraints constraints' : Option Constraints}
    (hfree : ¬announcement <:+: path ++ extra)
    (h : tail constraints = extra ++ tail constraints') : extra = [] := by
  rcases tail_cases constraints with hnil | ⟨rest, hrest⟩
  · rw [hnil] at h
    exact (List.append_eq_nil_iff.mp h.symm).1
  · rw [hrest] at h
    -- An announcement that starts one to three characters late disagrees with itself.
    match extra with
    | [] => rfl
    | [_] => rcases tail_cases constraints' with hc | ⟨_, hc⟩ <;> simp [announcement, hc] at h
    | [_, _] => rcases tail_cases constraints' with hc | ⟨_, hc⟩ <;> simp [announcement, hc] at h
    | [_, _, _] => rcases tail_cases constraints' with hc | ⟨_, hc⟩ <;> simp [announcement, hc] at h
    | a :: b :: c :: d :: more =>
        simp only [announcement, List.cons_append, List.nil_append, List.cons.injEq] at h
        obtain ⟨rfl, rfl, rfl, rfl, -⟩ := h
        exact absurd ⟨path, more, by simp [announcement]⟩ hfree

theorem path_eq_of_append_tail {path path' : List Char}
    {constraints constraints' : Option Constraints}
    (hfree : ¬announcement <:+: path) (hfree' : ¬announcement <:+: path')
    (h : path ++ tail constraints = path' ++ tail constraints') : path = path' := by
  rcases List.append_eq_append_iff.mp h with ⟨extra, rfl, hextra⟩ | ⟨extra, rfl, hextra⟩
  · rw [eq_nil_of_tail_eq hfree' hextra, List.append_nil]
  · rw [eq_nil_of_tail_eq hfree hextra, List.append_nil]

/-- **A key gives its method and its path back.** -/
theorem method_path_of_key_eq {method method' path path' : String}
    {constraints constraints' : Option Constraints}
    (hm : ':' ∉ method.toList) (hm' : ':' ∉ method'.toList)
    (hfree : ¬announcement <:+: path.toList) (hfree' : ¬announcement <:+: path'.toList)
    (h : key method path constraints = key method' path' constraints') :
    Text.upper method = Text.upper method' ∧ path = path' := by
  obtain ⟨hmethod, hrest⟩ := key_parts hm hm' h
  exact ⟨hmethod, String.toList_inj.mp (path_eq_of_append_tail hfree hfree' hrest)⟩

/-- Without constraints it does so whatever the paths hold. -/
theorem method_path_of_key_none_eq {method method' path path' : String}
    (hm : ':' ∉ method.toList) (hm' : ':' ∉ method'.toList)
    (h : key method path none = key method' path' none) :
    Text.upper method = Text.upper method' ∧ path = path' := by
  obtain ⟨hmethod, hrest⟩ := key_parts hm hm' h
  simp only [tail, List.append_nil] at hrest
  exact ⟨hmethod, String.toList_inj.mp hrest⟩

end Endpoint

end Turnstile
