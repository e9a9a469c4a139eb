/-
Cutting a text at a separator.

A privilege is cut at its first colons and a list of privileges at every comma, so
both cuts are written once, over lists of characters, and lifted to strings.  The
first cut loses nothing and stops as early as it can: what comes before holds no
separator.
-/
namespace Turnstile.Text

/-! ### The first separator -/

/-- The characters before the first separator, and those after it when there is one. -/
def cutChars (sep : Char) : List Char → List Char × Option (List Char)
  | [] => ([], none)
  | c :: cs =>
    if c = sep then ([], some cs)
    else
      let parts := cutChars sep cs
      (c :: parts.1, parts.2)

/-- The text before the first separator, and the text after it when there is one. -/
def cut (sep : Char) (s : String) : String × Option String :=
  let parts := cutChars sep s.toList
  (String.ofList parts.1, parts.2.map String.ofList)

theorem cutChars_of_notMem {sep : Char} {cs : List Char} (h : sep ∉ cs) :
    cutChars sep cs = (cs, none) := by
  induction cs with
  | nil => rfl
  | cons c cs ih =>
    simp only [List.mem_cons, not_or] at h
    simp [cutChars, Ne.symm h.1, ih h.2]

theorem cutChars_append_cons {sep : Char} {before : List Char} (h : sep ∉ before)
    (after : List Char) : cutChars sep (before ++ sep :: after) = (before, some after) := by
  induction before with
  | nil => simp [cutChars]
  | cons c cs ih =>
    simp only [List.mem_cons, not_or] at h
    simp [cutChars, Ne.symm h.1, ih h.2]

/-! ### Every separator -/

/-- The pieces between separators, empty ones included; a text without any is one piece. -/
def splitChars (sep : Char) : List Char → List (List Char)
  | [] => [[]]
  | c :: cs =>
    if c = sep then [] :: splitChars sep cs
    else
      match splitChars sep cs with
      | [] => [[c]]
      | piece :: pieces => (c :: piece) :: pieces

/-- The pieces of a text between separators, empty ones included. -/
def split (sep : Char) (s : String) : List String :=
  (splitChars sep s.toList).map String.ofList

theorem splitChars_ne_nil (sep : Char) (cs : List Char) : splitChars sep cs ≠ [] := by
  cases cs with
  | nil => simp [splitChars]
  | cons c cs =>
    unfold splitChars
    split
    · simp
    · split <;> simp

/-! ### Letters -/

/-- The text with the letters `a` to `z` in upper case and all other characters kept. -/
def upper (s : String) : String := String.ofList (s.toList.map Char.toUpper)

/-- The text with the letters `A` to `Z` in lower case and all other characters kept. -/
def lower (s : String) : String := String.ofList (s.toList.map Char.toLower)

/-- Whether two texts differ at most in the case of the letters `a` to `z`. -/
def sameIgnoringCase (s t : String) : Bool := lower s == lower t

end Turnstile.Text
