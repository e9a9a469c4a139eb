/-
Where the parts of a JSON text end.

A text holds no lengths, so each part has to show its own end.  A string ends at the first
quote that is not escaped, and `readString_quoted` says that reading it gives back what was
written.  A numeral ends where a character stands that no numeral has, which is what every
character that can follow a value is.  And a list ends at its closing bracket, because no
item starts with one.  From these, two equal texts with anything behind them have equal
parts, which `SelfDelimiting` says of one part at a time.
-/
import Mathlib.Data.List.Forall2
import Mathlib.Data.List.TakeWhile
import Mathlib.Tactic.SplitIfs
import Turnstile.Json
import Turnstile.Json.Scan

namespace Turnstile

/-! ### Strings

Every character is read back from its escape, so a quoted string is.
-/

namespace Json

theorem hexValue?_hexDigit {n : Nat} (h : n < 16) : hexValue? (hexDigit n) = some n := by
  decide +revert

/-- A character is no half of a pair, so its number stands for itself. -/
theorem resolve_toNat (c : Char) : resolve none c.toNat = .ok (.inl c) := by
  have hnotHalf : isTrailing c.toNat = false ∧ isLeading c.toNat = false := by
    have hvalid : c.toNat < 0xD800 ∨ 0xDFFF < c.toNat := c.valid.imp id And.left
    simp only [isTrailing, isLeading, Bool.and_eq_false_iff, decide_eq_false_iff_not]
    omega
  simp [resolve, hnotHalf]

theorem readString_hex {c : Char} (h : c.toNat < 32) (cs : List Char) :
    readString .plain
        ('\\' :: 'u' :: '0' :: '0' :: hexDigit (c.toNat / 16) :: hexDigit (c.toNat % 16) :: cs) =
      prepend c (readString .plain cs) := by
  have hzero : hexValue? '0' = some 0 := by decide
  have hhigh := hexValue?_hexDigit (n := c.toNat / 16) (by omega)
  have hlow := hexValue?_hexDigit (n := c.toNat % 16) (by omega)
  have hvalue : c.toNat / 16 * 16 + c.toNat % 16 = c.toNat := Nat.div_add_mod' c.toNat 16
  simp [readString, hzero, hhigh, hlow, hvalue, resolve_toNat]

theorem readString_escaped (c : Char) (cs : List Char) :
    readString .plain (escaped c ++ cs) = prepend c (readString .plain cs) := by
  unfold escaped
  split_ifs with hquote hslash hback htab hline hform hreturn hcontrol
  case pos => rw [hquote]; rfl
  case pos => rw [hslash]; rfl
  case pos => rw [hback]; rfl
  case pos => rw [htab]; rfl
  case pos => rw [hline]; rfl
  case pos => rw [hform]; rfl
  case pos => rw [hreturn]; rfl
  case pos => exact readString_hex hcontrol cs
  case neg => simp [readString, hquote, hslash, hcontrol]

/-- **A quoted string is read back.** -/
theorem readString_quoted (s rest : List Char) :
    readString .plain (s.flatMap escaped ++ '"' :: rest) = .ok (s, rest) := by
  induction s with
  | nil => rfl
  | cons c s ih =>
      rw [List.flatMap_cons, List.append_assoc, readString_escaped, ih]
      rfl

theorem quoted_append_inj {s t : String} {rest rest' : List Char}
    (h : quoted s ++ rest = quoted t ++ rest') : s = t ∧ rest = rest' := by
  simp only [quoted, List.cons_append, List.append_assoc, List.nil_append, List.cons.injEq,
    true_and] at h
  have hread := congrArg (readString .plain) h
  rw [readString_quoted, readString_quoted] at hread
  simp only [Except.ok.injEq, Prod.mk.injEq] at hread
  exact ⟨String.toList_inj.mp hread.1, hread.2⟩

end Json

/-! ### Numerals

Of what a number looks like only this is used: it is not empty, and it consists of digits,
signs, points and exponent letters.
-/

/-- The characters that numbers are written with. -/
def Json.isNumeral (c : Char) : Bool := c.isDigit || c = '+' || c = '-' || c = '.' || c = 'e'

/-- A text that a number can have. -/
def Json.Spelling (cs : List Char) : Prop := cs ≠ [] ∧ ∀ c ∈ cs, Json.isNumeral c = true

theorem Json.isNumeral_of_isDigit {c : Char} (h : c.isDigit = true) :
    Json.isNumeral c = true := by
  simp [Json.isNumeral, h]

namespace Decimal

theorem isDigit_of_mem_natDigits {n : Nat} : ∀ c ∈ natDigits n, c.isDigit = true :=
  fun _ h => Nat.isDigit_of_mem_toDigits (by decide) (by decide) h

namespace Binary64

theorem isDigit_of_mem_trimmed {n : Nat} {unit : Int} :
    ∀ c ∈ (trimmed n unit).digits, c.isDigit = true := by
  intro c h
  have hmem : c ∈ (natDigits n).reverse.dropWhile (· = '0') := List.mem_reverse.mp h
  exact isDigit_of_mem_natDigits c (List.mem_reverse.mp ((List.dropWhile_sublist _).mem hmem))

theorem isDigit_of_mem_shortest (d : Binary64) : ∀ c ∈ d.shortest.digits, c.isDigit = true := by
  rw [shortest]
  cases hfound : (List.range 17).findSome? fun n =>
      (d.multiple? (d.digitsBeforePoint - (n + 1 : Nat))).map
        (trimmed · (d.digitsBeforePoint - (n + 1 : Nat))) with
  | none => simp
  | some digits =>
      obtain ⟨n, -, hn⟩ := List.exists_of_findSome?_eq_some hfound
      obtain ⟨m, -, rfl⟩ := Option.map_eq_some_iff.mp hn
      exact isDigit_of_mem_trimmed

end Binary64

end Decimal

namespace Json

namespace Spelling

theorem natDigits (n : Nat) : Spelling (Decimal.natDigits n) :=
  ⟨Nat.toDigits_ne_nil, fun c hc => isNumeral_of_isDigit (Decimal.isDigit_of_mem_natDigits c hc)⟩

theorem place_ne_nil (d : Decimal.Digits) : Number.place d ≠ [] := by
  rw [Number.place]
  split_ifs <;> simp

/-- Wherever the point is put among digits, a number comes out. -/
theorem place {d : Decimal.Digits} (hd : ∀ c ∈ d.digits, c.isDigit = true) :
    Spelling (Number.place d) := by
  have hdigits : ∀ c ∈ d.digits, isNumeral c = true := fun c hc => isNumeral_of_isDigit (hd c hc)
  have htake : ∀ n, ∀ c ∈ d.digits.take n, isNumeral c = true :=
    fun n c hc => hdigits c (List.mem_of_mem_take hc)
  have hdrop : ∀ n, ∀ c ∈ d.digits.drop n, isNumeral c = true :=
    fun n c hc => hdigits c (List.mem_of_mem_drop hc)
  have hzeros : ∀ n, ∀ c ∈ List.replicate n '0', isNumeral c = true :=
    fun n c hc => by rw [List.eq_of_mem_replicate hc]; rfl
  refine ⟨place_ne_nil d, ?_⟩
  rw [Number.place]
  split_ifs with hinside hwhole
  · simp only [List.forall_mem_append, List.forall_mem_cons]
    exact ⟨⟨hdigits, hzeros _⟩, rfl, rfl, by simp⟩
  · simp only [List.forall_mem_append, List.forall_mem_cons]
    exact ⟨htake _, rfl, hdrop _⟩
  · simp only [List.forall_mem_append, List.forall_mem_cons]
    exact ⟨⟨⟨rfl, rfl, by simp⟩, hzeros _⟩, hdigits⟩
  · have hsign : isNumeral (if d.point - 1 < 0 then '-' else '+') = true := by split <;> rfl
    simp only [List.forall_mem_append, List.forall_mem_cons]
    refine ⟨⟨htake 1, ?_⟩, rfl, hsign, (natDigits _).2⟩
    -- The fraction is left out where there are no further digits.
    cases h : d.digits.drop 1 with
    | nil => simp
    | cons x xs => exact List.forall_mem_cons.mpr ⟨rfl, h ▸ hdrop 1⟩

theorem magnitudeText (d : Decimal.Binary64) : Spelling (Number.magnitudeText d) := by
  unfold Number.magnitudeText
  split
  · exact ⟨by simp, by simp [isNumeral]⟩
  · exact place (Decimal.Binary64.isDigit_of_mem_shortest d)

theorem signed {cs : List Char} (h : Spelling cs) (negative : Prop) [Decidable negative] :
    Spelling (if negative then '-' :: cs else cs) := by
  split
  · exact ⟨by simp, List.forall_mem_cons.mpr ⟨rfl, h.2⟩⟩
  · exact h

end Spelling

theorem Number.spelling_chars (n : Number) : Spelling n.chars := by
  cases n with
  | integer n => exact (Spelling.natDigits _).signed _
  | double negative magnitude => exact (Spelling.magnitudeText _).signed _

/-- The text goes on with something that no numeral has. -/
def Stops (rest : List Char) : Prop := ∀ c ∈ rest.head?, isNumeral c = false

theorem stops_nil : Stops [] := by simp [Stops]

theorem stops_cons {c : Char} (h : isNumeral c = false) (cs : List Char) : Stops (c :: cs) := by
  simpa [Stops] using h

theorem takeWhile_append_of_stops {cs rest : List Char} (hcs : Spelling cs) (hrest : Stops rest) :
    (cs ++ rest).takeWhile isNumeral = cs := by
  rw [List.takeWhile_append_of_pos hcs.2]
  cases rest with
  | nil => simp
  | cons c rest => simp [hrest c rfl]

theorem Spelling.append_inj {cs ds rest rest' : List Char} (hcs : Spelling cs)
    (hds : Spelling ds) (hrest : Stops rest) (hrest' : Stops rest')
    (h : cs ++ rest = ds ++ rest') : cs = ds ∧ rest = rest' := by
  have heq : cs = ds := by
    rw [← takeWhile_append_of_stops hcs hrest, h, takeWhile_append_of_stops hds hrest']
  subst heq
  exact ⟨rfl, List.append_cancel_left h⟩

/-! ### Lists with commas

Items that show their own ends make a list that does, provided that no item can be mistaken
for the closing bracket.
-/

/-- Whatever stands behind the text of `a` and behind any other text, when all of it is equal,
the two texts are of `Same` things. -/
def SelfDelimiting {α : Type} (text : α → List Char) (Same : α → α → Prop) (a : α) : Prop :=
  ∀ ⦃b : α⦄ ⦃rest rest' : List Char⦄, Stops rest → Stops rest' →
    text a ++ rest = text b ++ rest' → Same a b ∧ rest = rest'

theorem separated_cons (text : List Char) (texts : List (List Char)) :
    separated (text :: texts) = text ++ texts.flatMap (',' :: ·) := by
  induction texts generalizing text with
  | nil => simp [separated]
  | cons next texts ih => rw [separated, ih, List.flatMap_cons, List.cons_append]

section Lists

variable {α : Type} {text : α → List Char} {Same : α → α → Prop} {close : Char}

theorem stops_items (hclose : isNumeral close = false) (texts : List (List Char))
    (rest : List Char) : Stops (texts.flatMap (',' :: ·) ++ close :: rest) := by
  cases texts with
  | nil => exact stops_cons hclose _
  | cons => exact stops_cons rfl _

theorem forall₂_of_items (hclose : isNumeral close = false) (hcomma : close ≠ ',')
    {xs ys : List α} {rest rest' : List Char} (hxs : ∀ x ∈ xs, SelfDelimiting text Same x)
    (h : (xs.map text).flatMap (',' :: ·) ++ close :: rest =
      (ys.map text).flatMap (',' :: ·) ++ close :: rest') :
    List.Forall₂ Same xs ys ∧ rest = rest' := by
  induction xs generalizing ys with
  | nil =>
      cases ys with
      | nil => exact ⟨.nil, (List.cons.inj h).2⟩
      | cons y ys => exact absurd (List.cons.inj h).1 hcomma
  | cons x xs ih =>
      cases ys with
      | nil => exact absurd (List.cons.inj h).1.symm hcomma
      | cons y ys =>
          simp only [List.map_cons, List.flatMap_cons, List.append_assoc, List.cons_append,
            List.cons.injEq, true_and] at h
          obtain ⟨hhead, htail⟩ := hxs x List.mem_cons_self (stops_items hclose _ _)
            (stops_items hclose _ _) h
          obtain ⟨hitems, hrest⟩ := ih (fun z hz => hxs z (List.mem_cons_of_mem x hz)) htail
          exact ⟨.cons hhead hitems, hrest⟩

theorem forall₂_of_separated (hclose : isNumeral close = false) (hcomma : close ≠ ',')
    (hopen : ∀ x rest rest', text x ++ rest ≠ close :: rest')
    {xs ys : List α} {rest rest' : List Char} (hxs : ∀ x ∈ xs, SelfDelimiting text Same x)
    (h : separated (xs.map text) ++ close :: rest = separated (ys.map text) ++ close :: rest') :
    List.Forall₂ Same xs ys ∧ rest = rest' := by
  cases xs with
  | nil =>
      cases ys with
      | nil => exact ⟨.nil, (List.cons.inj h).2⟩
      | cons y ys =>
          rw [List.map_cons, separated_cons, List.append_assoc] at h
          exact absurd h.symm (hopen y _ _)
  | cons x xs =>
      cases ys with
      | nil =>
          rw [List.map_cons, separated_cons, List.append_assoc] at h
          exact absurd h (hopen x _ _)
      | cons y ys =>
          -- With a comma before the first item, too, only items are left.
          refine forall₂_of_items hclose hcomma hxs ?_
          have hcommas := congrArg (',' :: ·) h
          simpa only [List.map_cons, separated_cons, List.flatMap_cons, List.cons_append]
            using hcommas

end Lists

end Json

end Turnstile
