/-
What a JSON text may look like, and that any value in it is passed over whole.

The grammar says what a string, a numeral and a value are without saying how they are read:
`Spells` relates the characters of a string to what may stand between its quotes, and `IsValue`
holds of every text of one value, blanks and all.  The reader has to find out where a value
ends.  A string and anything in brackets shows its own end, and a numeral ends at the first
character that can follow a value (`Ended`).

That a value is passed over is an induction on how it is made up (`IsValue.passedOver`).  Along
an array or an object the reader is followed from one item to the next: with a comma put before
the first one, too, each item is a comma and a text, and there are always more steps left than
there are characters.
-/
import Mathlib.Data.List.DropRight
import Turnstile.Json.Reader
import Turnstile.Proofs.JsonText

namespace Turnstile.Json

/-- Characters are told apart by any test that only one of them passes. -/
theorem ne_of_test {p : Char → Bool} {c d : Char} (hc : p c = true) (hd : p d = false) :
    c ≠ d := by
  rintro rfl
  simp [hc] at hd

/-! ### Blanks -/

def Blank (cs : List Char) : Prop := ∀ c ∈ cs, isBlank c = true

@[simp] theorem blank_nil : Blank [] := List.forall_mem_nil _

theorem Blank.skip {cs : List Char} (h : Blank cs) (rest : List Char) :
    skipBlanks (cs ++ rest) = skipBlanks rest := List.dropWhile_append_of_pos h

theorem skipBlanks_cons {c : Char} (h : isBlank c = false) (cs : List Char) :
    skipBlanks (c :: cs) = c :: cs := List.dropWhile_cons_of_neg (by simp [h])

theorem skipBlanks_skipBlanks (cs : List Char) : skipBlanks (skipBlanks cs) = skipBlanks cs :=
  List.dropWhile_idempotent _ _

/-- Blanks before a character that is none are skipped, and nothing else is. -/
theorem Blank.skip_cons {cs : List Char} (h : Blank cs) {c : Char} (hc : isBlank c = false)
    (rest : List Char) : skipBlanks (cs ++ c :: rest) = c :: rest := by
  rw [h.skip, skipBlanks_cons hc]

/-- What may follow a value: a blank, a comma or a closing bracket. -/
def follows (c : Char) : Bool := isBlank c || c = ',' || c = ']' || c = '}'

/-- The text is over, or goes on with something that may follow a value. -/
def Ended (rest : List Char) : Prop := ∀ c ∈ rest.head?, follows c = true

theorem ended_cons {c : Char} (h : follows c = true) (cs : List Char) : Ended (c :: cs) := by
  simpa [Ended] using h

theorem Ended.blank_append {cs rest : List Char} (hcs : Blank cs) (hrest : Ended rest) :
    Ended (cs ++ rest) := by
  cases cs with
  | nil => exact hrest
  | cons c cs => exact ended_cons (by simp [follows, hcs c List.mem_cons_self]) _

theorem ended_items {close : Char} (hclose : follows close = true) (texts : List (List Char))
    (rest : List Char) : Ended (texts.flatMap (',' :: ·) ++ close :: rest) := by
  cases texts with
  | nil => exact ended_cons hclose _
  | cons => exact ended_cons rfl _

/-! ### Strings -/

/-- Four hexadecimal digits and their value. -/
inductive FourDigits : List Char → Nat → Prop
  | mk {a b c d : Char} {i j k l : Nat} (ha : hexValue? a = some i) (hb : hexValue? b = some j)
      (hc : hexValue? c = some k) (hd : hexValue? d = some l) :
      FourDigits [a, b, c, d] (((i * 16 + j) * 16 + k) * 16 + l)

/-- What may stand between the quotes of a string, whatever it says. -/
inductive IsBody : List Char → Prop
  | nil : IsBody []
  | plain {c : Char} {cs : List Char} (hcontrol : 32 ≤ c.toNat) (hquote : c ≠ '"')
      (hslash : c ≠ '\\') (h : IsBody cs) : IsBody (c :: cs)
  | letter {e d : Char} {cs : List Char} (he : escapeOf? e = some d) (h : IsBody cs) :
      IsBody ('\\' :: e :: cs)
  | unit {digits cs : List Char} {n : Nat} (hdigits : FourDigits digits n) (h : IsBody cs) :
      IsBody ('\\' :: 'u' :: digits ++ cs)

/-- The first of the two halves that stand for a character in UTF-16. -/
def leadingHalf (c : Char) : Nat := 0xD800 + (c.toNat - 0x10000) / 0x400

/-- The second of the two halves. -/
def trailingHalf (c : Char) : Nat := 0xDC00 + (c.toNat - 0x10000) % 0x400

/-- The code units of a character in UTF-16: itself, or else two halves. -/
def codeUnits (c : Char) : List Nat :=
  if c.toNat < 0x10000 then [c.toNat] else [leadingHalf c, trailingHalf c]

/-- What may stand between the quotes of a string that says these characters: each as it is,
if it may be, by a letter, if it has one, or by its code units. -/
inductive Spells : List Char → List Char → Prop
  | nil : Spells [] []
  | plain {c : Char} {s cs : List Char} (hcontrol : 32 ≤ c.toNat) (hquote : c ≠ '"')
      (hslash : c ≠ '\\') (h : Spells s cs) : Spells (c :: s) (c :: cs)
  | letter {e d : Char} {s cs : List Char} (he : escapeOf? e = some d) (h : Spells s cs) :
      Spells (d :: s) ('\\' :: e :: cs)
  | units {c : Char} {s cs : List Char} {digits : List (List Char)}
      (hdigits : List.Forall₂ FourDigits digits (codeUnits c)) (h : Spells s cs) :
      Spells (c :: s) (digits.flatMap (['\\', 'u'] ++ ·) ++ cs)

/-- No letter of an escape is the one that starts four digits. -/
theorem ne_u_of_escapeOf? {e d : Char} (he : escapeOf? e = some d) : e ≠ 'u' := by
  rintro rfl
  nomatch he

theorem IsBody.passString {cs : List Char} (h : IsBody cs) (rest : List Char) :
    passString .plain (cs ++ '"' :: rest) = .ok rest := by
  induction h with
  | nil => rfl
  | plain hcontrol hquote hslash _ ih =>
      simpa [Json.passString, hquote, hslash, Nat.not_lt.mpr hcontrol] using ih
  | letter he _ ih => simpa [Json.passString, ne_u_of_escapeOf? he, he] using ih
  | unit hdigits _ ih =>
      obtain ⟨ha, hb, hc, hd⟩ := hdigits
      simpa [Json.passString, ha, hb, hc, hd] using ih

theorem readString_letter {e d : Char} (he : escapeOf? e = some d) (cs : List Char) :
    readString .plain ('\\' :: e :: cs) = prepend d (readString .plain cs) := by
  simp [readString, ne_u_of_escapeOf? he, he]

/-- Four digits are read as what their value comes to: a character. -/
theorem readString_digits_char {digits : List Char} {n : Nat} (h : FourDigits digits n)
    {leading : Option Nat} {c : Char} (hc : resolve leading n = .ok (.inl c)) (cs : List Char) :
    readString (.digits leading 0 0) (digits ++ cs) = prepend c (readString .plain cs) := by
  obtain ⟨hi, hj, hk, hl⟩ := h
  simp [readString, hi, hj, hk, hl, hc]

/-- Or a half that another has to follow. -/
theorem readString_digits_half {digits : List Char} {n : Nat} (h : FourDigits digits n)
    {half : Nat} (hhalf : resolve none n = .ok (.inr half)) (cs : List Char) :
    readString (.digits none 0 0) (digits ++ cs) = readString (.leading half) cs := by
  obtain ⟨hi, hj, hk, hl⟩ := h
  simp [readString, hi, hj, hk, hl, hhalf]

theorem resolve_leadingHalf {c : Char} (h : 0x10000 ≤ c.toNat) :
    resolve none (leadingHalf c) = .ok (.inr (leadingHalf c)) := by
  have hlt : c.toNat < 0x110000 := c.valid.elim (Nat.lt_trans · (by decide)) And.right
  have hleading : isLeading (leadingHalf c) = true := by
    simp only [isLeading, Bool.and_eq_true, decide_eq_true_eq]
    rw [leadingHalf]
    omega
  have hnotTrailing : isTrailing (leadingHalf c) = false := by
    simp only [isTrailing, Bool.and_eq_false_iff, decide_eq_false_iff_not]
    rw [leadingHalf]
    omega
  simp [resolve, hleading, hnotTrailing]

theorem resolve_trailingHalf {c : Char} (h : 0x10000 ≤ c.toNat) :
    resolve (some (leadingHalf c)) (trailingHalf c) = .ok (.inl c) := by
  have htrailing : isTrailing (trailingHalf c) = true := by
    simp only [isTrailing, Bool.and_eq_true, decide_eq_true_eq]
    rw [trailingHalf]
    omega
  have hpaired : paired (leadingHalf c) (trailingHalf c) = c := by
    rw [paired, leadingHalf, trailingHalf, Nat.add_sub_cancel_left, Nat.add_sub_cancel_left,
      Nat.div_add_mod', Nat.sub_add_cancel h, Char.ofNat_toNat]
  simp [resolve, htrailing, hpaired]

/-- A character is read back from the digits of its code units. -/
theorem readString_units {c : Char} {digits : List (List Char)}
    (h : List.Forall₂ FourDigits digits (codeUnits c)) (cs : List Char) :
    readString .plain (digits.flatMap (['\\', 'u'] ++ ·) ++ cs) =
      prepend c (readString .plain cs) := by
  rw [codeUnits] at h
  split at h
  · simp only [List.forall₂_cons_right_iff, List.forall₂_nil_right_iff] at h
    obtain ⟨unit, _, hunit, rfl, rfl⟩ := h
    simpa [readString] using readString_digits_char hunit (resolve_toNat c) cs
  · next hbeyond =>
    have hbeyond := Nat.not_lt.mp hbeyond
    simp only [List.forall₂_cons_right_iff, List.forall₂_nil_right_iff] at h
    obtain ⟨leading, _, hleading, ⟨trailing, _, htrailing, rfl, rfl⟩, rfl⟩ := h
    have hhalf := readString_digits_half hleading (resolve_leadingHalf hbeyond)
      ('\\' :: 'u' :: trailing ++ cs)
    have hwhole := readString_digits_char htrailing (resolve_trailingHalf hbeyond) cs
    simpa [readString, hwhole] using hhalf

theorem Spells.readString {s cs : List Char} (h : Spells s cs) (rest : List Char) :
    readString .plain (cs ++ '"' :: rest) = .ok (s, rest) := by
  induction h with
  | nil => rfl
  | plain hcontrol hquote hslash _ ih =>
      simp [Json.readString, hquote, hslash, Nat.not_lt.mpr hcontrol, ih, prepend, Except.map]
  | letter he _ ih =>
      rw [List.cons_append, List.cons_append, readString_letter he, ih]
      rfl
  | units hdigits _ ih =>
      rw [List.append_assoc, readString_units hdigits, ih]
      rfl

theorem spells_escaped (c : Char) {s cs : List Char} (h : Spells s cs) :
    Spells (c :: s) (escaped c ++ cs) := by
  unfold escaped
  split_ifs with hquote hslash hback htab hline hform hreturn hcontrol
  case pos => subst hquote; exact .letter rfl h
  case pos => subst hslash; exact .letter rfl h
  case pos => subst hback; exact .letter rfl h
  case pos => subst htab; exact .letter rfl h
  case pos => subst hline; exact .letter rfl h
  case pos => subst hform; exact .letter rfl h
  case pos => subst hreturn; exact .letter rfl h
  case pos =>
    have hzero : hexValue? '0' = some 0 := by decide
    have hdigits := FourDigits.mk hzero hzero (hexValue?_hexDigit (n := c.toNat / 16) (by omega))
      (hexValue?_hexDigit (n := c.toNat % 16) (by omega))
    have hvalue : ((0 * 16 + 0) * 16 + c.toNat / 16) * 16 + c.toNat % 16 = c.toNat := by omega
    rw [hvalue] at hdigits
    have hunits : List.Forall₂ FourDigits
        [['0', '0', hexDigit (c.toNat / 16), hexDigit (c.toNat % 16)]] (codeUnits c) := by
      rw [codeUnits, if_pos (by omega)]
      exact .cons hdigits .nil
    exact .units hunits h
  case neg => exact .plain (Nat.not_lt.mp hcontrol) hquote hslash h

/-- What is written between the quotes of a string says that string. -/
theorem spells_flatMap_escaped (s : List Char) : Spells s (s.flatMap escaped) := by
  induction s with
  | nil => exact .nil
  | cons c s ih => exact spells_escaped c ih

/-! ### Numerals -/

def Digits (cs : List Char) : Prop := cs ≠ [] ∧ ∀ c ∈ cs, c.isDigit = true

theorem digits_singleton {c : Char} (h : c.isDigit = true) : Digits [c] :=
  ⟨List.cons_ne_nil c [], List.forall_mem_singleton.mpr h⟩

/-- The whole digits: a zero stands alone. -/
inductive IsWhole : List Char → Prop
  | zero : IsWhole ['0']
  | many {c : Char} {cs : List Char} (hzero : c ≠ '0') (h : Digits (c :: cs)) :
      IsWhole (c :: cs)

inductive IsFraction : List Char → Prop
  | none : IsFraction []
  | point {cs : List Char} (h : Digits cs) : IsFraction ('.' :: cs)

inductive IsExponent : List Char → Prop
  | none : IsExponent []
  | some {e : Char} {sign cs : List Char} (he : e = 'e' ∨ e = 'E')
      (hsign : sign = [] ∨ sign = ['+'] ∨ sign = ['-']) (h : Digits cs) :
      IsExponent (e :: sign ++ cs)

inductive IsNumeral : List Char → Prop
  | mk {sign whole fraction exponent : List Char} (hsign : sign = [] ∨ sign = ['-'])
      (hwhole : IsWhole whole) (hfraction : IsFraction fraction)
      (hexponent : IsExponent exponent) : IsNumeral (sign ++ whole ++ fraction ++ exponent)

/-- The text does not go on with a digit. -/
def NoDigit (rest : List Char) : Prop := ∀ c ∈ rest.head?, c.isDigit = false

theorem noDigit_cons {c : Char} (h : c.isDigit = false) (cs : List Char) : NoDigit (c :: cs) := by
  simpa [NoDigit] using h

theorem noDigit_of_ended {rest : List Char} (h : Ended rest) : NoDigit rest := by
  intro c hc
  have hfollows := h c hc
  simp only [follows, isBlank, Bool.or_eq_true, decide_eq_true_eq] at hfollows
  rcases hfollows with (((((rfl | rfl) | rfl) | rfl) | rfl) | rfl) | rfl <;> rfl

theorem IsWhole.digits {cs : List Char} (h : IsWhole cs) : Digits cs := by
  cases h with
  | zero => exact digits_singleton rfl
  | many _ h => exact h

namespace Numeral

variable (cut : Problem) {rest : List Char}

theorem digits_append {cs : List Char} (hcs : Digits cs) (hrest : NoDigit rest) :
    digits cut (cs ++ rest) = .ok (cs, rest) := by
  have hbehind : rest.takeWhile Char.isDigit = [] ∧ rest.dropWhile Char.isDigit = rest := by
    cases rest with
    | nil => exact ⟨rfl, rfl⟩
    | cons c rest => simp [hrest c rfl]
  have htake : (cs ++ rest).takeWhile Char.isDigit = cs := by
    rw [List.takeWhile_append_of_pos hcs.2, hbehind.1, List.append_nil]
  have hdrop : (cs ++ rest).dropWhile Char.isDigit = rest := by
    rw [List.dropWhile_append_of_pos hcs.2, hbehind.2]
  obtain ⟨c, cs, rfl⟩ := List.exists_cons_of_ne_nil hcs.1
  rw [digits, htake, hdrop]

theorem readWhole_append {whole : List Char} (h : IsWhole whole) (hrest : NoDigit rest) :
    readWhole cut (whole ++ rest) = .ok (whole, rest) := by
  rw [readWhole, digits_append cut h.digits hrest]
  cases h with
  | zero => rfl
  | many hzero => simp [bind, Except.bind, hzero]

theorem readFraction_append {fraction : List Char} (h : IsFraction fraction)
    (hrest : NoDigit rest) (hpoint : '.' ∉ rest.head?) :
    ∃ found, readFraction cut (fraction ++ rest) = .ok (found, rest) := by
  cases h with
  | none =>
      refine ⟨[], ?_⟩
      rw [List.nil_append, readFraction.eq_def]
      split
      · simp at hpoint
      · rfl
  | @point cs h => exact ⟨cs, digits_append cut h hrest⟩

/-- A sign is told from the digits behind it. -/
theorem exponentSign_append {sign cs : List Char}
    (hsign : sign = [] ∨ sign = ['+'] ∨ sign = ['-']) (hcs : Digits cs) (rest : List Char) :
    ∃ negative, exponentSign (sign ++ (cs ++ rest)) = (negative, cs ++ rest) := by
  obtain ⟨c, cs, rfl⟩ := List.exists_cons_of_ne_nil hcs.1
  have hdigit : c.isDigit = true := hcs.2 c List.mem_cons_self
  rcases hsign with rfl | rfl | rfl
  · refine ⟨false, ?_⟩
    rw [List.nil_append, List.cons_append, exponentSign]
    · exact fun _ heq => ne_of_test hdigit rfl (List.cons.inj heq).1
    · exact fun _ heq => ne_of_test hdigit rfl (List.cons.inj heq).1
  · exact ⟨false, rfl⟩
  · exact ⟨true, rfl⟩

theorem readExponent_append {exponent : List Char} (h : IsExponent exponent)
    (hrest : Ended rest) : ∃ found, readExponent cut (exponent ++ rest) = .ok (found, rest) := by
  cases h with
  | none =>
      refine ⟨none, ?_⟩
      cases rest with
      | nil => rfl
      | cons c rest =>
          have hc : follows c = true := hrest c rfl
          have he : ¬ (c = 'e' || c = 'E') = true := by
            simp [ne_of_test hc (d := 'e') rfl, ne_of_test hc (d := 'E') rfl]
          rw [List.nil_append, readExponent, if_neg he]
  | @some e sign cs he hsign h =>
      obtain ⟨negative, hsigned⟩ := exponentSign_append hsign h rest
      refine ⟨some (negative, cs), ?_⟩
      have he : (e = 'e' || e = 'E') = true := by simpa using he
      simp only [List.cons_append, List.append_assoc, readExponent, he, if_true, hsigned,
        digits_append cut h (noDigit_of_ended hrest)]
      rfl

/-- What stands behind a numeral's digits cannot be taken for more of them. -/
theorem noDigit_exponent {exponent : List Char} (h : IsExponent exponent) (hrest : Ended rest) :
    NoDigit (exponent ++ rest) ∧ '.' ∉ (exponent ++ rest).head? := by
  cases h with
  | none => exact ⟨noDigit_of_ended hrest, fun hpoint => absurd (hrest '.' hpoint) (by decide)⟩
  | some he => rcases he with rfl | rfl <;> exact ⟨noDigit_cons rfl _, by simp⟩

theorem noDigit_fraction {fraction : List Char} (h : IsFraction fraction) (hrest : NoDigit rest) :
    NoDigit (fraction ++ rest) := by
  cases h with
  | none => exact hrest
  | point => exact noDigit_cons rfl _

/-- A numeral is read up to where a value may end. -/
theorem read_append {cs : List Char} (h : IsNumeral cs) (hrest : Ended rest) :
    ∃ n, read cut (cs ++ rest) = .ok (n, rest) := by
  obtain @⟨sign, whole, fraction, exponent, hsign, hwhole, hfraction, hexponent⟩ := h
  obtain ⟨hdigit, hpoint⟩ := noDigit_exponent hexponent hrest
  have hread := readWhole_append cut hwhole (noDigit_fraction hfraction hdigit)
  obtain ⟨fractional, hfound⟩ := readFraction_append cut hfraction hdigit hpoint
  obtain ⟨power, hpower⟩ := readExponent_append cut hexponent hrest
  simp only [List.append_assoc]
  rcases hsign with rfl | rfl
  · refine ⟨⟨false, whole, fractional, power⟩, ?_⟩
    obtain ⟨c, whole, rfl⟩ := List.exists_cons_of_ne_nil hwhole.digits.1
    have hc : c ≠ '-' := ne_of_test (hwhole.digits.2 c List.mem_cons_self) rfl
    simp only [List.cons_append] at hread
    simp [read, hc, hread, hfound, hpower, bind, Except.bind]
  · refine ⟨⟨true, whole, fractional, power⟩, ?_⟩
    simp [read, hread, hfound, hpower, bind, Except.bind]

end Numeral

/-! ### Values -/

/-- A field of an object as it is laid out: what stands between the quotes of its name, the
blanks before the name and behind it, and the text of its value. -/
structure Field where
  before : List Char
  name : List Char
  behind : List Char
  value : List Char

def Field.chars (f : Field) : List Char :=
  f.before ++ '"' :: f.name ++ '"' :: f.behind ++ ':' :: f.value

/-- A field in a value that is passed over: its name may say anything. -/
structure Field.Skippable (f : Field) : Prop where
  before : Blank f.before
  name : IsBody f.name
  behind : Blank f.behind

/-- The texts of values, with any blanks around them and inside them. -/
inductive IsValue : List Char → Prop
  | null : IsValue ['n', 'u', 'l', 'l']
  | true : IsValue ['t', 'r', 'u', 'e']
  | false : IsValue ['f', 'a', 'l', 's', 'e']
  | numeral {cs : List Char} (h : IsNumeral cs) : IsValue cs
  | string {body : List Char} (h : IsBody body) : IsValue ('"' :: body ++ ['"'])
  | array {blanks : List Char} {items : List (List Char)} (hblanks : Blank blanks)
      (hitems : ∀ item ∈ items, IsValue item) : IsValue ('[' :: blanks ++ separated items ++ [']'])
  | object {blanks : List Char} {fields : List Field} (hblanks : Blank blanks)
      (hnames : ∀ f ∈ fields, f.Skippable) (hvalues : ∀ f ∈ fields, IsValue f.value) :
      IsValue ('{' :: blanks ++ separated (fields.map Field.chars) ++ ['}'])
  | padded {before cs behind : List Char} (hbefore : Blank before) (h : IsValue cs)
      (hbehind : Blank behind) : IsValue (before ++ cs ++ behind)

/-! ### Stepping along -/

/-- An item stands next: neither the end of a list nor a comma. -/
def ItemNext (cs : List Char) : Prop :=
  ∃ c tail, skipBlanks cs = c :: tail ∧ c ≠ ']' ∧ c ≠ ','

section Steps

variable {blanks cs tail : List Char}

theorem nextItem_comma (hblanks : Blank blanks) (h : ItemNext cs) :
    nextItem false (blanks ++ ',' :: cs) = .ok (some (skipBlanks cs)) := by
  obtain ⟨c, tail, hskip, hclose, -⟩ := h
  rw [nextItem, hblanks.skip_cons rfl]
  simp only [hskip]
  split <;> simp_all

/-- The first item is stepped to as if it had a comma before it, too. -/
theorem nextItem_first (hblanks : Blank blanks) (h : ItemNext cs) :
    nextItem true (blanks ++ cs) = nextItem false (',' :: cs) := by
  refine Eq.trans ?_ (nextItem_comma blank_nil h).symm
  obtain ⟨c, tail, hskip, hclose, hcomma⟩ := h
  rw [nextItem, hblanks.skip, hskip]
  split <;> simp_all

theorem nextItem_close (hblanks : Blank blanks) (first : Bool) (rest : List Char) :
    nextItem first (blanks ++ ']' :: rest) = .ok none := by
  rw [nextItem, hblanks.skip_cons rfl]
  rfl

theorem closeArray_append (hblanks : Blank blanks) (rest : List Char) :
    closeArray (blanks ++ ']' :: rest) = .ok rest := by
  rw [closeArray, hblanks.skip_cons rfl]
  rfl

theorem nextField_comma (hblanks : Blank blanks) (h : skipBlanks cs = '"' :: tail) :
    nextField false (blanks ++ ',' :: cs) = .ok (some tail) := by
  rw [nextField, hblanks.skip_cons rfl]
  simp [h]

theorem nextField_first (hblanks : Blank blanks) (h : skipBlanks cs = '"' :: tail) :
    nextField true (blanks ++ cs) = nextField false (',' :: cs) := by
  refine Eq.trans ?_ (nextField_comma blank_nil h).symm
  rw [nextField, hblanks.skip, h]
  rfl

theorem nextField_close (hblanks : Blank blanks) (first : Bool) (rest : List Char) :
    nextField first (blanks ++ '}' :: rest) = .ok none := by
  rw [nextField, hblanks.skip_cons rfl]
  rfl

theorem closeObject_append (hblanks : Blank blanks) (rest : List Char) :
    closeObject (blanks ++ '}' :: rest) = .ok rest := by
  rw [closeObject, hblanks.skip_cons rfl]
  rfl

theorem passColon_append (hblanks : Blank blanks) (rest : List Char) :
    passColon (blanks ++ ':' :: rest) = .ok rest := by
  rw [passColon, hblanks.skip_cons rfl]
  rfl

/-- The name of a field stands after its quote. -/
theorem Field.skip_chars {f : Field} (hbefore : Blank f.before) (rest : List Char) :
    skipBlanks (f.chars ++ rest) =
      '"' :: (f.name ++ '"' :: (f.behind ++ ':' :: (f.value ++ rest))) := by
  simp only [Field.chars, List.append_assoc, List.cons_append]
  exact hbefore.skip_cons rfl _

end Steps

/-! ### Passing over items and fields -/

section Passing

variable {blanks : List Char} {steps : Nat}

theorem passValue_skipBlanks (steps : Nat) (cs : List Char) :
    passValue steps (skipBlanks cs) = passValue steps cs := by
  cases steps with
  | zero => rfl
  | succ steps => rw [passValue, passValue, skipBlanks_skipBlanks]

/-- A text is passed over whole, up to blanks at its end, given more steps than it has
characters. -/
def PassedOver (cs : List Char) : Prop :=
  ∀ ⦃steps : Nat⦄ ⦃rest : List Char⦄, cs.length < steps → Ended rest →
    ∃ after, Blank after ∧ passValue steps (cs ++ rest) = .ok (after ++ rest)

theorem passItems_first {cs : List Char} (hblanks : Blank blanks) (h : ItemNext cs)
    (steps : Nat) : passItems steps true (blanks ++ cs) = passItems steps false (',' :: cs) := by
  cases steps with
  | zero => rfl
  | succ steps =>
      have hnext : nextItem false (',' :: cs) = _ := nextItem_comma blank_nil h
      rw [passItems, passItems, nextItem_first hblanks h, hnext]

theorem passItems_close (hblanks : Blank blanks) (first : Bool) (rest : List Char)
    (hsteps : 0 < steps) : passItems steps first (blanks ++ ']' :: rest) = .ok rest := by
  obtain ⟨steps, rfl⟩ := Nat.exists_eq_add_one.mpr hsteps
  rw [passItems, nextItem_close hblanks]
  exact closeArray_append hblanks rest

theorem passItems_append {items : List (List Char)}
    (hnext : ∀ item ∈ items, ∀ rest, ItemNext (item ++ rest))
    (hitems : ∀ item ∈ items, PassedOver item) (hblanks : Blank blanks) (rest : List Char)
    (hsteps : (items.flatMap (',' :: ·)).length < steps) :
    passItems steps false (blanks ++ (items.flatMap (',' :: ·) ++ ']' :: rest)) = .ok rest := by
  induction items generalizing steps blanks with
  | nil => exact passItems_close hblanks false rest hsteps
  | cons item items ih =>
      obtain ⟨steps, rfl⟩ := Nat.exists_eq_add_one.mpr (Nat.zero_lt_of_lt hsteps)
      obtain ⟨hhead, htail⟩ := List.forall_mem_cons.mp hitems
      obtain ⟨hstart, hlater⟩ := List.forall_mem_cons.mp hnext
      simp only [List.flatMap_cons, List.length_append, List.length_cons] at hsteps
      -- The value and the items behind it are left one step fewer, which the comma makes up for.
      have hitem : item.length < steps := by omega
      have hleft : (items.flatMap (',' :: ·)).length < steps := by omega
      have hended : Ended (items.flatMap (',' :: ·) ++ ']' :: rest) := ended_items rfl items rest
      obtain ⟨after, hafter, hpass⟩ := hhead hitem hended
      simp only [List.flatMap_cons, List.append_assoc, List.cons_append]
      rw [passItems, nextItem_comma hblanks (hstart _)]
      simp only [passValue_skipBlanks, hpass]
      exact ih hlater htail hafter hleft

theorem length_separated_cons (text : List Char) (texts : List (List Char)) :
    (separated (text :: texts)).length + 1 = ((text :: texts).flatMap (',' :: ·)).length := by
  rw [separated_cons, List.flatMap_cons, List.length_append, List.length_append, List.length_cons]
  omega

theorem passItems_separated {items : List (List Char)}
    (hnext : ∀ item ∈ items, ∀ rest, ItemNext (item ++ rest))
    (hitems : ∀ item ∈ items, PassedOver item) (hblanks : Blank blanks) (rest : List Char)
    (hsteps : (separated items).length + 1 < steps) :
    passItems steps true (blanks ++ (separated items ++ ']' :: rest)) = .ok rest := by
  cases items with
  | nil => exact passItems_close hblanks true rest (Nat.zero_lt_of_lt hsteps)
  | cons item items =>
      have hstart := hnext item List.mem_cons_self (items.flatMap (',' :: ·) ++ ']' :: rest)
      rw [separated_cons, List.append_assoc, passItems_first hblanks hstart]
      have hpass := passItems_append hnext hitems blank_nil rest
        (length_separated_cons item items ▸ hsteps)
      simpa using hpass

theorem passFields_first {cs tail : List Char} (hblanks : Blank blanks)
    (h : skipBlanks cs = '"' :: tail) (steps : Nat) :
    passFields steps true (blanks ++ cs) = passFields steps false (',' :: cs) := by
  cases steps with
  | zero => rfl
  | succ steps =>
      have hnext : nextField false (',' :: cs) = _ := nextField_comma blank_nil h
      rw [passFields, passFields, nextField_first hblanks h, hnext]

theorem passFields_close (hblanks : Blank blanks) (first : Bool) (rest : List Char)
    (hsteps : 0 < steps) : passFields steps first (blanks ++ '}' :: rest) = .ok rest := by
  obtain ⟨steps, rfl⟩ := Nat.exists_eq_add_one.mpr hsteps
  rw [passFields, nextField_close hblanks]
  exact closeObject_append hblanks rest

theorem passFields_append {fields : List Field} (hnames : ∀ f ∈ fields, f.Skippable)
    (hvalues : ∀ f ∈ fields, PassedOver f.value) (hblanks : Blank blanks) (rest : List Char)
    (hsteps : ((fields.map Field.chars).flatMap (',' :: ·)).length < steps) :
    passFields steps false
      (blanks ++ ((fields.map Field.chars).flatMap (',' :: ·) ++ '}' :: rest)) = .ok rest := by
  induction fields generalizing steps blanks with
  | nil => exact passFields_close hblanks false rest hsteps
  | cons f fields ih =>
      obtain ⟨steps, rfl⟩ := Nat.exists_eq_add_one.mpr (Nat.zero_lt_of_lt hsteps)
      obtain ⟨hhead, htail⟩ := List.forall_mem_cons.mp hvalues
      obtain ⟨⟨hbefore, hname, hbehind⟩, hlater⟩ := List.forall_mem_cons.mp hnames
      simp only [List.map_cons, List.flatMap_cons, List.length_append, List.length_cons] at hsteps
      have hvalue : f.value.length < steps := by
        simp only [Field.chars, List.length_append, List.length_cons] at hsteps
        omega
      have hleft : ((fields.map Field.chars).flatMap (',' :: ·)).length < steps := by omega
      have hended : Ended ((fields.map Field.chars).flatMap (',' :: ·) ++ '}' :: rest) :=
        ended_items rfl _ rest
      obtain ⟨after, hafter, hpass⟩ := hhead hvalue hended
      simp only [List.map_cons, List.flatMap_cons, List.append_assoc, List.cons_append]
      rw [passFields, nextField_comma hblanks (Field.skip_chars hbefore _)]
      simp only [hname.passString, passColon_append hbehind, bind, Except.bind, hpass]
      exact ih hlater htail hafter hleft

theorem passFields_separated {fields : List Field} (hnames : ∀ f ∈ fields, f.Skippable)
    (hvalues : ∀ f ∈ fields, PassedOver f.value) (hblanks : Blank blanks) (rest : List Char)
    (hsteps : (separated (fields.map Field.chars)).length + 1 < steps) :
    passFields steps true (blanks ++ (separated (fields.map Field.chars) ++ '}' :: rest)) =
      .ok rest := by
  cases fields with
  | nil => exact passFields_close hblanks true rest (Nat.zero_lt_of_lt hsteps)
  | cons f fields =>
      have hstart := Field.skip_chars (hnames f List.mem_cons_self).before
        ((fields.map Field.chars).flatMap (',' :: ·) ++ '}' :: rest)
      rw [List.map_cons] at hsteps
      rw [List.map_cons, separated_cons, List.append_assoc, passFields_first hblanks hstart]
      have hpass := passFields_append hnames hvalues blank_nil rest
        (length_separated_cons f.chars _ ▸ hsteps)
      simpa using hpass

end Passing

/-! ### Passing over values -/

theorem expect_append (word rest : List Char) : expect word (word ++ rest) = .ok rest := by
  induction word with
  | nil => rfl
  | cons c word ih => simpa [expect] using ih

theorem numeral_start {cs : List Char} (h : IsNumeral cs) :
    ∃ c tail, cs = c :: tail ∧ Numeral.canStart c = true := by
  obtain ⟨rfl | rfl, hwhole, -, -⟩ := h
  · obtain ⟨c, whole, rfl⟩ := List.exists_cons_of_ne_nil hwhole.digits.1
    exact ⟨c, _, rfl, by simp [Numeral.canStart, hwhole.digits.2 c List.mem_cons_self]⟩
  · exact ⟨'-', _, rfl, rfl⟩

theorem isBlank_of_canStart {c : Char} (h : Numeral.canStart c = true) : isBlank c = false := by
  simp [isBlank, ne_of_test h (d := ' ') rfl, ne_of_test h (d := '\n') rfl,
    ne_of_test h (d := '\t') rfl, ne_of_test h (d := '\r') rfl]

theorem passValue_numeral {c : Char} (h : Numeral.canStart c = true) (steps : Nat)
    (cs : List Char) : passValue (steps + 1) (c :: cs) =
      (Numeral.read .malformed (c :: cs)).map (·.2) := by
  rw [passValue, skipBlanks_cons (isBlank_of_canStart h)]
  split
  case h_1 heq => cases heq
  case h_8 heq =>
    obtain ⟨rfl, rfl⟩ := List.cons.inj heq
    exact if_pos h
  -- No other value starts with a character that a numeral can start with.
  all_goals
    next heq =>
    obtain ⟨rfl, rfl⟩ := List.cons.inj heq
    exact absurd h (by decide)

theorem IsValue.itemNext {cs : List Char} (h : IsValue cs) (rest : List Char) :
    ItemNext (cs ++ rest) := by
  induction h generalizing rest with
  | null => exact ⟨'n', _, rfl, by decide, by decide⟩
  | true => exact ⟨'t', _, rfl, by decide, by decide⟩
  | false => exact ⟨'f', _, rfl, by decide, by decide⟩
  | string => exact ⟨'"', _, rfl, by decide, by decide⟩
  | array => exact ⟨'[', _, rfl, by decide, by decide⟩
  | object => exact ⟨'{', _, rfl, by decide, by decide⟩
  | numeral h =>
      obtain ⟨c, tail, rfl, hc⟩ := numeral_start h
      exact ⟨c, _, skipBlanks_cons (isBlank_of_canStart hc) _, ne_of_test hc rfl,
        ne_of_test hc rfl⟩
  | padded hbefore _ _ ih =>
      rw [ItemNext, List.append_assoc, List.append_assoc, hbefore.skip]
      exact ih _

theorem PassedOver.padded {before cs behind : List Char} (hbefore : Blank before)
    (h : PassedOver cs) (hbehind : Blank behind) : PassedOver (before ++ cs ++ behind) := by
  intro steps rest hsteps hrest
  simp only [List.length_append] at hsteps
  have hcs : cs.length < steps := by omega
  obtain ⟨after, hafter, hpass⟩ := h hcs (hrest.blank_append hbehind)
  refine ⟨after ++ behind, List.forall_mem_append.mpr ⟨hafter, hbehind⟩, ?_⟩
  rw [List.append_assoc, List.append_assoc, ← passValue_skipBlanks, hbefore.skip,
    passValue_skipBlanks, hpass, List.append_assoc]

/-- A text is passed over whole if, with whatever may stand behind it, that is all that is left. -/
theorem passedOver_of_exact {cs : List Char}
    (h : ∀ steps rest, cs.length ≤ steps → Ended rest →
      passValue (steps + 1) (cs ++ rest) = .ok rest) : PassedOver cs := by
  intro steps rest hsteps hrest
  obtain ⟨steps, rfl⟩ := Nat.exists_eq_add_one.mpr (Nat.zero_lt_of_lt hsteps)
  exact ⟨[], blank_nil, h steps rest (Nat.le_of_lt_succ hsteps) hrest⟩

/-- **Any value is passed over whole.** -/
theorem IsValue.passedOver {cs : List Char} (h : IsValue cs) : PassedOver cs := by
  -- On how the value is made up: what an array or an object holds is passed over already.
  induction h with
  | padded hbefore _ hbehind ih => exact ih.padded hbefore hbehind
  | null => exact passedOver_of_exact fun _ rest _ _ => expect_append ['u', 'l', 'l'] rest
  | true => exact passedOver_of_exact fun _ rest _ _ => expect_append ['r', 'u', 'e'] rest
  | false => exact passedOver_of_exact fun _ rest _ _ => expect_append ['a', 'l', 's', 'e'] rest
  | string h =>
      refine passedOver_of_exact fun steps rest _ _ => ?_
      rw [List.cons_append, List.cons_append, List.append_assoc]
      exact h.passString rest
  | numeral h =>
      refine passedOver_of_exact fun steps rest _ hrest => ?_
      obtain ⟨n, hread⟩ := Numeral.read_append .malformed h hrest
      obtain ⟨c, tail, rfl, hc⟩ := numeral_start h
      rw [List.cons_append, passValue_numeral hc, ← List.cons_append, hread]
      rfl
  | array hblanks hitems ih =>
      refine passedOver_of_exact fun steps rest hsteps _ => ?_
      simp only [List.length_append, List.length_cons] at hsteps
      simp only [List.cons_append, List.append_assoc]
      exact passItems_separated (fun item hitem => (hitems item hitem).itemNext) ih hblanks rest
        (by omega)
  | object hblanks hnames hvalues ih =>
      refine passedOver_of_exact fun steps rest hsteps _ => ?_
      simp only [List.length_append, List.length_cons] at hsteps
      simp only [List.cons_append, List.append_assoc]
      exact passFields_separated hnames ih hblanks rest (by omega)

end Turnstile.Json
