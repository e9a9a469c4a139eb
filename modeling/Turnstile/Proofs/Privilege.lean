/-
Reading a privilege loses nothing that writing it does not give back.

Only the first two colons of a text separate, so a text is either short, with one colon at
most, or long.  `parse_of_short` and `parse_of_long` say what either is read as, in terms of
the parts between colons.  Writing puts the colons back: the only thing it cannot tell is
whether a text without a colon had one at its end.

Read the other way, every privilege that reading yields is `Legible`: its tokens hold no colon
that would have separated, and none of its literals is the asterisk.  These are exactly the
privileges that are read back from their own text.
-/
import Mathlib.Data.List.TakeWhile
import Turnstile.Privilege

namespace Turnstile

/-! ### Parts of a text -/

namespace Privilege

/-- What stands before the first colon, which is everything where there is none. -/
def resourceOf (s : String) : String := .ofList (s.toList.takeWhile (· != ':'))

/-- What stands behind the first colon, which is nothing where there is none. -/
def restOf (s : String) : String := .ofList (s.toList.dropWhile (· != ':')).tail

/-- What stands between the first two colons. -/
def roleOf (s : String) : String := resourceOf (restOf s)

/-- What stands behind the first two colons. -/
def operationOf (s : String) : String := restOf (restOf s)

/-- A text with one colon at most. -/
def Short (s : String) : Prop := s.toList.count ':' ≤ 1

instance (s : String) : Decidable (Short s) := inferInstanceAs (Decidable (_ ≤ _))

section Chars

variable {cs : List Char}

theorem takeWhile_of_notMem (h : ':' ∉ cs) : cs.takeWhile (· != ':') = cs := by
  induction cs with
  | nil => rfl
  | cons c cs ih =>
      simp only [List.mem_cons, not_or] at h
      simp [Ne.symm h.1, ih h.2]

theorem dropWhile_of_notMem (h : ':' ∉ cs) : cs.dropWhile (· != ':') = [] := by
  induction cs with
  | nil => rfl
  | cons c cs ih =>
      simp only [List.mem_cons, not_or] at h
      simp [Ne.symm h.1, ih h.2]

/-- A list around its first colon. -/
theorem takeWhile_append_tail (h : ':' ∈ cs) :
    cs.takeWhile (· != ':') ++ ':' :: (cs.dropWhile (· != ':')).tail = cs := by
  induction cs with
  | nil => simp at h
  | cons c cs ih =>
      by_cases hc : c = ':'
      · simp [hc]
      · simp [hc, ih ((List.mem_cons.mp h).resolve_left (Ne.symm hc))]

theorem count_le_one_iff : cs.count ':' ≤ 1 ↔ ':' ∉ (cs.dropWhile (· != ':')).tail := by
  induction cs with
  | nil => simp
  | cons c cs ih =>
      by_cases hc : c = ':'
      · simp [hc, List.count_eq_zero]
      · simp [hc, ih]

theorem cutChars_eq (cs : List Char) :
    Text.cutChars ':' cs =
      (cs.takeWhile (· != ':'),
        if ':' ∈ cs then some (cs.dropWhile (· != ':')).tail else none) := by
  by_cases h : ':' ∈ cs
  · have hnone : ':' ∉ cs.takeWhile (· != ':') := by
      intro hmem
      simpa using List.mem_takeWhile_imp hmem
    rw [if_pos h, ← Text.cutChars_append_cons hnone, takeWhile_append_tail h]
  · rw [if_neg h, takeWhile_of_notMem h, Text.cutChars_of_notMem h]

end Chars

theorem short_iff (s : String) : Short s ↔ ':' ∉ (restOf s).toList := by
  rw [Short, restOf, String.toList_ofList, count_le_one_iff]

theorem short_of_notMem {s : String} (h : ':' ∉ s.toList) : Short s := by
  rw [Short, List.count_eq_zero.mpr h]
  exact Nat.zero_le 1

theorem mem_of_not_short {s : String} (h : ¬Short s) : ':' ∈ s.toList :=
  by_contra fun hmem => h (short_of_notMem hmem)

theorem restOf_of_notMem {s : String} (h : ':' ∉ s.toList) : restOf s = "" := by
  rw [restOf, dropWhile_of_notMem h]
  rfl

theorem resourceOf_of_notMem {s : String} (h : ':' ∉ s.toList) : resourceOf s = s := by
  rw [resourceOf, takeWhile_of_notMem h, String.ofList_toList]

theorem notMem_resourceOf (s : String) : ':' ∉ (resourceOf s).toList := by
  intro hmem
  rw [resourceOf, String.toList_ofList] at hmem
  simpa using List.mem_takeWhile_imp hmem

theorem notMem_roleOf (s : String) : ':' ∉ (roleOf s).toList := notMem_resourceOf (restOf s)

/-- A text around its first colon. -/
theorem resourceOf_append_restOf {s : String} (h : ':' ∈ s.toList) :
    resourceOf s ++ ":" ++ restOf s = s := by
  apply String.toList_inj.mp
  simp only [resourceOf, restOf, String.toList_append, String.toList_ofList]
  simpa using takeWhile_append_tail h

/-- A text around its first two colons. -/
theorem resourceOf_append_operationOf {s : String} (h : ¬Short s) :
    resourceOf s ++ ":" ++ roleOf s ++ ":" ++ operationOf s = s := by
  have hrest : ':' ∈ (restOf s).toList := by rwa [short_iff, not_not] at h
  have hjoin := resourceOf_append_restOf (mem_of_not_short h)
  rw [← resourceOf_append_restOf hrest] at hjoin
  simpa only [roleOf, operationOf, String.append_assoc] using hjoin

theorem cut_eq (s : String) :
    Text.cut ':' s = (resourceOf s, if ':' ∈ s.toList then some (restOf s) else none) := by
  rw [Text.cut, cutChars_eq]
  by_cases h : ':' ∈ s.toList <;> simp [h, resourceOf, restOf]

/-- The parts around a colon behind which nothing was cut before. -/
theorem parts_append {a : String} (h : ':' ∉ a.toList) (b : String) :
    resourceOf (a ++ ":" ++ b) = a ∧ restOf (a ++ ":" ++ b) = b := by
  have hlist : (a ++ ":" ++ b).toList = a.toList ++ ':' :: b.toList := by simp
  have hcut : Text.cut ':' (a ++ ":" ++ b) = (a, some b) := by
    rw [Text.cut, hlist, Text.cutChars_append_cons h]
    simp
  have hmem : ':' ∈ (a ++ ":" ++ b).toList := by
    rw [hlist]
    simp
  rw [cut_eq, if_pos hmem] at hcut
  simpa using hcut

end Privilege

/-! ### Tokens -/

namespace Segment

@[simp] theorem text_ofToken (t : String) : (ofToken t).text = t := by
  by_cases h : t = "*" <;> simp [ofToken, text, h]

/-- A wildcard, or a literal that neither is the asterisk nor holds a colon. -/
inductive IsToken : Segment → Prop
  | wildcard : IsToken .wildcard
  | value {t : String} (hstar : t ≠ "*") (hfree : ':' ∉ t.toList) : IsToken (.value t)

theorem ofToken_ne_absent (t : String) : ofToken t ≠ absent := by
  by_cases h : t = "*" <;> simp [ofToken, h]

theorem isToken_ofToken {t : String} (h : ':' ∉ t.toList) : (ofToken t).IsToken := by
  by_cases ht : t = "*"
  · rw [ofToken, if_pos ht]
    exact .wildcard
  · rw [ofToken, if_neg ht]
    exact .value ht h

namespace IsToken

variable {s : Segment}

theorem notMem_text (h : s.IsToken) : ':' ∉ s.text.toList := by
  cases h with
  | wildcard => decide
  | value hstar hfree => exact hfree

theorem ofToken_text (h : s.IsToken) : ofToken s.text = s := by
  cases h with
  | wildcard => rfl
  | value hstar hfree => exact if_neg hstar

theorem ne_absent (h : s.IsToken) : s ≠ .absent := by
  cases h <;> simp

end IsToken

end Segment

/-! ### Reading -/

namespace Privilege

/-- A short text is read without a role. -/
theorem parse_of_short {s : String} (h : Short s) :
    parse s = { resource := .ofToken (resourceOf s), role := .absent
                operation := .ofToken (restOf s) } := by
  have hrest := (short_iff s).mp h
  have hgetD : (if ':' ∈ s.toList then some (restOf s) else none).getD "" = restOf s := by
    by_cases hs : ':' ∈ s.toList
    · rw [if_pos hs, Option.getD_some]
    · rw [if_neg hs, Option.getD_none, restOf_of_notMem hs]
  simp only [parse, cut_eq s, hgetD, cut_eq (restOf s), if_neg hrest, resourceOf_of_notMem hrest]

/-- A long text is read with what stands between its first two colons as the role. -/
theorem parse_of_long {s : String} (h : ¬Short s) :
    parse s = { resource := .ofToken (resourceOf s), role := .ofToken (roleOf s)
                operation := .ofToken (operationOf s) } := by
  have hrest : ':' ∈ (restOf s).toList := by rwa [short_iff, not_not] at h
  simp only [parse, cut_eq s, if_pos (mem_of_not_short h), Option.getD_some, cut_eq (restOf s),
    if_pos hrest, roleOf, operationOf]

theorem parse_pair {a b : String} (ha : ':' ∉ a.toList) (hb : ':' ∉ b.toList) :
    parse (a ++ ":" ++ b) =
      { resource := .ofToken a, role := .absent, operation := .ofToken b } := by
  obtain ⟨hresource, hrest⟩ := parts_append ha b
  have hshort : Short (a ++ ":" ++ b) := by rwa [short_iff, hrest]
  rw [parse_of_short hshort, hresource, hrest]

theorem parse_triple {a b : String} (ha : ':' ∉ a.toList) (hb : ':' ∉ b.toList) (c : String) :
    parse (a ++ ":" ++ b ++ ":" ++ c) =
      { resource := .ofToken a, role := .ofToken b, operation := .ofToken c } := by
  have hsplit : a ++ ":" ++ b ++ ":" ++ c = a ++ ":" ++ (b ++ ":" ++ c) := by
    simp only [String.append_assoc]
  obtain ⟨hresource, hrest⟩ := parts_append ha (b ++ ":" ++ c)
  obtain ⟨hrole, hoperation⟩ := parts_append hb c
  have hlong : ¬Short (a ++ ":" ++ (b ++ ":" ++ c)) := by
    rw [short_iff, hrest]
    simp
  rw [hsplit, parse_of_long hlong, roleOf, operationOf, hrest, hresource, hrole, hoperation]

/-! ### Writing -/

theorem text_of_absent (resource operation : Segment) :
    text { resource, role := .absent, operation } = resource.text ++ ":" ++ operation.text := rfl

theorem text_of_ne_absent {role : Segment} (h : role ≠ .absent) (resource operation : Segment) :
    text { resource, role, operation } =
      resource.text ++ ":" ++ role.text ++ ":" ++ operation.text := by
  cases role with
  | absent => exact absurd rfl h
  | wildcard => rfl
  | value t => rfl

/-- Writing what was read gives the text back, with a colon behind it if it had none. -/
theorem text_parse (s : String) : (parse s).text = if ':' ∈ s.toList then s else s ++ ":" := by
  by_cases hshort : Short s
  · rw [parse_of_short hshort, text_of_absent, Segment.text_ofToken, Segment.text_ofToken]
    by_cases hmem : ':' ∈ s.toList
    · rw [if_pos hmem, resourceOf_append_restOf hmem]
    · rw [if_neg hmem, resourceOf_of_notMem hmem, restOf_of_notMem hmem, String.append_empty]
  · have hrole := Segment.ofToken_ne_absent (roleOf s)
    rw [if_pos (mem_of_not_short hshort), parse_of_long hshort, text_of_ne_absent hrole,
      Segment.text_ofToken, Segment.text_ofToken, Segment.text_ofToken,
      resourceOf_append_operationOf hshort]

/-! ### What can be read -/

/-- A privilege that some text is read as. -/
structure Legible (p : Privilege) : Prop where
  resource : p.resource.IsToken
  role : p.role = .absent ∨ p.role.IsToken
  /-- Colons are left to the operation only behind a role. -/
  operation : p.operation = .wildcard ∨
    ∃ t, p.operation = .value t ∧ t ≠ "*" ∧ (p.role = .absent → ':' ∉ t.toList)

theorem Legible.operation_ne_absent {p : Privilege} (h : p.Legible) : p.operation ≠ .absent := by
  rcases h.operation with hwildcard | ⟨t, ht, -⟩
  · rw [hwildcard]
    simp
  · rw [ht]
    simp

/-- Tokens make a legible privilege, and behind a role the operation is any text. -/
theorem legible_of_tokens {resource role : Segment} (hresource : resource.IsToken)
    (hrole : role = .absent ∨ role.IsToken) {t : String}
    (hfree : role = .absent → ':' ∉ t.toList) :
    Legible { resource, role, operation := .ofToken t } := by
  refine ⟨hresource, hrole, ?_⟩
  by_cases ht : t = "*"
  · exact .inl (if_pos ht)
  · exact .inr ⟨t, if_neg ht, ht, hfree⟩

theorem legible_parse (s : String) : (parse s).Legible := by
  have hresource : (Segment.ofToken (resourceOf s)).IsToken :=
    Segment.isToken_ofToken (notMem_resourceOf s)
  by_cases hshort : Short s
  · rw [parse_of_short hshort]
    exact legible_of_tokens hresource (.inl rfl) fun _ => (short_iff s).mp hshort
  · have hrole : (Segment.ofToken (roleOf s)).IsToken := Segment.isToken_ofToken (notMem_roleOf s)
    rw [parse_of_long hshort]
    exact legible_of_tokens hresource (.inr hrole) fun heq => absurd heq hrole.ne_absent

/-- **A legible privilege is read back from its own text.** -/
theorem Legible.parse_text {p : Privilege} (h : p.Legible) : parse p.text = p := by
  obtain ⟨resource, role, operation⟩ := p
  obtain ⟨hresource, hrole, hoperation⟩ := h
  have hread : Segment.ofToken operation.text = operation := by
    rcases hoperation with rfl | ⟨t, rfl, hstar, -⟩
    · rfl
    · exact if_neg hstar
  rcases hrole with rfl | hrole
  · have hplain : ':' ∉ operation.text.toList := by
      rcases hoperation with rfl | ⟨t, rfl, -, hfree⟩
      · decide
      · exact hfree rfl
    rw [text_of_absent, parse_pair hresource.notMem_text hplain, hresource.ofToken_text, hread]
  · rw [text_of_ne_absent hrole.ne_absent, parse_triple hresource.notMem_text hrole.notMem_text,
      hresource.ofToken_text, hrole.ofToken_text, hread]

theorem parse_text_parse (s : String) : parse (parse s).text = parse s :=
  (legible_parse s).parse_text

/-- Two texts are read alike exactly when they differ at most in a colon at the end that is
their only one. -/
theorem parse_eq_iff (s t : String) :
    parse s = parse t ↔
      s = t ∨ (':' ∉ s.toList ∧ t = s ++ ":") ∨ (':' ∉ t.toList ∧ s = t ++ ":") := by
  have hcolon : ∀ {s : String}, ':' ∉ s.toList → parse (s ++ ":") = parse s := by
    intro s hs
    have h := parse_text_parse s
    rwa [text_parse, if_neg hs] at h
  constructor
  · intro h
    have htext := congrArg text h
    rw [text_parse, text_parse] at htext
    by_cases hs : ':' ∈ s.toList <;> by_cases ht : ':' ∈ t.toList
    · rw [if_pos hs, if_pos ht] at htext
      exact .inl htext
    · rw [if_pos hs, if_neg ht] at htext
      exact .inr (.inr ⟨ht, htext⟩)
    · rw [if_neg hs, if_pos ht] at htext
      exact .inr (.inl ⟨hs, htext.symm⟩)
    · rw [if_neg hs, if_neg ht] at htext
      exact .inl (String.append_left_inj _ |>.mp htext)
  · intro h
    rcases h with rfl | ⟨hs, rfl⟩ | ⟨ht, rfl⟩
    · rfl
    · exact (hcolon hs).symm
    · exact hcolon ht

/--
**Reading and writing undo each other.**  What is written of a text that was read is that
text, with a colon behind it if it had none, and it is read as the same privilege; so two texts
are read alike only if they differ in such a colon.  The privileges that some text is read as
are the legible ones, and these are the ones that are read back from what is written of them.
-/
theorem read_write_inverse :
    (∀ s, (parse s).text = if ':' ∈ s.toList then s else s ++ ":") ∧
    (∀ s, parse (parse s).text = parse s) ∧
    (∀ s t, parse s = parse t ↔
      s = t ∨ (':' ∉ s.toList ∧ t = s ++ ":") ∨ (':' ∉ t.toList ∧ s = t ++ ":")) ∧
    (∀ p, (∃ s, parse s = p) ↔ p.Legible) ∧
    (∀ p, parse p.text = p ↔ p.Legible) := by
  refine ⟨text_parse, parse_text_parse, parse_eq_iff, fun p => ⟨?_, fun h => ⟨_, h.parse_text⟩⟩,
    fun p => ⟨fun h => h ▸ legible_parse p.text, Legible.parse_text⟩⟩
  intro h
  obtain ⟨s, rfl⟩ := h
  exact legible_parse s

/-- An operation that is written behind a role keeps its own colons. -/
example : parse "account:admin:read:all" =
    { resource := .value "account", role := .value "admin", operation := .value "read:all" } := by
  decide +kernel

end Privilege

end Turnstile
