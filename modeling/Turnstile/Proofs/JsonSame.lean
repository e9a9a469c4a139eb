/-
When two values have the same text.

`Same` compares values as a reader of JSON would: numbers by how they are spelled, strings
letter for letter, arrays item by item, and objects as maps, whatever filled them in
whatever order.  It is stated without any text.  `chars_eq_iff` is the result: the compact
texts of two values are equal exactly when the values are the same.  One direction is that
the text shows nothing but the map; the other is unique reading, by induction on the value
and with anything at all behind the two texts, because the texts of items and fields stand
in front of others.
-/
import Turnstile.Proofs.JsonMap
import Turnstile.Proofs.JsonText

namespace Turnstile.Json

/-! ### The same value -/

/-- The same value, objects being maps. -/
inductive Same : Json → Json → Prop
  | null : Same null null
  | bool (b : Bool) : Same (bool b) (bool b)
  | number {m n : Number} (h : m.text = n.text) : Same (number m) (number n)
  | string (s : String) : Same (string s) (string s)
  | array {xs ys : List Json} (hlength : xs.length = ys.length)
      (hitems : ∀ p ∈ xs.zip ys, Same p.1 p.2) : Same (array xs) (array ys)
  /-- The same keys were written to, and what was written last is the same. -/
  | object {xs ys : List (String × Json)}
      (hkeys : ∀ key, (lastWrite? xs key).isSome = (lastWrite? ys key).isSome)
      (hvalues : ∀ key v w, lastWrite? xs key = some v → lastWrite? ys key = some w → Same v w) :
      Same (object xs) (object ys)

/-- Two lookups with the same answer: nothing twice, or twice the same. -/
theorem rel_iff {α : Type} {R : α → α → Prop} {a b : Option α} :
    Option.Rel R a b ↔ a.isSome = b.isSome ∧ ∀ v w, a = some v → b = some w → R v w := by
  cases a <;> cases b <;> simp

theorem same_array_iff {xs ys : List Json} :
    Same (array xs) (array ys) ↔ List.Forall₂ Same xs ys := by
  rw [List.forall₂_iff_zip]
  constructor
  · intro h
    cases h with
    | array hlength hitems => exact ⟨hlength, fun hmem => hitems _ hmem⟩
  · exact fun ⟨hlength, hitems⟩ => .array hlength fun _ hmem => hitems hmem

theorem same_object_iff {xs ys : List (String × Json)} :
    Same (object xs) (object ys) ↔
      ∀ key, Option.Rel Same (lastWrite? xs key) (lastWrite? ys key) := by
  simp only [rel_iff]
  constructor
  · intro h
    cases h with
    | object hkeys hvalues => exact fun key => ⟨hkeys key, hvalues key⟩
  · exact fun h => .object (fun key => (h key).1) fun key => (h key).2

/-- Induction over the values inside a value. -/
@[elab_as_elim]
theorem induction {P : Json → Prop} (null : P null) (bool : ∀ b, P (bool b))
    (number : ∀ n, P (number n)) (string : ∀ s, P (string s))
    (array : ∀ items, (∀ item ∈ items, P item) → P (array items))
    (object : ∀ writes, (∀ write ∈ writes, P write.2) → P (object writes)) : ∀ v, P v
  | .null => null
  | .bool b => bool b
  | .number n => number n
  | .string s => string s
  | .array items =>
      array items fun item _ => induction null bool number string array object item
  | .object writes =>
      object writes fun (key, value) hmem => by
        have hsize : 1 + sizeOf key + sizeOf value < sizeOf writes := List.sizeOf_lt_of_mem hmem
        exact induction null bool number string array object value
termination_by v => sizeOf v

/-! ### Equal values have equal texts -/

theorem itemChars_eq_map (items : List Json) : itemChars items = items.map chars := by
  induction items with
  | nil => rfl
  | cons item items ih => rw [itemChars, ih, List.map_cons]

theorem writeChars_eq_map (writes : List (String × Json)) :
    writeChars writes = writes.map (Prod.map id chars) := by
  induction writes with
  | nil => rfl
  | cons write writes ih => rw [writeChars, ih, List.map_cons]; rfl

theorem chars_eq_of_same {a b : Json} (h : Same a b) : a.chars = b.chars := by
  induction h with
  | null => rfl
  | bool b => rfl
  | string s => rfl
  | number h => exact String.ofList_inj.mp h
  | @array xs ys hlength hitems ih =>
      have htexts : List.Forall₂ (fun x y => chars x = chars y) xs ys :=
        List.forall₂_iff_zip.mpr ⟨hlength, fun hmem => ih _ hmem⟩
      have hmap : xs.map chars = ys.map chars := by
        rwa [← List.forall₂_eq_eq_eq, List.forall₂_map_left_iff, List.forall₂_map_right_iff]
      rw [chars, chars, itemChars_eq_map, itemChars_eq_map, hmap]
  | @object xs ys hkeys hvalues ih =>
      have hsettled : settled (writeChars xs) = settled (writeChars ys) := by
        refine settled_congr fun key => ?_
        rw [writeChars_eq_map, writeChars_eq_map, lastWrite?_map, lastWrite?_map]
        have hkey := hkeys key
        cases hx : lastWrite? xs key <;> cases hy : lastWrite? ys key <;> simp [hx, hy] at hkey
        case none.none => rfl
        case some.some v w => rw [Option.map_some, Option.map_some, ih key v w hx hy]
      rw [chars, chars, hsettled]

/-! ### Equal texts are of equal values -/

/-- The kinds of values. -/
inductive Kind where
  | null | bool | number | string | array | object
  deriving DecidableEq

def kind : Json → Kind
  | null => .null
  | bool _ => .bool
  | number _ => .number
  | string _ => .string
  | array _ => .array
  | object _ => .object

/-- The kind of value whose text starts with the character, if one does. -/
def kindOf? (c : Char) : Option Kind :=
  if isNumeral c then some .number
  else match c with
    | 'n' => some .null
    | 't' | 'f' => some .bool
    | '"' => some .string
    | '[' => some .array
    | '{' => some .object
    | _ => none

/-- The first character of a text tells the kind of value. -/
theorem exists_chars_eq_cons (v : Json) :
    ∃ c cs, v.chars = c :: cs ∧ kindOf? c = some v.kind := by
  cases v with
  | null => exact ⟨_, _, rfl, rfl⟩
  | bool b => cases b <;> exact ⟨_, _, rfl, rfl⟩
  | number n =>
      obtain ⟨hne, hnumeral⟩ := n.spelling_chars
      obtain ⟨c, cs, hcons⟩ := List.exists_cons_of_ne_nil hne
      refine ⟨c, cs, hcons, ?_⟩
      unfold kindOf?
      rw [if_pos (hnumeral c (hcons ▸ List.mem_cons_self))]
      rfl
  | string s => exact ⟨_, _, rfl, rfl⟩
  | array items => exact ⟨_, _, rfl, rfl⟩
  | object writes => exact ⟨_, _, rfl, rfl⟩

theorem kind_eq_of_append {a b : Json} {rest rest' : List Char}
    (h : a.chars ++ rest = b.chars ++ rest') : a.kind = b.kind := by
  obtain ⟨c, cs, hc, ha⟩ := exists_chars_eq_cons a
  obtain ⟨d, ds, hd, hb⟩ := exists_chars_eq_cons b
  rw [hc, hd] at h
  rw [← Option.some_inj, ← ha, ← hb, (List.cons.inj h).1]

/-- No value starts like the end of an array. -/
theorem chars_append_ne_close (v : Json) (rest rest' : List Char) :
    v.chars ++ rest ≠ ']' :: rest' := by
  obtain ⟨c, cs, hc, hkind⟩ := exists_chars_eq_cons v
  rw [hc]
  rintro ⟨⟩
  simp [kindOf?, isNumeral] at hkind

/-- A field of an object. -/
def field (write : String × Json) : List Char := fieldText (Prod.map id chars write)

theorem chars_object (writes : List (String × Json)) :
    (object writes).chars = '{' :: separated ((settled writes).map field) ++ ['}'] := by
  rw [chars, writeChars_eq_map, settled_map, List.map_map]
  rfl

/-- No field starts like the end of an object. -/
theorem field_append_ne_close (write : String × Json) (rest rest' : List Char) :
    field write ++ rest ≠ '}' :: rest' := by
  simp [field, fieldText, quoted]

/-- A field shows its own end if its value does. -/
theorem selfDelimiting_field {write : String × Json} (h : SelfDelimiting chars Same write.2) :
    SelfDelimiting field (fun a b => a.1 = b.1 ∧ Same a.2 b.2) write := by
  intro other rest rest' hrest hrest' heq
  simp only [field, fieldText, Prod.map_fst, Prod.map_snd, id_eq, List.append_assoc,
    List.cons_append] at heq
  obtain ⟨hkey, hvalue⟩ := quoted_append_inj heq
  obtain ⟨hsame, hends⟩ := h hrest hrest' (List.cons.inj hvalue).2
  exact ⟨⟨hkey, hsame⟩, hends⟩

theorem exists_mem_of_forall₂ {α β : Type} {R : α → β → Prop} {xs : List α} {ys : List β}
    (h : List.Forall₂ R xs ys) {x : α} (hx : x ∈ xs) : ∃ y ∈ ys, R x y := by
  induction h with
  | nil => simp at hx
  | @cons a b xs ys hab _ ih =>
      obtain rfl | hmem := List.mem_cons.mp hx
      · exact ⟨b, List.mem_cons_self, hab⟩
      · obtain ⟨y, hy, hxy⟩ := ih hmem
        exact ⟨y, List.mem_cons_of_mem b hy, hxy⟩

/-- Maps that show the same fields are the same. -/
theorem rel_lastWrite?_of_forall₂ {xs ys : List (String × Json)}
    (h : List.Forall₂ (fun a b => a.1 = b.1 ∧ Same a.2 b.2) (settled xs) (settled ys))
    (key : String) : Option.Rel Same (lastWrite? xs key) (lastWrite? ys key) := by
  cases hx : lastWrite? xs key with
  | some v =>
      obtain ⟨⟨_, w⟩, hmem, rfl, hsame⟩ := exists_mem_of_forall₂ h (mem_settled_iff.mpr hx)
      rw [mem_settled_iff.mp hmem]
      exact .some hsame
  | none =>
      cases hy : lastWrite? ys key with
      | none => exact .none
      | some w =>
          obtain ⟨⟨_, v⟩, hmem, rfl, -⟩ :=
            exists_mem_of_forall₂ (List.Forall₂.flip h) (mem_settled_iff.mpr hy)
          rw [mem_settled_iff.mp hmem] at hx
          contradiction

theorem selfDelimiting_array {items : List Json}
    (hitems : ∀ item ∈ items, SelfDelimiting chars Same item) :
    SelfDelimiting chars Same (array items) := by
  intro b rest rest' hrest hrest' h
  have hkind := kind_eq_of_append h
  cases b with
  | array items' =>
      have hlist : separated (items.map chars) ++ ']' :: rest =
          separated (items'.map chars) ++ ']' :: rest' := by
        simpa [chars, itemChars_eq_map] using h
      obtain ⟨hsame, hends⟩ :=
        forall₂_of_separated rfl (by decide) chars_append_ne_close hitems hlist
      exact ⟨same_array_iff.mpr hsame, hends⟩
  | _ => contradiction

theorem selfDelimiting_object {writes : List (String × Json)}
    (hvalues : ∀ write ∈ writes, SelfDelimiting chars Same write.2) :
    SelfDelimiting chars Same (object writes) := by
  intro b rest rest' hrest hrest' h
  have hkind := kind_eq_of_append h
  cases b with
  | object writes' =>
      have hlist : separated ((settled writes).map field) ++ '}' :: rest =
          separated ((settled writes').map field) ++ '}' :: rest' := by
        simpa [chars_object] using h
      have hfields : ∀ write ∈ settled writes,
          SelfDelimiting field (fun a b => a.1 = b.1 ∧ Same a.2 b.2) write :=
        fun write hmem => selfDelimiting_field
          (hvalues write (mem_of_lastWrite?_eq_some (mem_settled_iff.mp hmem)))
      obtain ⟨hsame, hends⟩ :=
        forall₂_of_separated rfl (by decide) field_append_ne_close hfields hlist
      exact ⟨same_object_iff.mpr (rel_lastWrite?_of_forall₂ hsame), hends⟩
  | _ => contradiction

/-- **Every text shows its own end, and what is before it tells the value.** -/
theorem selfDelimiting_chars (a : Json) : SelfDelimiting chars Same a := by
  induction a using induction with
  | null =>
      intro b rest rest' hrest hrest' h
      have hkind := kind_eq_of_append h
      cases b with
      | null => exact ⟨.null, List.append_cancel_left h⟩
      | _ => contradiction
  | bool truth =>
      intro b rest rest' hrest hrest' h
      have hkind := kind_eq_of_append h
      cases b with
      | bool truth' =>
          cases truth <;> cases truth' <;> simp [chars] at h
          case false.false => exact ⟨.bool false, h⟩
          case true.true => exact ⟨.bool true, h⟩
      | _ => contradiction
  | number n =>
      intro b rest rest' hrest hrest' h
      have hkind := kind_eq_of_append h
      cases b with
      | number m =>
          obtain ⟨htext, hends⟩ :=
            Spelling.append_inj n.spelling_chars m.spelling_chars hrest hrest' h
          exact ⟨.number (congrArg String.ofList htext), hends⟩
      | _ => contradiction
  | string s =>
      intro b rest rest' hrest hrest' h
      have hkind := kind_eq_of_append h
      cases b with
      | string t =>
          obtain ⟨rfl, hends⟩ := quoted_append_inj h
          exact ⟨.string s, hends⟩
      | _ => contradiction
  | array items ih => exact selfDelimiting_array ih
  | object writes ih => exact selfDelimiting_object ih

/-- **Two texts are equal exactly when their values are the same.** -/
theorem chars_eq_iff {a b : Json} : a.chars = b.chars ↔ Same a b := by
  refine ⟨fun h => ?_, chars_eq_of_same⟩
  exact (selfDelimiting_chars a stops_nil stops_nil (by rw [List.append_nil, h, List.append_nil])).1

/-- Writes that leave the same under every key make the same object. -/
theorem same_object_of_lastWrite?_eq {xs ys : List (String × Json)}
    (h : ∀ key, lastWrite? xs key = lastWrite? ys key) : Same (object xs) (object ys) := by
  rw [← chars_eq_iff, chars_object, chars_object, settled_congr h]

end Turnstile.Json
