/-
Settings and their JSON form.

A text of settings is an object, in which each of the two fields that mean something stands at
most once, wherever it likes among fields of other names.  Such a text is described by its
entries, what each field gives (`Entry`), and `Written` says that a text spells them out, in any
of the ways there are.  It reads as the settings that it gives, with the defaults for those that
it leaves out.  What settings are written as is one of the ways to spell out both of them.

Reading goes along the fields with what was given so far.  As long as no field is still to come
that was given before (`Fresh`), each is read, and what was given at the end is what the entries
give.
-/
import Turnstile.Proofs.JsonGrammar
import Turnstile.Proofs.JsonSame
import Turnstile.Settings.Text

namespace Turnstile

/-! ### Strings and lists of strings -/

namespace Json

/-- The texts of a string. -/
inductive IsText (s : String) : List Char → Prop
  | mk {before body behind : List Char} (hbefore : Blank before) (hbody : Spells s.toList body)
      (hbehind : Blank behind) : IsText s (before ++ '"' :: body ++ '"' :: behind)

/-- The texts of an array of strings. -/
inductive IsTexts (texts : List String) : List Char → Prop
  | mk {before blanks behind : List Char} {items : List (List Char)} (hbefore : Blank before)
      (hblanks : Blank blanks) (hitems : List.Forall₂ IsText texts items)
      (hbehind : Blank behind) :
      IsTexts texts (before ++ '[' :: blanks ++ separated items ++ ']' :: behind)

theorem isText_quoted (s : String) : IsText s (quoted s) :=
  .mk blank_nil (spells_flatMap_escaped s.toList) blank_nil

theorem isTexts_strings (texts : List String) : IsTexts texts (strings texts).chars := by
  have hitems : List.Forall₂ IsText texts (texts.map quoted) := by
    rw [List.forall₂_map_right_iff, List.forall₂_same]
    exact fun s _ => isText_quoted s
  have hchars : itemChars (texts.map string) = texts.map quoted := by
    rw [itemChars_eq_map, List.map_map]
    rfl
  rw [strings, chars, hchars]
  exact .mk blank_nil blank_nil hitems blank_nil

theorem IsText.itemNext {s : String} {cs : List Char} (h : IsText s cs) (rest : List Char) :
    ItemNext (cs ++ rest) := by
  obtain ⟨hbefore, -, -⟩ := h
  simp only [List.append_assoc, List.cons_append]
  exact ⟨'"', _, hbefore.skip_cons rfl _, by decide, by decide⟩

theorem readText_skipBlanks (cs : List Char) : readText (skipBlanks cs) = readText cs := by
  rw [readText, readText, skipBlanks_skipBlanks]

/-- A string is read, up to blanks behind it. -/
theorem IsText.readText {s : String} {cs : List Char} (h : IsText s cs) (rest : List Char) :
    ∃ after, Blank after ∧ readText (cs ++ rest) = .ok (s, after ++ rest) := by
  obtain @⟨before, body, behind, hbefore, hbody, hbehind⟩ := h
  refine ⟨behind, hbehind, ?_⟩
  simp only [List.append_assoc, List.cons_append]
  rw [Json.readText, hbefore.skip_cons rfl]
  simp only [hbody.readString, Except.map, String.ofList_toList]

theorem readTextItems_first {blanks cs : List Char} (hblanks : Blank blanks) (h : ItemNext cs)
    (steps : Nat) :
    readTextItems steps true (blanks ++ cs) = readTextItems steps false (',' :: cs) := by
  cases steps with
  | zero => rfl
  | succ steps =>
      have hnext : nextItem false (',' :: cs) = _ := nextItem_comma blank_nil h
      rw [readTextItems, readTextItems, nextItem_first hblanks h, hnext]

theorem readTextItems_close {blanks : List Char} (hblanks : Blank blanks) (first : Bool)
    (rest : List Char) {steps : Nat} (hsteps : 0 < steps) :
    readTextItems steps first (blanks ++ ']' :: rest) = .ok ([], rest) := by
  obtain ⟨steps, rfl⟩ := Nat.exists_eq_add_one.mpr hsteps
  rw [readTextItems, nextItem_close hblanks, closeArray_append hblanks]
  rfl

theorem readTextItems_append {texts : List String} {items : List (List Char)}
    (hitems : List.Forall₂ IsText texts items) {blanks : List Char} (hblanks : Blank blanks)
    (rest : List Char) {steps : Nat} (hsteps : items.length < steps) :
    readTextItems steps false (blanks ++ (items.flatMap (',' :: ·) ++ ']' :: rest)) =
      .ok (texts, rest) := by
  induction hitems generalizing steps blanks with
  | nil => exact readTextItems_close hblanks false rest hsteps
  | @cons s item texts items hitem _ ih =>
      obtain ⟨steps, rfl⟩ := Nat.exists_eq_add_one.mpr (Nat.zero_lt_of_lt hsteps)
      obtain ⟨after, hafter, hread⟩ := hitem.readText (items.flatMap (',' :: ·) ++ ']' :: rest)
      simp only [List.flatMap_cons, List.append_assoc, List.cons_append]
      rw [readTextItems, nextItem_comma hblanks (hitem.itemNext _)]
      simp only [readText_skipBlanks, hread, bind, Except.bind,
        ih hafter (Nat.lt_of_succ_lt_succ hsteps)]

theorem readTextItems_separated {texts : List String} {items : List (List Char)}
    (hitems : List.Forall₂ IsText texts items) {blanks : List Char} (hblanks : Blank blanks)
    (rest : List Char) {steps : Nat} (hsteps : items.length < steps) :
    readTextItems steps true (blanks ++ (separated items ++ ']' :: rest)) = .ok (texts, rest) := by
  cases hitems with
  | nil => exact readTextItems_close hblanks true rest hsteps
  | @cons s item texts items hitem hlater =>
      have hstart := hitem.itemNext (items.flatMap (',' :: ·) ++ ']' :: rest)
      rw [separated_cons, List.append_assoc, readTextItems_first hblanks hstart]
      have hread := readTextItems_append (.cons hitem hlater) blank_nil rest hsteps
      simpa using hread

/-- There are no more texts in a list than it has characters, counting a comma for each. -/
theorem length_le_separated (texts : List (List Char)) :
    texts.length ≤ (separated texts).length + 1 := by
  have hcommas : texts.length ≤ (texts.flatMap (',' :: ·)).length := by
    induction texts with
    | nil => exact Nat.le_refl 0
    | cons text texts ih =>
        simp only [List.flatMap_cons, List.length_append, List.length_cons]
        omega
  cases texts with
  | nil => exact Nat.zero_le _
  | cons text texts => rwa [length_separated_cons]

/-- An array of strings is read, up to blanks behind it. -/
theorem IsTexts.readTexts {texts : List String} {cs : List Char} (h : IsTexts texts cs)
    (rest : List Char) :
    ∃ after, Blank after ∧ readTexts (cs ++ rest) = .ok (texts, after ++ rest) := by
  obtain @⟨before, blanks, behind, items, hbefore, hblanks, hitems, hbehind⟩ := h
  refine ⟨behind, hbehind, ?_⟩
  have hsteps : items.length <
      stepsFor (blanks ++ (separated items ++ ']' :: (behind ++ rest))) := by
    have hlength := length_le_separated items
    simp only [stepsFor, List.length_append, List.length_cons]
    omega
  simp only [List.append_assoc, List.cons_append]
  rw [Json.readTexts, hbefore.skip_cons rfl]
  exact readTextItems_separated hitems hblanks _ hsteps

end Json

namespace Settings

open Json

/-! ### What a text gives -/

/-- What one field of an object gives. -/
inductive Entry where
  | message (text : String)
  | privileges (texts : List String)
  /-- A field of another name, which gives nothing. -/
  | other (name : String)
  deriving DecidableEq, Repr

namespace Entry

def name : Entry → String
  | message _ => messageField
  | privileges _ => privilegesField
  | other name => name

def message? : Entry → Option String
  | message text => some text
  | _ => none

def privileges? : Entry → Option (List String)
  | privileges texts => some texts
  | _ => none

/-- A text gives what the entry says: any value will do in a field of another name. -/
def GivenBy (cs : List Char) : Entry → Prop
  | message text => IsText text cs
  | privileges texts => IsTexts texts cs
  | other name => name ≠ messageField ∧ name ≠ privilegesField ∧ IsValue cs

/-- A field spells an entry out. -/
structure Written (e : Entry) (f : Field) : Prop where
  before : Blank f.before
  name : Spells e.name.toList f.name
  behind : Blank f.behind
  value : e.GivenBy f.value

end Entry

/-- Neither of the two fields is given twice. -/
def Once (entries : List Entry) : Prop :=
  (entries.filterMap Entry.message?).length ≤ 1 ∧ (entries.filterMap Entry.privileges?).length ≤ 1

/-- The settings that entries give. -/
def meant (entries : List Entry) : Settings where
  forbiddenMessage := (entries.filterMap Entry.message?).head?.getD "No Privilege"
  additionalPrivileges := (entries.filterMap Entry.privileges?).head?.getD []

/-- A text is an object that spells entries out, one field each, in this order. -/
inductive Written (entries : List Entry) : List Char → Prop
  | mk {before blanks behind : List Char} {fields : List Field} (hbefore : Blank before)
      (hblanks : Blank blanks) (hfields : List.Forall₂ Entry.Written entries fields)
      (hbehind : Blank behind) :
      Written entries
        (before ++ '{' :: blanks ++ separated (fields.map Field.chars) ++ '}' :: behind)

/-! ### Reading what a text gives -/

/-- What was given after one more entry. -/
def Given.add (g : Given) : Entry → Given
  | .message text => { g with message := some text }
  | .privileges texts => { g with privileges := some texts }
  | .other _ => g

/-- The messages that were given and those still to come. -/
def messages (g : Given) (entries : List Entry) : List String :=
  g.message.toList ++ entries.filterMap Entry.message?

/-- The lists of privileges that were given and those still to come. -/
def privilegeLists (g : Given) (entries : List Entry) : List (List String) :=
  g.privileges.toList ++ entries.filterMap Entry.privileges?

/-- Of what was given and what is still to come neither field is given twice. -/
def Fresh (g : Given) (entries : List Entry) : Prop :=
  (messages g entries).length ≤ 1 ∧ (privilegeLists g entries).length ≤ 1

section Reading

variable {g : Given} {e : Entry} {entries : List Entry}

theorem message_eq_none {text : String} (h : Fresh g (.message text :: entries)) :
    g.message = none := by
  cases hg : g.message with
  | none => rfl
  | some before => simpa [messages, hg, Entry.message?] using h.1

theorem privileges_eq_none {texts : List String} (h : Fresh g (.privileges texts :: entries)) :
    g.privileges = none := by
  cases hg : g.privileges with
  | none => rfl
  | some before => simpa [privilegeLists, hg, Entry.privileges?] using h.2

/-- Reading an entry moves it from what is to come to what was given. -/
theorem messages_add (h : Fresh g (e :: entries)) :
    messages (g.add e) entries = messages g (e :: entries) := by
  cases e with
  | message => simp [messages, Given.add, Entry.message?, message_eq_none h]
  | privileges => rfl
  | other => rfl

theorem privilegeLists_add (h : Fresh g (e :: entries)) :
    privilegeLists (g.add e) entries = privilegeLists g (e :: entries) := by
  cases e with
  | message => rfl
  | privileges => simp [privilegeLists, Given.add, Entry.privileges?, privileges_eq_none h]
  | other => rfl

theorem Fresh.add (h : Fresh g (e :: entries)) : Fresh (g.add e) entries := by
  rw [Fresh, messages_add h, privilegeLists_add h]
  exact h

/-- What was given in the end is all there was. -/
theorem Fresh.foldl_add (h : Fresh g entries) :
    (entries.foldl Given.add g).message = (messages g entries).head? ∧
      (entries.foldl Given.add g).privileges = (privilegeLists g entries).head? := by
  induction entries generalizing g with
  | nil => simp [messages, privilegeLists]
  | cons e entries ih =>
      rw [← messages_add h, ← privilegeLists_add h]
      exact ih h.add

/-- A field that was not given before is read, up to blanks behind it. -/
theorem readField_written (hfresh : Fresh g (e :: entries)) {f : Field} (hf : e.Written f)
    {rest : List Char} (hrest : Ended rest) :
    ∃ after, Blank after ∧ readField e.name g (f.behind ++ ':' :: (f.value ++ rest)) =
      .ok (g.add e, after ++ rest) := by
  have hcolon := passColon_append hf.behind (f.value ++ rest)
  have hvalue := hf.value
  cases e with
  | message text =>
      obtain ⟨after, hafter, hread⟩ := IsText.readText hvalue rest
      refine ⟨after, hafter, ?_⟩
      simp [readField, Entry.name, textField, message_eq_none hfresh, hcolon, hread, bind,
        Except.bind, Given.add]
  | privileges texts =>
      obtain ⟨after, hafter, hread⟩ := IsTexts.readTexts hvalue rest
      refine ⟨after, hafter, ?_⟩
      have hne : privilegesField ≠ messageField := by decide
      simp [readField, Entry.name, hne, textsField, privileges_eq_none hfresh, hcolon, hread, bind,
        Except.bind, Given.add]
  | other name =>
      obtain ⟨hmessage, hprivileges, hvalue⟩ := hvalue
      have hsteps : f.value.length < stepsFor (f.value ++ rest) := by
        simp only [stepsFor, List.length_append]
        omega
      obtain ⟨after, hafter, hpass⟩ := hvalue.passedOver hsteps hrest
      refine ⟨after, hafter, ?_⟩
      simp [readField, Entry.name, hmessage, hprivileges, passField, hcolon, hpass, bind,
        Except.bind, Given.add]

theorem foldFields_first {blanks cs tail : List Char} (hblanks : Blank blanks)
    (h : skipBlanks cs = '"' :: tail) (steps : Nat) :
    foldFields readField steps true g (blanks ++ cs) =
      foldFields readField steps false g (',' :: cs) := by
  cases steps with
  | zero => rfl
  | succ steps =>
      have hnext : nextField false (',' :: cs) = _ := nextField_comma blank_nil h
      rw [foldFields, foldFields, nextField_first hblanks h, hnext]

theorem foldFields_close {blanks : List Char} (hblanks : Blank blanks) (first : Bool)
    (rest : List Char) {steps : Nat} (hsteps : 0 < steps) :
    foldFields readField steps first g (blanks ++ '}' :: rest) = .ok (g, rest) := by
  obtain ⟨steps, rfl⟩ := Nat.exists_eq_add_one.mpr hsteps
  rw [foldFields, nextField_close hblanks, closeObject_append hblanks]
  rfl

theorem foldFields_append {fields : List Field}
    (hfields : List.Forall₂ Entry.Written entries fields) (hfresh : Fresh g entries)
    {blanks : List Char} (hblanks : Blank blanks) (rest : List Char) {steps : Nat}
    (hsteps : fields.length < steps) :
    foldFields readField steps false g
        (blanks ++ ((fields.map Field.chars).flatMap (',' :: ·) ++ '}' :: rest)) =
      .ok (entries.foldl Given.add g, rest) := by
  induction hfields generalizing g steps blanks with
  | nil => exact foldFields_close hblanks false rest hsteps
  | @cons e f entries fields hf _ ih =>
      obtain ⟨steps, rfl⟩ := Nat.exists_eq_add_one.mpr (Nat.zero_lt_of_lt hsteps)
      -- A value is read with steps of its own, so that each field takes just one of these.
      have hended : Ended ((fields.map Field.chars).flatMap (',' :: ·) ++ '}' :: rest) :=
        ended_items rfl _ rest
      obtain ⟨after, hafter, hread⟩ := readField_written hfresh hf hended
      simp only [List.map_cons, List.flatMap_cons, List.append_assoc, List.cons_append]
      rw [foldFields, nextField_comma hblanks (Field.skip_chars hf.before _)]
      simp only [hf.name.readString, String.ofList_toList, bind, Except.bind, hread]
      exact ih hfresh.add hafter (Nat.lt_of_succ_lt_succ hsteps)

theorem foldFields_separated {fields : List Field}
    (hfields : List.Forall₂ Entry.Written entries fields) (hfresh : Fresh g entries)
    {blanks : List Char} (hblanks : Blank blanks) (rest : List Char) {steps : Nat}
    (hsteps : fields.length < steps) :
    foldFields readField steps true g
        (blanks ++ (separated (fields.map Field.chars) ++ '}' :: rest)) =
      .ok (entries.foldl Given.add g, rest) := by
  cases hfields with
  | nil => exact foldFields_close hblanks true rest hsteps
  | @cons e f entries fields hf hlater =>
      have hstart := Field.skip_chars hf.before
        ((fields.map Field.chars).flatMap (',' :: ·) ++ '}' :: rest)
      rw [List.map_cons, separated_cons, List.append_assoc, foldFields_first hblanks hstart]
      have hread := foldFields_append (.cons hf hlater) hfresh blank_nil rest hsteps
      simpa using hread

/-- A text that spells entries out is read as the settings that they give. -/
theorem Written.parse {text : String} (h : Written entries text.toList) (honce : Once entries) :
    parse text = .ok (meant entries) := by
  generalize htext : text.toList = cs at h
  obtain @⟨before, blanks, behind, fields, hbefore, hblanks, hfields, hbehind⟩ := h
  have hfresh : Fresh {} entries := honce
  have hsteps : fields.length <
      stepsFor (blanks ++ (separated (fields.map Field.chars) ++ '}' :: behind)) := by
    have hlength := length_le_separated (fields.map Field.chars)
    simp only [stepsFor, List.length_append, List.length_cons, List.length_map] at hlength ⊢
    omega
  have hread : readGiven text.toList = .ok (entries.foldl Given.add {}, behind) := by
    simp only [htext, List.append_assoc, List.cons_append]
    rw [readGiven, hbefore.skip_cons rfl]
    exact foldFields_separated hfields hfresh hblanks behind hsteps
  have hend : skipBlanks behind = [] := List.dropWhile_eq_nil_iff.mpr hbehind
  obtain ⟨hmessage, hprivileges⟩ := hfresh.foldl_add
  have hsettings : (entries.foldl Given.add {}).settings = meant entries := by
    rw [Given.settings, hmessage, hprivileges]
    rfl
  rw [Settings.parse, hread]
  simp [bind, Except.bind, expectEnd, hend, hsettings]

end Reading

/-! ### Settings and their texts -/

/-- What settings are written as spells out both fields, the message first. -/
theorem written_serialize (s : Settings) :
    Written [.message s.forbiddenMessage, .privileges s.additionalPrivileges]
      s.serialize.toList := by
  have hmessage : Entry.Written (.message s.forbiddenMessage)
      ⟨[], messageField.toList.flatMap escaped, [], quoted s.forbiddenMessage⟩ :=
    ⟨blank_nil, spells_flatMap_escaped _, blank_nil, isText_quoted _⟩
  have hprivileges : Entry.Written (.privileges s.additionalPrivileges)
      ⟨[], privilegesField.toList.flatMap escaped, [], (strings s.additionalPrivileges).chars⟩ :=
    ⟨blank_nil, spells_flatMap_escaped _, blank_nil, isTexts_strings _⟩
  have hfields := List.Forall₂.cons hmessage (.cons hprivileges .nil)
  have hwritten := Written.mk blank_nil blank_nil hfields blank_nil
  simpa [serialize, separated, Field.chars, fieldText, quoted] using hwritten

theorem message?_eq_some_iff {e : Entry} {text : String} :
    e.message? = some text ↔ e = .message text := by
  cases e <;> simp [Entry.message?]

theorem exists_fault_iff (s : Settings) :
    (∃ fault, s.validate = .error fault) ↔ s.forbiddenMessage = "" := by
  by_cases h : s.forbiddenMessage = "" <;> simp [validate, h]

/-- Settings are not valid exactly if a text gives the empty message. -/
theorem validate_meant_iff {entries : List Entry} (honce : Once entries) :
    (∃ fault, (meant entries).validate = .error fault) ↔ .message "" ∈ entries := by
  have hgiven : .message "" ∈ entries ↔ "" ∈ entries.filterMap Entry.message? := by
    simp [List.mem_filterMap, message?_eq_some_iff]
  have hlength := honce.1
  rw [hgiven, exists_fault_iff, meant]
  -- There is the default, which is not empty, or the one message that is given.
  match entries.filterMap Entry.message?, hlength with
  | [], _ => simp
  | [text], _ => simp [eq_comm]

/--
**Settings survive their JSON form.**  Settings are read back from what they are written as,
whatever their strings hold.  And any text of an object that gives each of the two fields at most
once is read as the settings that it gives, with the defaults for those that it leaves out: the
fields may come in any order, with any others among them that hold any values, and everything
may be spelled in any way and have any blanks around it.  So the settings read from a text are
not valid exactly if it gives the empty message.
-/
theorem written_settings_read :
    (∀ s : Settings, parse s.serialize = .ok s) ∧
      ∀ (entries : List Entry) (text : String), Once entries → Written entries text.toList →
        parse text = .ok (meant entries) ∧
          ((∃ fault, (meant entries).validate = .error fault) ↔ .message "" ∈ entries) := by
  refine ⟨fun s => ?_, fun entries text honce h => ⟨h.parse honce, validate_meant_iff honce⟩⟩
  exact (written_serialize s).parse ⟨Nat.le_refl 1, Nat.le_refl 1⟩

/-- Notes that mean nothing here, and a message of a quote and a face. -/
def noted : List Entry := [.other "notes", .message "\"😀"]

/-- One way to spell them out. -/
def notedFields : List Field :=
  [ ⟨[' '], "notes".toList.flatMap escaped, [], ['[', '1', '.', '5', 'E', '+', '3', ']']⟩
  , ⟨['\n'], messageField.toList.flatMap escaped, ['\t'],
      [' ', '"', '\\', '"', '\\', 'u', 'd', '8', '3', 'd', '\\', 'u', 'D', 'E', '0', '0', '"']⟩ ]

/-- The message is read, and the privileges are left to their default. -/
theorem noted_settings_read :
    Once noted ∧
      parse (.ofList ('{' :: separated (notedFields.map Field.chars) ++ ['}'])) =
        .ok ⟨"\"😀", []⟩ := by
  have hnumeral : IsNumeral ['1', '.', '5', 'E', '+', '3'] :=
    @IsNumeral.mk [] ['1'] ['.', '5'] ['E', '+', '3'] (.inl rfl)
      (.many (by decide) (digits_singleton rfl)) (.point (digits_singleton rfl))
      (@IsExponent.some 'E' ['+'] ['3'] (.inr rfl) (.inr (.inl rfl)) (digits_singleton rfl))
  have hnotes : IsValue ['[', '1', '.', '5', 'E', '+', '3', ']'] :=
    @IsValue.array [] [['1', '.', '5', 'E', '+', '3']] blank_nil (by simpa using .numeral hnumeral)
  have hunits : List.Forall₂ FourDigits [['d', '8', '3', 'd'], ['D', 'E', '0', '0']]
      (codeUnits '😀') :=
    .cons (@FourDigits.mk _ _ _ _ 13 8 3 13 rfl rfl rfl rfl)
      (.cons (@FourDigits.mk _ _ _ _ 13 14 0 0 rfl rfl rfl rfl) .nil)
  have hspells : Spells "\"😀".toList
      ['\\', '"', '\\', 'u', 'd', '8', '3', 'd', '\\', 'u', 'D', 'E', '0', '0'] :=
    .letter rfl (.units hunits .nil)
  have hblank : ∀ c, isBlank c = true → Blank [c] := fun c hc => by simpa [Blank] using hc
  have hmessage := @IsText.mk _ [' '] _ [] (hblank ' ' rfl) hspells blank_nil
  have hfields : List.Forall₂ Entry.Written noted notedFields :=
    .cons ⟨hblank ' ' rfl, spells_flatMap_escaped _, blank_nil, by decide, by decide, hnotes⟩
      (.cons ⟨hblank '\n' rfl, spells_flatMap_escaped _, hblank '\t' rfl, hmessage⟩ .nil)
  have honce : Once noted := ⟨by decide, by decide⟩
  have hwritten := Written.mk blank_nil blank_nil hfields blank_nil
  refine ⟨honce, (written_settings_read.2 noted _ honce ?_).1⟩
  rw [String.toList_ofList]
  exact hwritten

end Settings

end Turnstile
