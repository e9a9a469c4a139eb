/-
What a client writes into its header is what is read out of it.

A client that holds some privileges writes them down in order, with commas between them, and is
free in the rest: spaces and tabs may stand around each, and items of nothing but those may
stand between them.  `Item` is what such a client puts between two commas, and `encoded` is the
value it sends.  Reading the value gives back the privileges that the items name, because
cutting it at its commas gives back the items and trimming an item gives back its name.

In the other direction everything that is read is `Presentable`, so that it can be written down
plainly and read again, and a value that goes on behind a comma presents what both parts do.
-/
import Turnstile.Proofs.Credentials

namespace Turnstile.Http.Credentials

/-! ### Visible characters and their bytes -/

/-- A tab, a space or a printable ASCII character. -/
def VisibleChar (c : Char) : Prop := c = '\t' ∨ ' ' ≤ c ∧ c ≤ '~'

instance (c : Char) : Decidable (VisibleChar c) := inferInstanceAs (Decidable (_ ∨ _))

/-- The bytes that characters are sent as. -/
def sent (cs : List Char) : List UInt8 := cs.map fun c => c.toNat.toUInt8

/-- The characters that bytes are received as. -/
def received (value : List UInt8) : List Char := value.map fun b => Char.ofNat b.toNat

theorem visibleChar_iff {c : Char} :
    VisibleChar c ↔ c.toNat = 9 ∨ 32 ≤ c.toNat ∧ c.toNat ≤ 126 := by
  rw [VisibleChar, ← Char.toNat_inj]
  simp only [Char.le_def, UInt32.le_iff_toNat_le]
  rfl

theorem visible_iff {b : UInt8} : Visible b ↔ b.toNat = 9 ∨ 32 ≤ b.toNat ∧ b.toNat ≤ 126 := by
  rw [Visible, ← UInt8.toNat_inj, UInt8.le_iff_toNat_le, UInt8.le_iff_toNat_le]
  rfl

theorem VisibleChar.toNat_toUInt8 {c : Char} (h : VisibleChar c) :
    c.toNat.toUInt8.toNat = c.toNat := by
  have hlt : c.toNat < 256 := by
    rw [visibleChar_iff] at h
    omega
  simp [Nat.mod_eq_of_lt hlt]

theorem visible_toUInt8 {c : Char} (h : VisibleChar c) : Visible c.toNat.toUInt8 := by
  rw [visible_iff, h.toNat_toUInt8]
  exact visibleChar_iff.mp h

theorem visibleChar_ofNat {b : UInt8} (h : Visible b) : VisibleChar (Char.ofNat b.toNat) := by
  have hascii : ∀ n < 127, (Char.ofNat n).toNat = n := by decide
  rw [visible_iff] at h
  rw [visibleChar_iff, hascii b.toNat (by omega)]
  exact h

theorem allVisible_sent {cs : List Char} (h : ∀ c ∈ cs, VisibleChar c) : AllVisible (sent cs) := by
  intro b hb
  obtain ⟨c, hc, rfl⟩ := List.mem_map.mp hb
  exact visible_toUInt8 (h c hc)

/-- Visible characters are received as they were sent. -/
theorem received_sent {cs : List Char} (h : ∀ c ∈ cs, VisibleChar c) : received (sent cs) = cs := by
  have hback : ∀ c ∈ cs, Char.ofNat c.toNat.toUInt8.toNat = c := by
    intro c hc
    rw [(h c hc).toNat_toUInt8, Char.ofNat_toNat]
  rw [received, sent, List.map_map]
  exact (List.map_congr_left hback).trans (List.map_id' cs)

theorem visibleChar_of_mem_received {value : List UInt8} (h : AllVisible value) :
    ∀ c ∈ received value, VisibleChar c := by
  intro c hc
  obtain ⟨b, hb, rfl⟩ := List.mem_map.mp hc
  exact visibleChar_ofNat (h b hb)

theorem received_append_comma (v w : List UInt8) :
    received (v ++ 44 :: w) = received v ++ ',' :: received w := by
  rw [received, List.map_append, List.map_cons]
  rfl

theorem allVisible_append_comma {v w : List UInt8} :
    AllVisible (v ++ 44 :: w) ↔ AllVisible v ∧ AllVisible w := by
  have hcomma : Visible 44 := by decide
  simp only [AllVisible, List.forall_mem_append, List.forall_mem_cons, hcomma, true_and]

/-! ### Single items -/

/-- What is left of an item without the padding around it. -/
def trimmed (item : List Char) : List Char := (item.dropWhile isPadding).rdropWhile isPadding

/-- The privilege that an item names, if anything is left of it. -/
def named? (item : List Char) : Option String :=
  if trimmed item = [] then none else some (String.ofList (trimmed item))

/-- A value lists what its items name. -/
theorem listed_eq (value : List UInt8) :
    listed value = ((received value).splitOn ',').filterMap named? := by
  rw [listed, ← List.filterMap_eq_map, List.filterMap_filter, List.filterMap_map]
  refine List.filterMap_congr fun item _ => ?_
  by_cases h : trimmed item = []
  · rw [named?, if_pos h]
    exact if_neg (by simpa [trimmed] using h)
  · rw [named?, if_neg h]
    exact if_pos (decide_eq_true h)

/-- A privilege that a header value can present: visible text that is not empty, holds no comma
and neither starts nor ends with padding. -/
@[mk_iff]
structure Presentable (privilege : String) : Prop where
  ne_empty : privilege ≠ ""
  visible : ∀ c ∈ privilege.toList, VisibleChar c
  no_comma : ',' ∉ privilege.toList
  bare_start : ∀ c ∈ privilege.toList.head?, isPadding c = false
  bare_end : ∀ c ∈ privilege.toList.getLast?, isPadding c = false

-- The characters are those of the text: there is no need to go through all that there are.
instance (privilege : String) : Decidable (Presentable privilege) :=
  have (cs : List Char) := List.decidableBAll VisibleChar cs
  have (o : Option Char) : Decidable (∀ c ∈ o, isPadding c = false) :=
    Option.decidableForallMem o
  decidable_of_iff' _ (presentable_iff privilege)

theorem trimmed_sublist (item : List Char) : (trimmed item).Sublist item :=
  (List.rdropWhile_prefix _ _).sublist.trans (List.dropWhile_sublist _)

theorem trimmed_bare_start {item : List Char} {c : Char} (h : c ∈ (trimmed item).head?) :
    isPadding c = false := by
  obtain ⟨cs, hcs⟩ := List.head?_eq_some_iff.mp h
  obtain ⟨cut, hcut⟩ := List.rdropWhile_prefix isPadding (item.dropWhile isPadding)
  have hhead := List.head?_dropWhile_not isPadding item
  rw [← hcut, ← trimmed, hcs] at hhead
  exact hhead

theorem trimmed_bare_end {item : List Char} {c : Char} (h : c ∈ (trimmed item).getLast?) :
    isPadding c = false := by
  obtain ⟨hne, rfl⟩ := List.mem_getLast?_eq_getLast h
  exact Bool.eq_false_iff.mpr (List.rdropWhile_last_not isPadding _ hne)

/-- What is left of an item that was cut out of a visible text can be presented. -/
theorem presentable_of_named? {item : List Char} {privilege : String}
    (hvisible : ∀ c ∈ item, VisibleChar c) (hcomma : ',' ∉ item)
    (h : named? item = some privilege) : Presentable privilege := by
  have hsublist := trimmed_sublist item
  obtain ⟨hne, rfl⟩ : trimmed item ≠ [] ∧ String.ofList (trimmed item) = privilege := by
    simpa only [named?, Option.ite_none_left_eq_some, Option.some.injEq] using h
  constructor
  · simpa using hne
  · rw [String.toList_ofList]
    exact fun c hc => hvisible c (hsublist.subset hc)
  · rw [String.toList_ofList]
    exact fun hc => hcomma (hsublist.subset hc)
  · rw [String.toList_ofList]
    exact fun c => trimmed_bare_start
  · rw [String.toList_ofList]
    exact fun c => trimmed_bare_end

theorem trimmed_padded {before after cs : List Char} (hbefore : ∀ c ∈ before, isPadding c = true)
    (hafter : ∀ c ∈ after, isPadding c = true)
    (hstart : ∀ c ∈ cs.head?, isPadding c = false) (hend : ∀ c ∈ cs.getLast?, isPadding c = false) :
    trimmed (before ++ cs ++ after) = cs := by
  rw [trimmed, List.append_assoc, List.dropWhile_append_of_pos hbefore]
  cases cs with
  | nil => rw [List.nil_append, List.dropWhile_eq_nil_iff.mpr hafter, List.rdropWhile_nil]
  | cons c cs =>
      rw [List.cons_append, List.dropWhile_cons_of_neg (by simp [hstart c rfl]), List.rdropWhile,
        ← List.cons_append, List.reverse_append,
        List.dropWhile_append_of_pos fun x hx => hafter x (List.mem_reverse.mp hx)]
      refine List.rdropWhile_eq_self_iff.mpr fun hne => ?_
      simp [hend _ (List.getLast?_eq_some_getLast hne)]

/-! ### Values that clients write -/

/-- What a client puts between two commas: padding alone, or a privilege with padding around
it. -/
structure Item where
  before : List Char
  privilege : Option String
  after : List Char

namespace Item

def chars (i : Item) : List Char := i.before ++ (i.privilege.elim [] String.toList) ++ i.after

/-- The item consists of padding and of nothing else but a privilege that can be presented. -/
@[mk_iff]
structure WellFormed (i : Item) : Prop where
  before : ∀ c ∈ i.before, isPadding c = true
  after : ∀ c ∈ i.after, isPadding c = true
  privilege : ∀ p ∈ i.privilege, Presentable p

instance (i : Item) : Decidable i.WellFormed :=
  have (cs : List Char) := List.decidableBAll (isPadding · = true) cs
  have (o : Option String) : Decidable (∀ p ∈ o, Presentable p) := Option.decidableForallMem o
  decidable_of_iff' _ (wellFormed_iff i)

variable {i : Item}

theorem visibleChar_of_isPadding {c : Char} (h : isPadding c = true) : VisibleChar c := by
  simp only [isPadding, Bool.or_eq_true, decide_eq_true_eq] at h
  rcases h with rfl | rfl <;> decide

theorem WellFormed.visible (h : i.WellFormed) : ∀ c ∈ i.chars, VisibleChar c := by
  simp only [chars, List.forall_mem_append]
  refine ⟨⟨fun c hc => visibleChar_of_isPadding (h.before c hc), ?_⟩,
    fun c hc => visibleChar_of_isPadding (h.after c hc)⟩
  cases hprivilege : i.privilege with
  | none => simp
  | some p => exact (h.privilege p hprivilege).visible

theorem WellFormed.no_comma (h : i.WellFormed) : ',' ∉ i.chars := by
  have hpadding : isPadding ',' ≠ true := by decide
  simp only [chars, List.mem_append, not_or]
  refine ⟨⟨fun hc => hpadding (h.before _ hc), ?_⟩, fun hc => hpadding (h.after _ hc)⟩
  cases hprivilege : i.privilege with
  | none => simp
  | some p => exact (h.privilege p hprivilege).no_comma

/-- Trimming an item gives back what it names. -/
theorem WellFormed.named?_chars (h : i.WellFormed) : named? i.chars = i.privilege := by
  unfold named? chars
  cases hprivilege : i.privilege with
  | none =>
      rw [trimmed_padded h.before h.after (by simp) (by simp)]
      rfl
  | some p =>
      have hp := h.privilege p hprivilege
      have hne : p.toList ≠ [] := by simpa using hp.ne_empty
      rw [Option.elim_some, trimmed_padded h.before h.after hp.bare_start hp.bare_end, if_neg hne,
        String.ofList_toList]

/-- The item of a privilege without padding. -/
def plain (privilege : String) : Item := { before := [], privilege := some privilege, after := [] }

theorem wellFormed_plain {privilege : String} (h : Presentable privilege) :
    (plain privilege).WellFormed where
  before := by simp [plain]
  after := by simp [plain]
  privilege := by simpa [plain] using h

end Item

/-- The value that a client sends for some items. -/
def encoded (items : List Item) : List UInt8 := sent ([','].intercalate (items.map Item.chars))

theorem visible_intercalate {pieces : List (List Char)}
    (h : ∀ piece ∈ pieces, ∀ c ∈ piece, VisibleChar c) :
    ∀ c ∈ [','].intercalate pieces, VisibleChar c := by
  induction pieces with
  | nil => simp
  | cons piece rest ih =>
      obtain ⟨hpiece, hrest⟩ := List.forall_mem_cons.mp h
      cases rest with
      | nil => simpa using hpiece
      | cons next rest =>
          simp only [List.intercalate_cons_cons, List.forall_mem_append]
          exact ⟨⟨hpiece, List.forall_mem_singleton.mpr (by decide)⟩, ih hrest⟩

theorem allVisible_encoded {items : List Item} (h : ∀ i ∈ items, i.WellFormed) :
    AllVisible (encoded items) :=
  allVisible_sent (visible_intercalate (List.forall_mem_map.mpr fun i hi => (h i hi).visible))

/-- **A value lists what the items that it was written from name, in order.** -/
theorem listed_encoded {items : List Item} (h : ∀ i ∈ items, i.WellFormed) :
    listed (encoded items) = items.filterMap Item.privilege := by
  have hvisible := visible_intercalate (List.forall_mem_map.mpr fun i hi => (h i hi).visible)
  rw [listed_eq, encoded, received_sent hvisible]
  cases items with
  | nil => rfl
  | cons i items =>
      rw [List.splitOn_intercalate ',' (List.forall_mem_map.mpr fun i hi => (h i hi).no_comma)
        (by simp), List.filterMap_map]
      exact List.filterMap_congr fun i hi => (h i hi).named?_chars

/-! ### Values that are read -/

/-- An item between commas holds none, and nothing that is not in the value. -/
theorem notMem_of_mem_splitOn {cs : List Char} :
    ∀ item ∈ cs.splitOn ',', ',' ∉ item ∧ ∀ c ∈ item, c ∈ cs := by
  induction cs with
  | nil => simp
  | cons c cs ih =>
      rw [List.splitOn_cons_eq_if_modifyHead]
      by_cases hc : c = ','
      · rw [if_pos (beq_iff_eq.mpr hc), List.forall_mem_cons]
        refine ⟨by simp, fun item hitem => ?_⟩
        exact (ih item hitem).imp_right fun h x hx => List.mem_cons_of_mem c (h x hx)
      · rw [if_neg (by simpa using hc)]
        obtain ⟨piece, pieces, hpieces⟩ :=
          List.exists_cons_of_ne_nil (List.splitOn_ne_nil ',' cs)
        rw [hpieces] at ih ⊢
        obtain ⟨⟨hcomma, hmem⟩, hrest⟩ := List.forall_mem_cons.mp ih
        refine List.forall_mem_cons.mpr ⟨⟨?_, ?_⟩, fun item hitem => ?_⟩
        · simp [Ne.symm hc, hcomma]
        · exact List.forall_mem_cons.mpr
            ⟨List.mem_cons_self, fun x hx => List.mem_cons_of_mem c (hmem x hx)⟩
        · exact (hrest item hitem).imp_right fun h x hx => List.mem_cons_of_mem c (h x hx)

/-- Whatever a visible value lists can be presented. -/
theorem presentable_of_mem_listed {value : List UInt8} (hvisible : AllVisible value)
    {privilege : String} (h : privilege ∈ listed value) : Presentable privilege := by
  rw [listed_eq] at h
  obtain ⟨item, hitem, hnamed⟩ := List.mem_filterMap.mp h
  obtain ⟨hcomma, hmem⟩ := notMem_of_mem_splitOn item hitem
  exact presentable_of_named?
    (fun c hc => visibleChar_of_mem_received hvisible c (hmem c hc)) hcomma hnamed

theorem listed_append_comma (v w : List UInt8) : listed (v ++ 44 :: w) = listed v ++ listed w := by
  rw [listed_eq, received_append_comma, List.splitOn_append_cons_self, List.filterMap_append,
    ← listed_eq, ← listed_eq]

/-- The value of privileges that are written down with commas and nothing else between them. -/
def plainly (privileges : List String) : List UInt8 :=
  sent ([','].intercalate (privileges.map String.toList))

theorem plainly_eq_encoded (privileges : List String) :
    plainly privileges = encoded (privileges.map Item.plain) := by
  have hchars : Item.chars ∘ Item.plain = String.toList :=
    funext fun privilege => by simp [Item.chars, Item.plain]
  rw [plainly, encoded, List.map_map, hchars]

theorem presented_of_allVisible {value : List UInt8} (h : AllVisible value)
    (later : List (List UInt8)) : presented (value :: later) = .ok (listed value) :=
  if_pos h

theorem presented_of_not_allVisible {value : List UInt8} (h : ¬AllVisible value)
    (later : List (List UInt8)) : presented (value :: later) = .error opaqueValue :=
  if_neg h

theorem exists_error_iff (values : List (List UInt8)) :
    (∃ failure, presented values = .error failure) ↔
      ∃ value ∈ values.head?, ∃ b ∈ value, ¬Visible b := by
  constructor
  · intro h
    obtain ⟨failure, hfails⟩ := h
    by_contra hnone
    push Not at hnone
    rw [presented_of_visible hnone] at hfails
    cases hfails
  · intro h
    exact ⟨opaqueValue, presented_of_opaque h⟩

theorem presentable_of_presented {values : List (List UInt8)} {privileges : List String}
    (h : presented values = .ok privileges) : ∀ privilege ∈ privileges, Presentable privilege := by
  cases values with
  | nil =>
      cases h
      simp
  | cons value later =>
      by_cases hvisible : AllVisible value
      · rw [presented_of_allVisible hvisible] at h
        cases h
        exact fun privilege => presentable_of_mem_listed hvisible
      · rw [presented_of_not_allVisible hvisible] at h
        cases h

theorem presented_plainly {privileges : List String} (h : ∀ p ∈ privileges, Presentable p)
    (later : List (List UInt8)) : presented (plainly privileges :: later) = .ok privileges := by
  have hplain : ∀ i ∈ privileges.map Item.plain, i.WellFormed :=
    List.forall_mem_map.mpr fun p hp => Item.wellFormed_plain (h p hp)
  rw [plainly_eq_encoded, presented_of_allVisible (allVisible_encoded hplain),
    listed_encoded hplain, List.filterMap_map]
  exact congrArg Except.ok List.filterMap_some

theorem presented_append_comma (v w : List UInt8) (later : List (List UInt8)) :
    presented ((v ++ 44 :: w) :: later) = (do
      let first ← presented [v]
      let second ← presented [w]
      .ok (first ++ second)) := by
  by_cases hv : AllVisible v
  · by_cases hw : AllVisible w
    · rw [presented_of_allVisible (allVisible_append_comma.mpr ⟨hv, hw⟩), listed_append_comma,
        presented_of_allVisible hv, presented_of_allVisible hw]
      rfl
    · rw [presented_of_not_allVisible fun h => hw (allVisible_append_comma.mp h).2,
        presented_of_allVisible hv, presented_of_not_allVisible hw]
      rfl
  · rw [presented_of_not_allVisible fun h => hv (allVisible_append_comma.mp h).1,
      presented_of_not_allVisible hv]
    rfl

/--
**What a client writes is what is read.**  A request presents what the first of its values
lists, whatever the later ones are, and nothing is read exactly when that value holds a byte that
is not visible.  However a client spaces the privileges that it writes down, they are read in
their order, with none lost, none added and none changed.  All that is ever read could have been
written so: each privilege can be presented, and written down plainly they are read again.  And
a value that goes on behind a comma presents what the part before it does and then what the part
after it does, or fails where one of them would.
-/
theorem written_privileges_read :
    (∀ request : Request, ofRequest request = ofValues (request.values header)) ∧
    (∀ values, (∃ failure, ofValues values = .error failure) ↔
      ∃ value ∈ values.head?, ∃ b ∈ value, ¬Visible b) ∧
    (∀ value later later', ofValues (value :: later) = ofValues (value :: later')) ∧
    (∀ items later, (∀ i ∈ items, Item.WellFormed i) →
      ofValues (encoded items :: later) = .ok (items.filterMap Item.privilege)) ∧
    (∀ values privileges, ofValues values = .ok privileges →
      (∀ privilege ∈ privileges, Presentable privilege) ∧
        ∀ later, ofValues (plainly privileges :: later) = .ok privileges) ∧
    (∀ v w later, ofValues ((v ++ 44 :: w) :: later) = do
      let first ← ofValues [v]
      let second ← ofValues [w]
      .ok (first ++ second)) := by
  simp only [ofValues_eq_presented]
  refine ⟨ofRequest_eq_presented, exists_error_iff, fun _ _ _ => rfl, fun items later h => ?_,
    fun values privileges h => ?_, presented_append_comma⟩
  · rw [presented_of_allVisible (allVisible_encoded h), listed_encoded h]
  · have hpresentable := presentable_of_presented h
    exact ⟨hpresentable, presented_plainly hpresentable⟩

/-- A client with two privileges, an empty item, a blank one and padding on every side. -/
def spaced : List Item :=
  [ ⟨[' '], some "index:read", []⟩, ⟨[], none, []⟩, ⟨['\t', ' '], some "a b:*", [' ']⟩
  , ⟨['\t'], none, []⟩ ]

/-- The two are read, although a later value cannot be. -/
theorem spaced_privileges_read :
    encoded spaced = sent " index:read,,\t a b:* ,\t".toList ∧
      ofValues [encoded spaced, [255]] = .ok ["index:read", "a b:*"] := by
  have hspaced : ∀ i ∈ spaced, i.WellFormed := by decide
  exact ⟨by decide, written_privileges_read.2.2.2.1 spaced [[255]] hspaced⟩

end Turnstile.Http.Credentials
