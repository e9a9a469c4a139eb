/-
The best match is the earliest of the heaviest.

Required and held privileges span a table with a row for each required one, and `cell` is the
match at a place of it, if there is one.  The search goes through the table row by row, which
is the lexicographic order of places, and keeps what it has found until a strictly heavier
match comes.

`Leads` is the invariant: what is kept is the earliest of the heaviest matches seen.  A place
after all places seen keeps it, whatever the order of places is; a row does, place by place;
the search does, row by row.  A place outside the table holds no match, so the end of one row
is the start of the next.
-/
import Mathlib.Data.Prod.Lex
import Turnstile.Policy

namespace Turnstile.Match

/-! ### One more place -/

section Places

variable {α : Type} [LinearOrder α] {f : α → Option Match} {seen seen' : α → Prop}
  {best : Option Match}

/-- Of the matches at the places seen, `best` is the earliest of the heaviest. -/
def Leads (f : α → Option Match) (seen : α → Prop) : Option Match → Prop
  | none => ∀ p, seen p → f p = none
  | some b => ∃ p, seen p ∧ f p = some b ∧
      ∀ p' m, seen p' → f p' = some m → m.weight ≤ b.weight ∧ (p' < p → m.weight < b.weight)

/-- Only places that hold a match count as seen. -/
theorem Leads.congr (h : Leads f seen best)
    (hseen : ∀ p m, f p = some m → (seen p ↔ seen' p)) : Leads f seen' best := by
  cases best with
  | none =>
      intro p hp
      refine Option.eq_none_iff_forall_ne_some.mpr fun m hm => ?_
      rw [h p ((hseen p m hm).mpr hp)] at hm
      cases hm
  | some b =>
      obtain ⟨p, hp, hb, hrest⟩ := h
      exact ⟨p, (hseen p b hb).mp hp, hb,
        fun p' m hp' hm => hrest p' m ((hseen p' m hm).mpr hp') hm⟩

/-- A place after all others is met with the strict comparison. -/
theorem Leads.next (h : Leads f seen best) {p : α} (hlast : ∀ p', seen p' → p' < p) :
    Leads f (fun p' => seen p' ∨ p' = p) (heavier best (f p)) := by
  cases hp : f p with
  | none =>
      have hkeep : heavier best none = best := by cases best <;> rfl
      rw [hkeep]
      refine h.congr fun p' m hm => ⟨.inl, fun hor => hor.resolve_right ?_⟩
      intro heq
      rw [heq, hp] at hm
      cases hm
  | some m =>
      cases best with
      | none =>
          refine ⟨p, .inr rfl, hp, fun p' m' hp' hm' => ?_⟩
          obtain hseen | rfl := hp'
          · rw [h p' hseen] at hm'
            cases hm'
          · obtain rfl := Option.some.inj (hp.symm.trans hm')
            exact ⟨le_rfl, fun hlt => absurd hlt (lt_irrefl _)⟩
      | some b =>
          obtain ⟨q, hq, hb, hrest⟩ := h
          by_cases hlt : b.weight < m.weight
          · rw [heavier, if_pos hlt]
            refine ⟨p, .inr rfl, hp, fun p' m' hp' hm' => ?_⟩
            obtain hseen | rfl := hp'
            · have hless := (hrest p' m' hseen hm').1.trans_lt hlt
              exact ⟨hless.le, fun _ => hless⟩
            · obtain rfl := Option.some.inj (hp.symm.trans hm')
              exact ⟨le_rfl, fun hlt => absurd hlt (lt_irrefl _)⟩
          · rw [heavier, if_neg hlt]
            refine ⟨q, .inl hq, hb, fun p' m' hp' hm' => ?_⟩
            obtain hseen | rfl := hp'
            · exact hrest p' m' hseen hm'
            · obtain rfl := Option.some.inj (hp.symm.trans hm')
              exact ⟨not_lt.mp hlt, fun hafter => absurd hafter (hlast q hq).asymm⟩

/-- There is only one earliest of the heaviest. -/
theorem Leads.unique {b m : Match} (h : Leads f seen (some b)) (h' : Leads f seen (some m)) :
    b = m := by
  obtain ⟨p, hp, hb, hrest⟩ := h
  obtain ⟨q, hq, hm, hrest'⟩ := h'
  have hle := (hrest q m hq hm).1
  have hle' := (hrest' p b hp hb).1
  obtain hlt | heq | hgt := lt_trichotomy p q
  · exact absurd ((hrest' p b hp hb).2 hlt) (not_lt.mpr hle)
  · rw [heq, hm] at hb
    exact (Option.some.inj hb).symm
  · exact absurd ((hrest q m hq hm).2 hgt) (not_lt.mpr hle')

end Places

/-! ### The table -/

/-- The match of the required privilege in row `i` with the held one in column `j`. -/
def cell (required held : List String) (i j : Nat) : Option Match :=
  required[i]?.bind fun r => held[j]?.bind fun h => ofPair? r h

/-- The same, by place. -/
def cellAt (required held : List String) (p : ℕ ×ₗ ℕ) : Option Match :=
  cell required held (ofLex p).1 (ofLex p).2

variable {required held : List String} {best : Option Match} {i j : Nat}

theorem cell_eq_some_iff {m : Match} :
    cell required held i j = some m ↔
      ∃ r h, required[i]? = some r ∧ held[j]? = some h ∧ ofPair? r h = some m := by
  simp [cell, Option.bind_eq_some_iff]

/-- A row of the table is gone through from left to right. -/
theorem leads_row {r : String} (hr : required[i]? = some r) :
    ∀ (rest past : List String) {best : Option Match}, held = past ++ rest →
      Leads (cellAt required held) (· < toLex (i, past.length)) best →
      Leads (cellAt required held) (· < toLex (i, held.length))
        (rest.foldl (fun best h => heavier best (ofPair? r h)) best) := by
  intro rest
  induction rest with
  | nil =>
      intro past best hheld h
      rw [hheld, List.append_nil]
      rwa [hheld, List.append_nil] at h
  | cons x rest ih =>
      intro past best hheld h
      refine ih (past ++ [x]) (by rw [hheld]; simp) ?_
      have hcell : cellAt required held (toLex (i, past.length)) = ofPair? r x := by
        simp [cellAt, cell, hr, hheld]
      have hnext := h.next fun p' hp' => hp'
      rw [hcell] at hnext
      refine hnext.congr fun p m _ => ?_
      rw [List.length_append, List.length_singleton, ← le_iff_lt_or_eq, Prod.Lex.le_iff,
        Prod.Lex.lt_iff]
      simp only [ofLex_toLex]
      omega

/-- Row by row the search goes through all of it. -/
theorem leads_rows :
    ∀ (rest past : List String) {best : Option Match}, required = past ++ rest →
      Leads (cellAt required held) (· < toLex (past.length, 0)) best →
      Leads (cellAt required held) (· < toLex (required.length, 0))
        (rest.foldl (fun best r => held.foldl (fun best h => heavier best (ofPair? r h)) best)
          best) := by
  intro rest
  induction rest with
  | nil =>
      intro past best hrequired h
      rw [hrequired, List.append_nil]
      rwa [hrequired, List.append_nil] at h
  | cons r rest ih =>
      intro past best hrequired h
      refine ih (past ++ [r]) (by rw [hrequired]; simp) ?_
      have hr : required[past.length]? = some r := by simp [hrequired]
      have hrow := leads_row hr held [] (List.nil_append held).symm h
      refine hrow.congr fun p m hm => ?_
      obtain ⟨_, _, -, hcolumn, -⟩ := cell_eq_some_iff.mp hm
      obtain ⟨hlt, -⟩ := List.getElem?_eq_some_iff.mp hcolumn
      rw [List.length_append, List.length_singleton, Prod.Lex.lt_iff, Prod.Lex.lt_iff]
      simp only [ofLex_toLex]
      omega

/-- Reading what is held beforehand makes no difference: what is compared are the pairs. -/
theorem best?_eq_foldl_ofPair? (required held : List String) :
    best? required held =
      required.foldl (fun best r => held.foldl (fun best h => heavier best (ofPair? r h)) best)
        none := by
  unfold best?
  simp only [List.foldl_map]
  rfl

/-- **The search keeps the earliest of the heaviest matches of the table.** -/
theorem leads_best? (required held : List String) :
    Leads (cellAt required held) (fun _ => True) (best? required held) := by
  have hstart : Leads (cellAt required held) (· < toLex (([] : List String).length, 0)) none := by
    intro p hp
    rw [Prod.Lex.lt_iff] at hp
    simp at hp
  have hrows := leads_rows required [] (List.nil_append required).symm hstart
  rw [best?_eq_foldl_ofPair?]
  refine hrows.congr fun p m hm => iff_true_intro ?_
  obtain ⟨_, _, hrow, -, -⟩ := cell_eq_some_iff.mp hm
  obtain ⟨hlt, -⟩ := List.getElem?_eq_some_iff.mp hrow
  exact Prod.Lex.lt_iff.mpr (.inl hlt)

/-- What is found is the match at the first of the places with the heaviest ones. -/
theorem exists_cell_of_best? {b : Match} (hbest : best? required held = some b) :
    ∃ i j, cell required held i j = some b ∧
      ∀ i' j' m, cell required held i' j' = some m →
        m.weight ≤ b.weight ∧ (toLex (i', j') < toLex (i, j) → m.weight < b.weight) := by
  have hleads := leads_best? required held
  rw [hbest] at hleads
  obtain ⟨p, -, hp, hrest⟩ := hleads
  exact ⟨(ofLex p).1, (ofLex p).2, hp, fun i' j' m hm => hrest (toLex (i', j')) m trivial hm⟩

/-- Where there is a match, something is found, and it is no lighter. -/
theorem exists_best?_of_cell {m : Match} (hm : cell required held i j = some m) :
    ∃ b, best? required held = some b ∧ m.weight ≤ b.weight := by
  have hleads := leads_best? required held
  cases hbest : best? required held with
  | none =>
      rw [hbest] at hleads
      rw [show cell required held i j = none from hleads (toLex (i, j)) trivial] at hm
      cases hm
  | some b =>
      obtain ⟨_, _, -, hrest⟩ := exists_cell_of_best? hbest
      exact ⟨b, rfl, (hrest i j m hm).1⟩

/-- Nothing is found exactly when no two privileges match. -/
theorem best?_eq_none_iff :
    best? required held = none ↔ ∀ i j, cell required held i j = none := by
  constructor
  · intro hnone i j
    refine Option.eq_none_iff_forall_ne_some.mpr fun m hm => ?_
    obtain ⟨b, hbest, -⟩ := exists_best?_of_cell hm
    rw [hnone] at hbest
    cases hbest
  · intro hempty
    refine Option.eq_none_iff_forall_ne_some.mpr fun m hm => ?_
    obtain ⟨i, j, hcell, -⟩ := exists_cell_of_best? hm
    rw [hempty] at hcell
    cases hcell

theorem exists_cell_iff :
    (∃ i j, (cell required held i j).isSome) ↔
      ∃ r ∈ required, ∃ h ∈ held, (ofPair? r h).isSome := by
  constructor
  · intro hcell
    obtain ⟨i, j, hsome⟩ := hcell
    obtain ⟨m, hm⟩ := Option.isSome_iff_exists.mp hsome
    obtain ⟨r, h, hr, hh, hpair⟩ := cell_eq_some_iff.mp hm
    exact ⟨r, List.mem_of_getElem? hr, h, List.mem_of_getElem? hh, by rw [hpair]; rfl⟩
  · intro hpair
    obtain ⟨r, hr, h, hh, hsome⟩ := hpair
    obtain ⟨i, hi⟩ := List.mem_iff_getElem?.mp hr
    obtain ⟨j, hj⟩ := List.mem_iff_getElem?.mp hh
    exact ⟨i, j, by simpa [cell, hi, hj] using hsome⟩

/-- Something is found exactly when some pair matches. -/
theorem isSome_best?_iff :
    (best? required held).isSome ↔ ∃ r ∈ required, ∃ h ∈ held, (ofPair? r h).isSome := by
  rw [← exists_cell_iff, ← Option.ne_none_iff_isSome, ne_eq, best?_eq_none_iff]
  simp [Option.isSome_iff_ne_none]

/--
**The best match is the earliest of the heaviest.**  There is none exactly when no required
privilege matches a held one.  Otherwise it is the match of one pair; no pair matches with a
greater weight, and every pair before it, required privileges first, is lighter if it matches
at all.  There is only one such match.  So the policy always answers, and consents exactly when
some pair matches.
-/
theorem best?_earliest_heaviest (required held : List String) :
    (best? required held = none ↔ ∀ i j, cell required held i j = none) ∧
    (∀ m, best? required held = some m ↔ ∃ i j, cell required held i j = some m ∧
      ∀ i' j' m', cell required held i' j' = some m' → m'.weight ≤ m.weight ∧
        (toLex (i', j') < toLex (i, j) → m'.weight < m.weight)) ∧
    (∃ answer, Policy.bestMatch required held = .ok answer) ∧
    (Policy.bestMatch required held = .ok true ↔
      ∃ r ∈ required, ∃ h ∈ held, (ofPair? r h).isSome) := by
  have hleads := leads_best? required held
  refine ⟨best?_eq_none_iff, fun m => ⟨fun hbest => ?_, fun hm => ?_⟩, ⟨_, rfl⟩, ?_⟩
  · rw [hbest] at hleads
    obtain ⟨p, -, hp, hrest⟩ := hleads
    exact ⟨(ofLex p).1, (ofLex p).2, hp,
      fun i' j' m' hm' => hrest (toLex (i', j')) m' trivial hm'⟩
  · obtain ⟨i, j, hcell, hrest⟩ := hm
    have hm' : Leads (cellAt required held) (fun _ => True) (some m) :=
      ⟨toLex (i, j), trivial, hcell, fun p' m' _ hp' => hrest (ofLex p').1 (ofLex p').2 m' hp'⟩
    cases hbest : best? required held with
    | none =>
        rw [best?_eq_none_iff.mp hbest] at hcell
        cases hcell
    | some b =>
        rw [hbest] at hleads
        rw [hleads.unique hm']
  · rw [← exists_cell_iff, Policy.bestMatch, Except.ok.injEq, Policy.bestMatchAllows,
      ← Option.ne_none_iff_isSome, ne_eq, best?_eq_none_iff]
    simp [Option.isSome_iff_ne_none]

/-- Of two equally heavy matches the one with the earlier requirement is taken. -/
example : best? ["account:*", "*:read"] ["account:read"] =
    some { required := "account:*", held := "account:read", weight := 6 } := by decide +kernel

end Turnstile.Match
