/-
A look-up finds the pattern that matches.

A tree stands for the patterns that were added to it, each with its route: the labels on the
way to an ending, and what the last node opens into.  In general a look-up may give a path up
although some pattern matches it.  In a plain tree, where a node that opens has no branches and
opens into a last segment, there is never more than one way to go, so what is found is exactly
what matches.
-/
import Mathlib.Data.List.TakeWhile
import Turnstile.Http.Tree

namespace Turnstile.Http

/-! ### Patterns and paths -/

/-- Whether a pattern matches a path, with the captures in order.  A segment is not empty and
holds no slash, and a rest is not empty. -/
def Pattern.Matches : Pattern → List Char → List (List Char) → Prop
  | [], path, captures => path = [] ∧ captures = []
  | .literal c :: pieces, path, captures => ∃ left, path = c :: left ∧ Matches pieces left captures
  | .segment :: pieces, path, captures => ∃ segment left more, segment ≠ [] ∧ '/' ∉ segment ∧
      path = segment ++ left ∧ captures = segment :: more ∧ Matches pieces left more
  | .rest :: _, path, captures => path ≠ [] ∧ captures = [path]

theorem Pattern.matches_literals_iff (pieces : Pattern) (captures : List (List Char)) :
    ∀ (label path : List Char), Matches (label.map Piece.literal ++ pieces) path captures ↔
      ∃ left, path = label ++ left ∧ Matches pieces left captures := by
  intro label
  induction label with
  | nil => intro path; simp
  | cons c cs ih =>
      intro path
      simp only [List.map_cons, List.cons_append, Matches, ih]
      constructor
      · intro h
        obtain ⟨_, rfl, left, rfl, hleft⟩ := h
        exact ⟨left, rfl, hleft⟩
      · intro h
        obtain ⟨left, rfl, hleft⟩ := h
        exact ⟨_, rfl, left, rfl, hleft⟩

/-- A lone segment matches a path that is one. -/
theorem Pattern.matches_segment_iff {path : List Char} {captures : List (List Char)} :
    Matches [.segment] path captures ↔ path ≠ [] ∧ '/' ∉ path ∧ captures = [path] := by
  simp only [Matches]
  constructor
  · intro h
    obtain ⟨segment, _, _, hne, hslash, rfl, rfl, rfl, rfl⟩ := h
    exact ⟨by simpa using hne, by simpa using hslash, by simp⟩
  · intro h
    obtain ⟨hne, hslash, rfl⟩ := h
    exact ⟨path, [], [], hne, hslash, by simp, rfl, rfl, rfl⟩

mutual

/-- The patterns that a tree stands for, each with its route. -/
def Tree.patterns : Tree → List (Pattern × String)
  | .node label ending branches opening =>
    (ending.toList.map (([], ·)) ++ branches.patterns ++ opening.patterns).map
      fun (pieces, route) => (label.map Piece.literal ++ pieces, route)

def Forest.patterns : Forest → List (Pattern × String)
  | .nil => []
  | .cons tree others => tree.patterns ++ others.patterns

def Opening.patterns : Opening → List (Pattern × String)
  | .closed => []
  | .segment route => [([.segment], route)]
  | .segmentThen ending next =>
    ending.toList.map (([.segment], ·)) ++
      next.patterns.map fun (pieces, route) => (.segment :: pieces, route)
  | .rest route => [([.rest], route)]

end

/-- Whether some entry of a list of patterns matches a path, for a route. -/
def Leads (entries : List (Pattern × String)) (path : List Char) (route : String)
    (captures : List (List Char)) : Prop :=
  ∃ pieces, (pieces, route) ∈ entries ∧ pieces.Matches path captures

section

variable {path : List Char} {route : String} {captures : List (List Char)}

theorem leads_append_iff {entries more : List (Pattern × String)} :
    Leads (entries ++ more) path route captures ↔
      Leads entries path route captures ∨ Leads more path route captures := by
  simp only [Leads, List.mem_append, or_and_right, exists_or]

/-- A tree leads where its ending, its branches or its opening does, behind its label. -/
theorem Tree.leads_iff {label : List Char} {ending : Option String} {branches : Forest}
    {opening : Opening} :
    Leads (Tree.node label ending branches opening).patterns path route captures ↔
      ∃ left, path = label ++ left ∧
        ((left = [] ∧ ending = some route ∧ captures = []) ∨
          Leads branches.patterns left route captures ∨
          Leads opening.patterns left route captures) := by
  have hending : ∀ left, Leads (ending.toList.map (([], ·))) left route captures ↔
      left = [] ∧ ending = some route ∧ captures = [] := by
    intro left
    simp only [Leads, List.mem_map, Option.mem_toList, Prod.mk.injEq]
    constructor
    · intro h
      obtain ⟨_, ⟨_, hending, rfl, rfl⟩, rfl, rfl⟩ := h
      exact ⟨rfl, hending, rfl⟩
    · intro h
      obtain ⟨rfl, hending, rfl⟩ := h
      exact ⟨[], ⟨route, hending, rfl, rfl⟩, rfl, rfl⟩
  simp only [← hending, ← leads_append_iff, ← List.append_assoc]
  simp only [Leads, Tree.patterns, List.mem_map, Prod.mk.injEq]
  constructor
  · intro h
    obtain ⟨_, ⟨⟨pieces, _⟩, hmem, rfl, rfl⟩, hmatches⟩ := h
    obtain ⟨left, rfl, hleft⟩ :=
      (Pattern.matches_literals_iff pieces captures label path).mp hmatches
    exact ⟨left, rfl, pieces, hmem, hleft⟩
  · intro h
    obtain ⟨left, rfl, pieces, hmem, hleft⟩ := h
    exact ⟨_, ⟨(pieces, route), hmem, rfl, rfl⟩,
      (Pattern.matches_literals_iff pieces captures label _).mpr ⟨left, rfl, hleft⟩⟩

end

/-! ### Plain trees -/

/-- The first character of a tree's label. -/
def Tree.first? : Tree → Option Char
  | .node label _ _ _ => label.head?

/-- Whether a forest has a branch for a character. -/
def Forest.startsWith (c : Char) : Forest → Bool
  | .nil => false
  | .cons tree others => tree.startsWith c || others.startsWith c

def Forest.isEmpty : Forest → Bool
  | .nil => true
  | .cons _ _ => false

/-- Whether a node may open this way: not at all, or into a last segment where it has no
branches. -/
def Opening.plain (branches : Forest) : Opening → Bool
  | .closed => true
  | .segment _ => branches.isEmpty
  | .segmentThen _ _ => false
  | .rest _ => false

mutual

/-- Whether there is one way to go at most, from every node of a tree. -/
def Tree.plain : Tree → Bool
  | .node _ _ branches opening => branches.plain && opening.plain branches

def Forest.plain : Forest → Bool
  | .nil => true
  | .cons tree others =>
    tree.plain && others.plain && tree.first?.any fun c => !others.startsWith c

end

/-! ### Searches -/

theorem behind?_eq_some_iff :
    ∀ {label path left : List Char}, behind? label path = some left ↔ path = label ++ left := by
  intro label
  induction label with
  | nil => intro path left; simp [behind?]
  | cons l ls ih =>
      intro path left
      cases path with
      | nil => simp [behind?]
      | cons c cs =>
          rw [behind?, Option.ite_none_right_eq_some, ih, List.cons_append, List.cons.injEq,
            eq_comm (a := l)]

namespace Search

variable {route : String} {captures : List (List Char)}

theorem lost_ne_found (left : List Char) : lost left ≠ found route captures := by
  unfold lost
  split <;> simp

theorem orElse_eq_found_iff {outcome : Search} {other : Unit → Search} :
    outcome.orElse other = found route captures ↔
      outcome = found route captures ∨ outcome = missed ∧ other () = found route captures := by
  cases outcome <;> simp [orElse]

end Search

section

variable {path : List Char} {route : String} {captures : List (List Char)}

/-! ### Where a forest leads -/

theorem Tree.cons_of_leads {tree : Tree} {l : Char} (hfirst : tree.first? = some l)
    (h : Leads tree.patterns path route captures) : ∃ cs, path = l :: cs := by
  obtain ⟨label, ending, branches, opening⟩ := tree
  obtain ⟨left, rfl, -⟩ := Tree.leads_iff.mp h
  cases label with
  | nil => simp [first?] at hfirst
  | cons c label =>
      obtain rfl : c = l := by simpa [first?] using hfirst
      exact ⟨label ++ left, rfl⟩

theorem Tree.startsWith_iff {tree : Tree} {l c : Char} (hfirst : tree.first? = some l) :
    tree.startsWith c = true ↔ l = c := by
  obtain ⟨label, ending, branches, opening⟩ := tree
  cases label with
  | nil => simp [first?] at hfirst
  | cons a label =>
      obtain rfl : a = l := by simpa [first?] using hfirst
      simp [startsWith]

theorem Forest.plain_cons_iff {tree : Tree} {others : Forest} :
    (Forest.cons tree others).plain = true ↔ tree.plain = true ∧ others.plain = true ∧
      ∃ l, tree.first? = some l ∧ others.startsWith l = false := by
  simp [plain, Option.any_eq_true, and_assoc]

/-- A plain forest leads only where it has a branch for the first character. -/
theorem Forest.startsWith_of_leads : ∀ {forest : Forest}, forest.plain = true →
    Leads forest.patterns path route captures →
      ∃ c cs, path = c :: cs ∧ forest.startsWith c = true
  | .nil, _, h => by simp [Leads, patterns] at h
  | .cons tree others, hplain, h => by
    obtain ⟨-, hothers, l, hfirst, -⟩ := plain_cons_iff.mp hplain
    rcases leads_append_iff.mp h with htree | hlater
    · obtain ⟨cs, rfl⟩ := Tree.cons_of_leads hfirst htree
      exact ⟨l, cs, rfl, by simp [startsWith, Tree.startsWith_iff hfirst]⟩
    · obtain ⟨c, cs, rfl, hc⟩ := startsWith_of_leads hothers hlater
      exact ⟨c, cs, rfl, by simp [startsWith, hc]⟩

/-- Of a branch for a character and other branches, only that one leads there. -/
theorem Forest.leads_cons_iff {tree : Tree} {others : Forest} {c : Char} {cs : List Char}
    (hplain : (Forest.cons tree others).plain = true) :
    Leads (Forest.cons tree others).patterns (c :: cs) route captures ↔
      if tree.startsWith c then Leads tree.patterns (c :: cs) route captures
      else Leads others.patterns (c :: cs) route captures := by
  obtain ⟨-, hothers, l, hfirst, hapart⟩ := plain_cons_iff.mp hplain
  rw [patterns, leads_append_iff]
  by_cases hc : tree.startsWith c = true
  · obtain rfl := (Tree.startsWith_iff hfirst).mp hc
    rw [if_pos hc]
    refine or_iff_left fun h => ?_
    obtain ⟨_, _, heq, hstarts⟩ := startsWith_of_leads hothers h
    obtain ⟨rfl, -⟩ := List.cons.inj heq
    exact Bool.noConfusion (hstarts.symm.trans hapart)
  · rw [if_neg hc]
    refine or_iff_right fun h => ?_
    obtain ⟨_, heq⟩ := Tree.cons_of_leads hfirst h
    exact hc ((Tree.startsWith_iff hfirst).mpr (List.cons.inj heq).1.symm)

/-! ### Where a node opens -/

theorem Opening.search_segment_eq_found_iff {last : String} {c : Char} {cs : List Char} :
    (Opening.segment last).search (c :: cs) = .found route captures ↔
      Leads (Opening.segment last).patterns (c :: cs) route captures := by
  have hleads : Leads (Opening.segment last).patterns (c :: cs) route captures ↔
      route = last ∧ '/' ∉ c :: cs ∧ captures = [c :: cs] := by
    simp only [patterns, Leads, List.mem_singleton, Prod.mk.injEq, and_assoc, exists_eq_left,
      Pattern.matches_segment_iff]
    simp
  have hslash : (c :: cs).dropWhile (· ≠ '/') = [] ↔ '/' ∉ c :: cs := by
    rw [List.dropWhile_eq_nil_iff]
    exact ⟨fun h hmem => of_decide_eq_true (h _ hmem) rfl,
      fun h a ha => decide_eq_true fun heq => h (heq ▸ ha)⟩
  rw [hleads, ← hslash]
  cases hdrop : (c :: cs).dropWhile (· ≠ '/') with
  | nil =>
      rw [search, hdrop, Search.found.injEq, eq_comm (a := last), eq_comm (a := [c :: cs])]
      simp
  | cons a left =>
      rw [search, hdrop]
      exact iff_of_false (Search.lost_ne_found _) (by simp)

/-- Without branches a plain node is searched where it opens. -/
theorem Opening.orElse_search_iff {branches : Forest} {opening : Opening} {c : Char}
    {cs : List Char} (hplain : opening.plain branches = true) :
    ((branches.search c cs).orElse fun _ => opening.search (c :: cs)) = .found route captures ↔
      branches.search c cs = .found route captures ∨
        Leads opening.patterns (c :: cs) route captures := by
  rw [Search.orElse_eq_found_iff]
  cases opening with
  | closed => simp [search, Search.lost_ne_found, Leads, patterns]
  | segment last =>
      cases branches with
      | nil => simp [Forest.search, search_segment_eq_found_iff]
      | cons tree others => simp [plain, Forest.isEmpty] at hplain
  | segmentThen ending next => simp [plain] at hplain
  | rest last => simp [plain] at hplain

theorem Opening.not_leads_nil {branches : Forest} {opening : Opening}
    (hplain : opening.plain branches = true) : ¬Leads opening.patterns [] route captures := by
  cases opening with
  | closed => simp [Leads, patterns]
  | segment last => simp [Leads, patterns, Pattern.matches_segment_iff]
  | segmentThen ending next => simp [plain] at hplain
  | rest last => simp [plain] at hplain

/-! ### What is found -/

/-- A node whose branches find what they lead to finds what it leads to. -/
theorem Tree.search_node_iff {label : List Char} {ending : Option String} {branches : Forest}
    {opening : Opening} (hbranches : branches.plain = true)
    (hopening : opening.plain branches = true)
    (hfound : ∀ c cs, branches.search c cs = .found route captures ↔
      Leads branches.patterns (c :: cs) route captures) :
    (Tree.node label ending branches opening).search path = .found route captures ↔
      Leads (Tree.node label ending branches opening).patterns path route captures := by
  rw [Tree.leads_iff, search.eq_def]
  simp only
  cases hbehind : behind? label path with
  | none =>
      refine iff_of_false ?_ fun h => ?_
      · simp only
        split
        · simp
        · exact Search.lost_ne_found path
      · obtain ⟨left, hpath, -⟩ := h
        rw [behind?_eq_some_iff.mpr hpath] at hbehind
        cases hbehind
  | some left =>
      obtain rfl := behind?_eq_some_iff.mp hbehind
      simp only [List.append_cancel_left_eq, exists_eq_left']
      cases left with
      | nil =>
          -- Behind the label only the ending is left: branches and segments are not empty.
          have hnone : ¬Leads branches.patterns [] route captures := by
            intro h
            obtain ⟨_, _, heq, -⟩ := Forest.startsWith_of_leads hbranches h
            cases heq
          cases ending with
          | none => simp [Search.lost_ne_found, hnone, Opening.not_leads_nil hopening]
          | some e => simp [hnone, Opening.not_leads_nil hopening, eq_comm]
      | cons c cs => simp [Opening.orElse_search_iff hopening, hfound]

mutual

/-- In a plain tree a search finds exactly what matches. -/
theorem Tree.search_eq_found_iff : ∀ {tree : Tree} {path : List Char}, tree.plain = true →
    (tree.search path = .found route captures ↔ Leads tree.patterns path route captures)
  | .node label ending branches opening, path, hplain => by
    obtain ⟨hbranches, hopening⟩ := Bool.and_eq_true_iff.mp hplain
    exact Tree.search_node_iff hbranches hopening fun c cs => Forest.search_eq_found_iff hbranches

theorem Forest.search_eq_found_iff : ∀ {forest : Forest} {c : Char} {cs : List Char},
    forest.plain = true → (forest.search c cs = .found route captures ↔
      Leads forest.patterns (c :: cs) route captures)
  | .nil, c, cs, _ => by
    simp [Forest.search, Leads, Forest.patterns]
  | .cons tree others, c, cs, hplain => by
    obtain ⟨htree, hothers, -⟩ := Forest.plain_cons_iff.mp hplain
    rw [Forest.leads_cons_iff hplain, Forest.search]
    split
    · exact Tree.search_eq_found_iff htree
    · exact Forest.search_eq_found_iff hothers

end

end

end Turnstile.Http
