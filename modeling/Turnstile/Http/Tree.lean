/-
A tree of path patterns.

Patterns that start alike share a way from the root.  A node stands for literal characters;
behind them a pattern may end, go on literally in a branch, of which there is one for each
first character, or open into a segment or a rest.  The two openings exclude each other,
and a pattern can be added only where none like it is there already.

A path is looked up along the literal branches first.  Where they lead nowhere, the
opening of the last node that has one is tried.  But a path that a last slash tells from
one that is served, or that has only a slash left, is given up at once.
-/
import Turnstile.Http.Pattern

namespace Turnstile.Http

mutual

/-- A node: its literal characters, the route of the pattern that ends behind them, and what
may follow. -/
inductive Tree where
  | node (label : List Char) (route : Option String) (branches : Forest) (opening : Opening)

/-- The branches of a node; they differ in their first characters. -/
inductive Forest where
  | nil
  | cons (tree : Tree) (others : Forest)

/-- How a node opens. -/
inductive Opening where
  | closed
  /-- Into a segment behind which a pattern ends. -/
  | segment (route : String)
  /-- Into a segment behind which patterns go on; one may end there as well. -/
  | segmentThen (route : Option String) (next : Tree)
  /-- Into a rest. -/
  | rest (route : String)

end

/-! ### Adding patterns -/

/-- The start that a label shares with a pattern, and what is left of either. -/
def Pattern.shared : List Char → Pattern → List Char × List Char × Pattern
  | l :: ls, .literal c :: ps =>
    if l = c then
      let (start, label, pieces) := shared ls ps
      (l :: start, label, pieces)
    else ([], l :: ls, .literal c :: ps)
  | ls, ps => ([], ls, ps)

namespace Tree

/-- The tree without patterns. -/
def empty : Tree := .node [] none .nil .closed

/-- Whether a tree is the branch for a character. -/
def startsWith (c : Char) : Tree → Bool
  | .node (l :: _) _ _ _ => l = c
  | .node [] _ _ _ => false

/-- The tree of a single pattern, of which the label was read already.  A rest stands behind
a slash there. -/
def ofPieces? (route : String) (label : List Char) : Pattern → Option Tree
  | [] => some (.node label (some route) .nil .closed)
  | .literal c :: pieces => ofPieces? route (label ++ [c]) pieces
  | [.segment] => some (.node label none .nil (.segment route))
  | .segment :: pieces =>
    (ofPieces? route [] pieces).map fun next => .node label none .nil (.segmentThen none next)
  | [.rest] =>
    if label.getLast? = some '/' then some (.node label none .nil (.rest route)) else none
  | .rest :: _ => none

end Tree

/-- The opening of a single pattern. -/
def Opening.ofPieces? (route : String) : Pattern → Option Opening
  | [.segment] => some (.segment route)
  | .segment :: pieces => (Tree.ofPieces? route [] pieces).map (.segmentThen none ·)
  | [.rest] => some (.rest route)
  | _ => none

mutual

/-- Adds a pattern.  A label that the pattern shares in part only is split. -/
def Tree.insert? (route : String) : Tree → Pattern → Option Tree
  | .node label ending branches opening, pieces =>
    match Pattern.shared label pieces with
    | (_, [], []) =>
      if ending.isSome then none else some (.node label (some route) branches opening)
    | (_, [], .literal c :: pieces) =>
      (branches.insert? route c (.literal c :: pieces)).map (.node label ending · opening)
    | (_, [], pieces) => (opening.insert? route pieces).map (.node label ending branches ·)
    | (start, left, pieces) =>
      let lower := Forest.cons (.node left ending branches opening) .nil
      match pieces with
      | [] => some (.node start (some route) lower .closed)
      | .literal _ :: _ =>
        (Tree.ofPieces? route [] pieces).map fun branch =>
          .node start none (.cons branch lower) .closed
      | pieces => (Opening.ofPieces? route pieces).map (.node start none lower ·)

/-- Adds a pattern to the branch for its first character. -/
def Forest.insert? (route : String) (first : Char) : Forest → Pattern → Option Forest
  | .nil, pieces => (Tree.ofPieces? route [] pieces).map (.cons · .nil)
  | .cons tree others, pieces =>
    if tree.startsWith first then (tree.insert? route pieces).map (.cons · others)
    else (others.insert? route first pieces).map (.cons tree ·)

/-- Adds a pattern that opens. -/
def Opening.insert? (route : String) : Opening → Pattern → Option Opening
  | .closed, pieces => Opening.ofPieces? route pieces
  | .segment ending, .segment :: next :: pieces =>
    (Tree.ofPieces? route [] (next :: pieces)).map (.segmentThen (some ending) ·)
  | .segmentThen none next, [.segment] => some (.segmentThen (some route) next)
  | .segmentThen ending next, .segment :: piece :: pieces =>
    (next.insert? route (piece :: pieces)).map (.segmentThen ending ·)
  | _, _ => none

end

/-- The tree of some paths, added in order; none when one is no pattern or cannot be added. -/
def Tree.ofPaths? (paths : List String) : Option Tree :=
  paths.foldlM (fun tree path => do tree.insert? path (← Pattern.ofString? path)) .empty

/-! ### Looking up paths -/

/-- What looking up a path comes to. -/
inductive Search where
  /-- A route, with the captures in order. -/
  | found (route : String) (captures : List (List Char))
  /-- The way leads nowhere; others may be tried. -/
  | missed
  /-- The path is given up. -/
  | refused
  deriving DecidableEq, Repr

namespace Search

/-- A way that leads nowhere, with what was left of the path. -/
def lost (left : List Char) : Search := if left = ['/'] then refused else missed

/-- Puts a capture before those of the rest of the way. -/
def capturing (captured : List Char) : Search → Search
  | found route captures => found route (captured :: captures)
  | missed => missed
  | refused => refused

/-- Tries another way where one leads nowhere. -/
def orElse : Search → (Unit → Search) → Search
  | missed, other => other ()
  | outcome, _ => outcome

end Search

/-- What is left of a path behind a label. -/
def behind? : List Char → List Char → Option (List Char)
  | [], path => some path
  | _ :: _, [] => none
  | l :: ls, c :: cs => if l = c then behind? ls cs else none

/-- Whether a pattern ends behind a lone slash. -/
def Tree.isSlash : Tree → Bool
  | .node label route _ _ => label = ['/'] && route.isSome

mutual

/-- Looks up a path from a node. -/
def Tree.search : Tree → List Char → Search
  | .node label route branches opening, path =>
    match behind? label path with
    | none => if route.isSome && label = path ++ ['/'] then .refused else .lost path
    | some [] =>
      match route with
      | some route => .found route []
      | none => .lost path
    | some (c :: cs) => (branches.search c cs).orElse fun _ => opening.search (c :: cs)

/-- Looks up a path, given by its first character and the others, from the branch for it. -/
def Forest.search : Forest → Char → List Char → Search
  | .nil, _, _ => .missed
  | .cons tree others, c, cs =>
    if tree.startsWith c then tree.search (c :: cs) else others.search c cs

/-- Looks up a path from where a node opens. -/
def Opening.search : Opening → List Char → Search
  | .closed, path => .lost path
  | .segment route, path =>
    match path.dropWhile (· ≠ '/') with
    | [] => .found route [path]
    | left => .lost left
  | .segmentThen route next, path =>
    match path.dropWhile (· ≠ '/') with
    | [] =>
      match route with
      | some route => .found route [path]
      | none => if next.isSlash then .refused else .missed
    | left => (next.search left).capturing (path.takeWhile (· ≠ '/'))
  | .rest route, path => .found route [path]

end

/-- The route for a path, with the captures in order. -/
def Tree.find? (tree : Tree) (path : String) : Option (String × List String) :=
  match tree.search path.toList with
  | .found route captures => some (route, captures.map String.ofList)
  | _ => none

end Turnstile.Http
