/-
The roster: which privileges each route key requires.

Keys are looked up on every call and listed in the order in which they were entered, so
a roster keeps both an index and that order.  Entering a key again replaces its
privileges and keeps its place; a key that was struck out and entered again goes to the
end.
-/
import Std.Data.TreeMap

namespace Turnstile

/-- Required privileges by route key, with the keys in the order of their entry. -/
structure Roster where
  index : Std.TreeMap String (List String)
  order : List String

namespace Roster

def empty : Roster := ⟨∅, []⟩

instance : EmptyCollection Roster := ⟨empty⟩

/-- The privileges entered under a key. -/
def get? (r : Roster) (key : String) : Option (List String) := r.index[key]?

def contains (r : Roster) (key : String) : Bool := r.index.contains key

/-- Enters privileges under a key, in place of any that were there. -/
def insert (r : Roster) (key : String) (privileges : List String) : Roster where
  index := r.index.insert key privileges
  order := if r.contains key then r.order else r.order ++ [key]

/-- Strikes a key out. -/
def erase (r : Roster) (key : String) : Roster :=
  if r.contains key then
    { index := r.index.erase key, order := r.order.filter (· ≠ key) }
  else r

/-- Strikes a key out and gives back what was entered under it. -/
def remove (r : Roster) (key : String) : Option (List String) × Roster := (r.get? key, r.erase key)

/-- How many keys are entered. -/
def size (r : Roster) : Nat := r.index.size

def isEmpty (r : Roster) : Bool := r.index.isEmpty

/-- The keys in the order of their entry. -/
def keys (r : Roster) : List String := r.order

/-- The entries in the order of their keys' entry. -/
def toList (r : Roster) : List (String × List String) :=
  r.order.filterMap fun key => (r.get? key).map (key, ·)

/-- A change to a roster that is in use. -/
inductive Change where
  | insert (key : String) (privileges : List String)
  | erase (key : String)
  | clear
  deriving DecidableEq, Repr

/-- The roster after a change. -/
def apply (r : Roster) : Change → Roster
  | .insert key privileges => r.insert key privileges
  | .erase key => r.erase key
  | .clear => empty

/-- The roster after changes made one after the other. -/
def applyAll (r : Roster) (changes : List Change) : Roster := changes.foldl apply r

end Roster

end Turnstile
