/-!
# Sets of code points

A property of characters that a standard lays down is a table. Here a table holds
the sorted code points at which membership changes, first to inside, then to
outside, and so on, so that a character has the property exactly when an odd
number of them lie at or below it.
-/

namespace Stencil

/-- A set of code points, by the sorted places at which membership changes. -/
structure CodeSet where
  changes : Array Nat

namespace CodeSet

/-- How many of the sorted numbers `changes[lo], …, changes[hi - 1]` lie at or
below `c`, added to `lo`, by halving the span. -/
def countUpTo (changes : Array Nat) (c lo hi : Nat) : Nat :=
  if h : lo < hi then
    let mid := (lo + hi) / 2
    if changes.getD mid 0 ≤ c then countUpTo changes c (mid + 1) hi
    else countUpTo changes c lo mid
  else lo
termination_by hi - lo

/-- Whether a character belongs to the set. -/
def contains (s : CodeSet) (c : Char) : Bool :=
  countUpTo s.changes c.toNat 0 s.changes.size % 2 == 1

end CodeSet

end Stencil
