/-!
# Sets of code points

A set of characters given by the points where membership changes, found by binary search.

## Main definitions

* `rank`: how many entries of a sorted array are at most a number;
* `CodeSet`: a set of code points; `CodeSet.contains` decides membership.
-/

namespace CookieAuth.Text

/-- Binary search between `lo` and `hi` for the first entry greater than `x`. -/
def rankBetween (entries : Array Nat) (x : Nat) : Nat → Nat → Nat → Nat
  | 0, lo, _ => lo
  | steps + 1, lo, hi =>
    if lo < hi then
      let mid := (lo + hi) / 2
      if entries.getD mid 0 ≤ x then rankBetween entries x steps (mid + 1) hi
      else rankBetween entries x steps lo mid
    else lo

/-- The number of entries of a sorted array that are at most `x`. -/
def rank (entries : Array Nat) (x : Nat) : Nat :=
  rankBetween entries x entries.size 0 entries.size

/-- A set of code points.  The sorted `bounds` are the points where membership changes, starting
outside the set: the first is the least member, the second the first non-member after it. -/
structure CodeSet where
  /-- The points where membership changes. -/
  bounds : Array Nat

/-- Whether a character belongs to the set. -/
def CodeSet.contains (set : CodeSet) (c : Char) : Bool :=
  rank set.bounds c.toNat % 2 == 1

end CookieAuth.Text
