/-!
# Sets of code points, written as boundary lists

Properties of characters (letters, digits, printable characters, …) cover hundreds of thousands of
code points in a few hundred blocks. A set is therefore kept as the ascending list of the places
where membership changes: the code points below the first bound are outside, those from the first
bound up to (not including) the second are inside, and so on.

* `CodePointSet.rank` counts the bounds at or below a code point, by halving;
* `CodePointSet.contains` is membership: an odd number of bounds lies at or below the code point.
-/

namespace Gatehouse.Text

/-- A set of code points, as the ascending list of the places where membership changes. -/
structure CodePointSet where
  bounds : Array Nat

namespace CodePointSet

/-- How many of the ascending `bounds` are at most `n`, found by halving the interval `[lo, hi)`
    of candidate answers; `steps` bounds the number of halvings. -/
def rank (bounds : Array Nat) (n : Nat) : (steps lo hi : Nat) → Nat
  | 0, lo, _ => lo
  | steps + 1, lo, hi =>
    if lo < hi then
      let mid := (lo + hi) / 2
      if bounds.getD mid 0 ≤ n then rank bounds n steps (mid + 1) hi
      else rank bounds n steps lo mid
    else lo

/-- Is the character in the set? -/
def contains (s : CodePointSet) (c : Char) : Bool :=
  rank s.bounds c.toNat s.bounds.size 0 s.bounds.size % 2 == 1

end CodePointSet

end Gatehouse.Text
