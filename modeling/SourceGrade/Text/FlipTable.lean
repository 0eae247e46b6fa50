/-!
# Sets of code points as flip tables

A flip table lists, in increasing order, the code points at which membership changes: a code point
is in the set when an odd number of entries are at or below it.
-/

namespace SourceGrade

/-- The code points at which membership changes, in increasing order. -/
structure FlipTable where
  flips : Array Nat

namespace FlipTable

/-- The number of entries at or below `n`, looked for between the positions `lo` and `hi`. -/
def rank (t : FlipTable) (n : Nat) : (fuel lo hi : Nat) → Nat
  | 0, lo, _ => lo
  | fuel + 1, lo, hi =>
    if lo < hi then
      let mid := (lo + hi) / 2
      if t.flips.getD mid 0 ≤ n then rank t n fuel (mid + 1) hi else rank t n fuel lo mid
    else lo

/-- Halving the table as often as its size has bits leaves one position. -/
def contains (t : FlipTable) (c : Char) : Bool :=
  t.rank c.val.toNat (t.flips.size.log2 + 2) 0 t.flips.size % 2 == 1

end FlipTable

end SourceGrade
