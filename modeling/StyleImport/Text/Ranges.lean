import StyleImport.Text

/-!
# Ranges of code points

A property of code points is a table of disjoint closed ranges in increasing order, searched by
halving.
-/

namespace StyleImport

/-- Searches `n` in the ranges from the index `lo` up to, not including, `hi`. -/
def inRangesBetween (table : Array (Nat × Nat)) (n lo hi : Nat) : Bool :=
  if _h : lo < hi then
    let mid := (lo + hi) / 2
    match table[mid]? with
    | none => false
    | some (first, last) =>
      if n < first then inRangesBetween table n lo mid
      else if last < n then inRangesBetween table n (mid + 1) hi
      else true
  else false
termination_by hi - lo

/-- Tells whether a number lies in one of the ranges of a table. -/
def inRanges (table : Array (Nat × Nat)) (n : Nat) : Bool :=
  inRangesBetween table n 0 table.size

end StyleImport
