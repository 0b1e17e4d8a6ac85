/-!
# SyntaxExplorer.Text.CharRanges

**Sets of characters given by ranges of code points**, the form in which
character properties are published. A table lists closed ranges in increasing
order, and membership is a binary search for the range that could hold the
character.
-/

namespace SyntaxExplorer.Text

/-- Closed ranges of code points, in increasing order and without overlap. -/
structure CharRanges where
  ranges : Array (Nat × Nat)

namespace CharRanges

/-- Binary search for the range that holds `code`, among those from `lo` up to
but not including `hi`. -/
def search (ranges : Array (Nat × Nat)) (code lo hi : Nat) : Bool :=
  if lo < hi then
    let middle := (lo + hi) / 2
    match ranges[middle]? with
    | none => false
    | some (first, last) =>
      if code < first then search ranges code lo middle
      else if last < code then search ranges code (middle + 1) hi
      else true
  else false
termination_by hi - lo
decreasing_by all_goals omega

/-- Does some range of the table hold the character? -/
def contains (table : CharRanges) (c : Char) : Bool :=
  search table.ranges c.toNat 0 table.ranges.size

end CharRanges

end SyntaxExplorer.Text
