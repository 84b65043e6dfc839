/-!
Sets of characters given as ascending, disjoint ranges of code points.
-/

namespace VariableExplorer.Text

/-- Whether some range with index in `[lo, hi)` holds `n`, by halving the interval. -/
def searchRanges (table : Array (Nat × Nat)) (n lo hi : Nat) : Bool :=
  if lo < hi then
    let mid := (lo + hi) / 2
    match table[mid]? with
    | none => false
    | some (first, last) =>
      if n < first then searchRanges table n lo mid
      else if last < n then searchRanges table n (mid + 1) hi
      else true
  else false
termination_by hi - lo
decreasing_by all_goals omega

def inRanges (table : Array (Nat × Nat)) (c : Char) : Bool :=
  searchRanges table c.toNat 0 table.size

end VariableExplorer.Text
