/-!
Membership in an ascending table of closed ranges, by bisection.
-/

namespace AdmissionGate.Text

/-- Looks for `n` among the ranges with index at least `lo` and below `hi`. -/
def inRangesBetween (ranges : Array (Nat × Nat)) (n lo hi : Nat) : Bool :=
  if lo < hi then
    let mid := (lo + hi) / 2
    match ranges[mid]? with
    | none => false
    | some (first, last) =>
      if n < first then inRangesBetween ranges n lo mid
      else if last < n then inRangesBetween ranges n (mid + 1) hi
      else true
  else false
termination_by hi - lo
decreasing_by all_goals omega

/-- Whether `n` lies in one of the ranges of an ascending table. -/
def inRanges (ranges : Array (Nat × Nat)) (n : Nat) : Bool :=
  inRangesBetween ranges n 0 ranges.size

end AdmissionGate.Text
