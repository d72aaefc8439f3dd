/-!
Sets of code points written as ascending ranges.
-/

namespace WorkflowRepair.Text

/-- Whether a code point lies in one of the ranges; the search stops at the first range above it. -/
def inRanges : List (Nat × Nat) → Nat → Bool
  | [], _ => false
  | (first, last) :: rest, n => if n < first then false else n ≤ last || inRanges rest n

end WorkflowRepair.Text
