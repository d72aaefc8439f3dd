import WorkflowRepair.Text.Ranges
import WorkflowRepair.Text.WordTable

/-!
Word characters: letters and numerals of any script, and the low line.
-/

namespace WorkflowRepair.Text

/-- Whether a character belongs to a word. -/
def isWord (c : Char) : Bool := inRanges wordRanges c.toNat

end WorkflowRepair.Text
