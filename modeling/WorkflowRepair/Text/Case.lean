import WorkflowRepair.Text.Ranges
import WorkflowRepair.Text.CaseTable

/-!
Lower-casing of a whole text. Every character maps on its own, except the capital sigma, which has
another lower-case letter at the end of a word.
-/

namespace WorkflowRepair.Text

/-- The distance to the lower-case letter of a code point, where there is one. -/
def lowerShift? : List LowerRun → Nat → Option Int
  | [], _ => none
  | run :: rest, n =>
    if n < run.first then none
    else if n ≤ run.last then
      if (n - run.first) % run.step == 0 then some run.shift else none
    else lowerShift? rest n

/-- Whether the first character that is not passed over has case. -/
def startsCased : List Char → Bool
  | [] => false
  | c :: rest =>
    if inRanges ignorableRanges c.toNat then startsCased rest else inRanges casedRanges c.toNat

/-- The lower-case form of a character between the ones before it, last first, and the ones after.
-/
def lowerAt (before : List Char) (c : Char) (after : List Char) : List Char :=
  if c = 'Σ' then
    if startsCased before && !startsCased after then ['ς'] else ['σ']
  else if c = 'İ' then ['i', '\u0307']
  else match lowerShift? lowerRuns c.toNat with
    | some shift => [Char.ofNat ((c.toNat : Int) + shift).toNat]
    | none => [c]

def lowerAfter (before : List Char) : List Char → List Char
  | [] => []
  | c :: rest => lowerAt before c rest ++ lowerAfter (c :: before) rest

def lower (s : String) : String := String.ofList (lowerAfter [] s.toList)

end WorkflowRepair.Text
