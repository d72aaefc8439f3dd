import WorkflowRepair.Text.Half
import WorkflowRepair.Text.Ranges
import WorkflowRepair.Text.PrintableTable

/-!
Text in quotes for messages: single quotes, or double ones when the text holds a single quote and no
double one. The quote, the backslash and what has no visible form are written with a backslash.
-/

namespace WorkflowRepair.Text

/-- The hexadecimal digits of a number, padded on the left. -/
def hexPadded (width n : Nat) : List Char :=
  let digits := Nat.toDigits 16 n
  List.replicate (width - digits.length) '0' ++ digits

/-- One character between the given quotes; for the character of a half stands its code. -/
def quotedChar (quote c : Char) : List Char :=
  let n := (halfCode? c).getD c.toNat
  if c = quote ∨ c = '\\' then ['\\', c]
  else if c = '\n' then ['\\', 'n']
  else if c = '\r' then ['\\', 'r']
  else if c = '\t' then ['\\', 't']
  else if !inRanges hiddenRanges n then [c]
  else if n < 0x100 then '\\' :: 'x' :: hexPadded 2 n
  else if n < 0x10000 then '\\' :: 'u' :: hexPadded 4 n
  else '\\' :: 'U' :: hexPadded 8 n

def quoted (s : String) : String :=
  let cs := s.toList
  let quote := if cs.contains '\'' && !cs.contains '"' then '"' else '\''
  String.ofList (quote :: cs.flatMap (quotedChar quote) ++ [quote])

end WorkflowRepair.Text
