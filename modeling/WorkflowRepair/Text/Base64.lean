/-!
Bytes written to base 64: four characters write three bytes, and equals signs fill up the last four.
Characters that are no digits are passed over.
-/

namespace WorkflowRepair.Text

def isBase64Digit (c : Char) : Bool := c.isAlphanum || c = '+' || c = '/'

/-- Whether characters write whole bytes, `place` digits after the last whole group and behind
`fills` equals signs. -/
def writesBytes (place fills : Nat) : List Char → Bool
  | [] => place = 0
  | c :: rest =>
    if c = '=' then
      if 2 ≤ place then 4 ≤ place + fills + 1 || writesBytes place (fills + 1) rest
      else writesBytes place fills rest
    else if isBase64Digit c then writesBytes ((place + 1) % 4) 0 rest
    else writesBytes place fills rest

def isBase64 (s : String) : Bool :=
  let cs := s.toList
  cs.all (·.toNat < 0x80) && writesBytes 0 0 cs

end WorkflowRepair.Text
