/-!
Halves of pairs. A text may ask for the code of half a pair of units, which is no character. Such a
half is kept as a character of private use, so that different halves stay different characters.

This has a price. The characters from U+10D800 to U+10DFFF are kept for halves, so that one of them
that stands in a text itself is taken for its half. And a half comes behind all characters below
that range, where its code comes before those from U+E000 on. All other codes stay apart and keep
their order.
-/

namespace WorkflowRepair.Text

def isHalfCode (n : Nat) : Bool := 0xD800 ≤ n && n ≤ 0xDFFF

/-- The distance from the code of a half to its private character. -/
def halfShift : Nat := 0x100000

/-- The character of a code; the one of a half is private. -/
def charOf (n : Nat) : Char := Char.ofNat (if isHalfCode n then halfShift + n else n)

def halfCode? (c : Char) : Option Nat :=
  if halfShift ≤ c.toNat && isHalfCode (c.toNat - halfShift) then some (c.toNat - halfShift)
  else none

def holdsHalf (s : String) : Bool := s.toList.any fun c => (halfCode? c).isSome

end WorkflowRepair.Text
