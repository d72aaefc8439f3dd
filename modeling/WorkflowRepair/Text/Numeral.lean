import WorkflowRepair.Number.Double
import WorkflowRepair.Text.Blank
import WorkflowRepair.Text.DigitTable

/-!
Numerals: whole numbers to a base and decimals, with the digits of any script, a sign, and space
around them. A whole number to base ten may have at most 4300 digits.
-/

namespace WorkflowRepair.Text

def decimalDigit? (c : Char) : Option Nat :=
  (digitZeros.find? fun first => first ≤ c.toNat && c.toNat ≤ first + 9).map (c.toNat - ·)

/-- The plain character for one of a numeral: a digit or a space, or a mark that no numeral has. -/
def plainChar (c : Char) : Char :=
  if c.toNat < 0x7F then c
  else if isBlank c then ' '
  else match decimalDigit? c with
    | some d => Char.ofNat ('0'.toNat + d)
    | none => '?'

/-- Whether a character may stand around a numeral. -/
def isPadding (c : Char) : Bool := c = ' ' || ('\t' ≤ c && c ≤ '\r')

/-- The characters of a numeral in plain writing, without the padding in front. -/
def plainNumeral (cs : List Char) : List Char :=
  (if cs.all (·.toNat < 0x80) then cs else cs.map plainChar).dropWhile isPadding

/-- Whether there is a minus in front, and what follows the sign. -/
def signed : List Char → Bool × List Char
  | '-' :: rest => (true, rest)
  | '+' :: rest => (false, rest)
  | cs => (false, cs)

/-- The value of a digit, letters included. -/
def digitValue (c : Char) : Nat :=
  if c.isDigit then c.toNat - '0'.toNat
  else if c.isAlpha then c.toLower.toNat - 'a'.toNat + 10
  else 36

def digitsValue (base : Nat) (cs : List Char) : Nat :=
  cs.foldl (fun n c => n * base + digitValue c) 0

def behindMark (base : Nat) (cs : List Char) : List Char :=
  match cs with
  | '0' :: mark :: rest =>
    if [(2, 'b'), (8, 'o'), (16, 'x')].contains (base, mark.toLower) then rest else cs
  | cs => cs

/-- Why characters are no whole number. -/
inductive NumeralError where
  | malformed
  | tooManyDigits (count : Nat)
deriving DecidableEq, Repr

/-- The greatest number of digits to base ten. -/
def numeralLimit : Nat := 4300

def readWhole (base : Nat) (cs : List Char) : Except NumeralError Int :=
  let (negative, body) := signed (plainNumeral cs)
  let body := behindMark base body
  let digits := body.takeWhile fun c => digitValue c < base
  if base = 10 && digits.length > numeralLimit then .error (.tooManyDigits digits.length)
  else if digits.isEmpty || !(body.drop digits.length).all isPadding then .error .malformed
  else
    let n : Int := digitsValue base digits
    .ok (if negative then -n else n)

/-- The exponent at the end of a decimal; without a mark it is zero. -/
def readPower : List Char → Option Int
  | [] => some 0
  | c :: rest =>
    let (negative, digits) := signed rest
    if c.toLower = 'e' && !digits.isEmpty && digits.all Char.isDigit then
      let n : Int := digitsValue 10 digits
      some (if negative then -n else n)
    else none

/-- The decimal that characters without sign and padding write. -/
def readUnsignedDecimal (negative : Bool) (cs : List Char) : Option Double :=
  let word := String.ofList (cs.map Char.toLower)
  if word = "inf" || word = "infinity" then some (.infinite negative)
  else if word = "nan" then some .nan
  else
    let whole := cs.takeWhile Char.isDigit
    let (places, rest) := match cs.dropWhile Char.isDigit with
      | '.' :: behind => (behind.takeWhile Char.isDigit, behind.dropWhile Char.isDigit)
      | rest => ([], rest)
    if whole.isEmpty && places.isEmpty then none
    else (readPower rest).map fun power =>
      Double.ofDecimal negative (digitsValue 10 (whole ++ places)) (power - places.length)

/-- The decimal that characters write. -/
def readDecimal (cs : List Char) : Option Double :=
  let (negative, body) := signed (plainNumeral cs)
  readUnsignedDecimal negative (body.reverse.dropWhile isPadding).reverse

end WorkflowRepair.Text
