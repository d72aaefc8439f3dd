import WorkflowRepair.Yaml.Scalar
import WorkflowRepair.Text.Numeral

/-!
The kinds of nodes. A tag names a kind; a plain scalar without a tag has the kind of which it has
the shape: nothing, a boolean, a number or a moment, and a text when it is none of these. One end of
a line behind such a scalar is passed over.
-/

namespace WorkflowRepair.Yaml

/-- The kind of a node. -/
inductive Kind where
  | null
  | bool
  | int
  | float
  | binary
  | moment
  | orderedMap
  | pairs
  | set
  | text
  | sequence
  | mapping
  | merge
  | value
  | unknown
deriving DecidableEq, Repr, Inhabited

/-! ### Shapes of plain scalars -/

def isDigitOrGap (c : Char) : Bool := c.isDigit || c = '_'

/-- Whether a number begins with the characters: a digit, and then digits and gaps. -/
def isGapped : List Char → Bool
  | [] => false
  | c :: rest => c.isDigit && rest.all isDigitOrGap

def isRun (p : Char → Bool) (cs : List Char) : Bool := !cs.isEmpty && cs.all p

def colonParts : List Char → List (List Char)
  | [] => [[]]
  | c :: rest =>
    if c = ':' then [] :: colonParts rest
    else match colonParts rest with
      | part :: more => (c :: part) :: more
      | [] => [[c]]

/-- Whether the characters write a place of base sixty. -/
def isSixtieth : List Char → Bool
  | [c] => c.isDigit
  | [c, d] => '0' ≤ c && c ≤ '5' && d.isDigit
  | _ => false

/-- Whether places of base sixty stand behind a first number. -/
def isSixtieths (cs : List Char) : Bool :=
  match colonParts cs with
  | first :: second :: more => isGapped first && (second :: more).all isSixtieth
  | _ => false

/-- Whether a text has the shape of nothing. -/
def isNull (s : String) : Bool := ["", "~", "null", "Null", "NULL"].contains s

/-- Whether a text has the shape of a boolean. -/
def isBool (s : String) : Bool :=
  ["yes", "Yes", "YES", "no", "No", "NO", "true", "True", "TRUE", "false", "False", "FALSE",
    "on", "On", "ON", "off", "Off", "OFF"].contains s

/-- Whether characters without a sign have the shape of an integer. -/
def isWhole (cs : List Char) : Bool :=
  match cs with
  | '0' :: 'b' :: digits => isRun (fun c => c = '0' || c = '1' || c = '_') digits
  | '0' :: 'x' :: digits => isRun (fun c => (hexValue? c).isSome || c = '_') digits
  | '0' :: digits => digits.all fun c => ('0' ≤ c && c ≤ '7') || c = '_'
  | cs => isGapped cs || isSixtieths cs

/-- Whether a text has the shape of an integer. -/
def isInt (s : String) : Bool := isWhole (Text.signed s.toList).2

/-- Whether characters have the shape of an exponent, whose sign may not be left out, or of none. -/
def isExponent : List Char → Bool
  | [] => true
  | mark :: sign :: digits =>
    (mark = 'e' || mark = 'E') && (sign = '+' || sign = '-') && isRun Char.isDigit digits
  | _ => false

/-- Whether characters without a sign have the shape of a decimal with digits before the point. -/
def isDecimal (cs : List Char) : Bool :=
  let isWholePart : Char → Bool := fun c => isDigitOrGap c || c = ':'
  let whole := cs.takeWhile isWholePart
  match cs.dropWhile isWholePart with
  | '.' :: behind =>
    (isGapped whole && isExponent (behind.dropWhile isDigitOrGap))
      || (isSixtieths whole && behind.all isDigitOrGap)
  | _ => false

/-- Whether characters have the shape of a decimal that begins with its point. -/
def isFraction : List Char → Bool
  | '.' :: c :: behind => c.isDigit && isExponent (behind.dropWhile isDigitOrGap)
  | _ => false

/-- Whether a text has the shape of a decimal. -/
def isFloat (s : String) : Bool :=
  let body := (Text.signed s.toList).2
  isDecimal body || isFraction s.toList
    || [".inf", ".Inf", ".INF"].contains (String.ofList body)
    || [".nan", ".NaN", ".NAN"].contains s

/-! ### Moments -/

/-- The offset of a zone: whether it is behind, hours and minutes. -/
structure Zone where
  negative : Bool
  hours : Nat
  minutes : Nat
deriving DecidableEq, Repr

/-- A time of day. -/
structure Time where
  hour : Nat
  minute : Nat
  second : Nat
  zone : Option Zone := none
deriving DecidableEq, Repr

/-- A day, and a time on it. -/
structure Moment where
  year : Nat
  month : Nat
  day : Nat
  time : Option Time := none
deriving DecidableEq, Repr

/-- A number of few digits, and what is left behind it. -/
def fewDigits? (least most : Nat) (cs : List Char) : Option (Nat × List Char) :=
  let digits := (cs.take most).takeWhile Char.isDigit
  if least ≤ digits.length then some (Text.digitsValue 10 digits, cs.drop digits.length) else none

/-- What is left behind a character. -/
def behindChar? (ch : Char) : List Char → Option (List Char)
  | [] => none
  | c :: rest => if c = ch then some rest else none

/-- The offset that characters write, when they write one. -/
def zone? (cs : List Char) : Option (Option Zone) :=
  match cs.dropWhile isIndent with
  | [] => if cs.isEmpty then some none else none
  | ['Z'] => some none
  | sign :: rest =>
    if sign ≠ '+' && sign ≠ '-' then none
    else match fewDigits? 1 2 rest with
      | some (hours, []) => some (some ⟨sign = '-', hours, 0⟩)
      | some (hours, more) =>
        match (behindChar? ':' more).bind (fewDigits? 2 2) with
        | some (minutes, []) => some (some ⟨sign = '-', hours, minutes⟩)
        | _ => none
      | none => none

/-- The time of day that characters write. -/
def time? (cs : List Char) : Option Time := do
  let (hour, cs) ← fewDigits? 1 2 cs
  let (minute, cs) ← (behindChar? ':' cs).bind (fewDigits? 2 2)
  let (second, cs) ← (behindChar? ':' cs).bind (fewDigits? 2 2)
  let zone ← zone? (match cs with
    | '.' :: more => more.dropWhile Char.isDigit
    | cs => cs)
  return ⟨hour, minute, second, zone⟩

/-- The moment that a text writes; a day alone may be written with single digits too. -/
def moment? (s : String) : Option Moment := do
  let (year, cs) ← fewDigits? 4 4 s.toList
  let (month, cs) ← (behindChar? '-' cs).bind (fewDigits? 1 2)
  let (day, cs) ← (behindChar? '-' cs).bind (fewDigits? 1 2)
  let time ← match cs with
    | [] => some none
    | c :: rest =>
      if c = 'T' || c = 't' then (time? rest).map some
      else if isIndent c then (time? (rest.dropWhile isIndent)).map some
      else none
  return ⟨year, month, day, time⟩

/-- Whether a text has the shape of a moment; a day alone is written with ten characters. -/
def isMoment (s : String) : Bool := (moment? s).any fun m => m.time.isSome || s.length = 10

/-! ### Kinds -/

/-- A text without the end of a line behind it. -/
def unended (s : String) : String :=
  if s.endsWith "\n" then (s.dropEnd 1).toString else s

def Kind.ofPlain (s : String) : Kind :=
  let body := unended s
  if s = "\n" then .text
  else if isBool body then .bool
  else if isFloat body then .float
  else if isInt body then .int
  else if body = "<<" then .merge
  else if isNull body then .null
  else if isMoment body then .moment
  else if body = "=" then .value
  else if ["!", "&", "*"].contains body then .unknown
  else .text

/-- The kinds by what their tags end with. -/
def kindNames : List (String × Kind) := [
  ("null", .null), ("bool", .bool), ("int", .int), ("float", .float), ("binary", .binary),
  ("timestamp", .moment), ("omap", .orderedMap), ("pairs", .pairs), ("set", .set), ("str", .text),
  ("seq", .sequence), ("map", .mapping), ("merge", .merge), ("value", .value)]

def tagStem : String := "tag:yaml.org,2002:"

def Kind.ofTag (tag : String) : Kind :=
  ((kindNames.find? fun k => tagStem ++ k.1 = tag).map Prod.snd).getD .unknown

end WorkflowRepair.Yaml
