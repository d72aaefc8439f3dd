import WorkflowRepair.Json
import WorkflowRepair.Text.Base64
import WorkflowRepair.Text.Case
import WorkflowRepair.Yaml.Kind

/-!
The values of scalars by their kinds. A tag may ask for more than the plain shapes of its kind, so
every reading here may fail. Moments and bytes, which no document holds, become null.
-/

namespace WorkflowRepair.Yaml

/-- The booleans by their words. -/
def boolWords : List (String × Bool) := [
  ("yes", true), ("no", false), ("true", true), ("false", false), ("on", true), ("off", false)]

/-- The boolean that a word in any case writes. -/
def boolValue (s : String) : Except ReadError Bool :=
  let word := Text.lower s
  match boolWords.lookup word with
  | some b => .ok b
  | none => failWith (.unknownWord word)

/-- The characters of a number without the gaps in it. -/
def ungapped (s : String) : List Char := s.toList.filter (· ≠ '_')

def wholeValue (base : Nat) (cs : List Char) : Except ReadError Int :=
  match Text.readWhole base cs with
  | .ok n => .ok n
  | .error .malformed => failWith (.noInteger base (String.ofList cs))
  | .error (.tooManyDigits count) => failWith (.tooManyDigits count)

/-- The integer that characters without a sign write: the base is known from their beginning, and
colons separate the places of base sixty. -/
def unsignedValue (cs : List Char) : Except ReadError Int :=
  match cs with
  | [] => failWith .noText
  | '0' :: 'b' :: digits => wholeValue 2 digits
  | '0' :: 'x' :: digits => wholeValue 16 digits
  | '0' :: _ => wholeValue 8 cs
  | cs => do
    let places ← (colonParts cs).mapM (wholeValue 10)
    return places.foldl (fun n place => n * 60 + place) 0

/-- The integer that a text writes. -/
def intValue (s : String) : Except ReadError Int := do
  let (negative, body) := Text.signed (ungapped s)
  let n ← unsignedValue body
  return if negative then -n else n

/-- The decimal that characters write. -/
def decimalValue (cs : List Char) : Except ReadError Double :=
  match Text.readDecimal cs with
  | some d => .ok d
  | none => failWith (.noNumber (String.ofList cs))

/-- The sum of places of base sixty, the last one first, from a place of the given weight on. -/
def addPlaces (weight : Nat) (sum : Double) : List Double → Except ReadError Double
  | [] => .ok sum
  | place :: more =>
    if Double.holdsInt weight then
      addPlaces (weight * 60) (sum.add (place.mul (.ofQuotient false weight 1))) more
    else failWith .tooLarge

/-- The decimal that characters without a sign write. -/
def unsignedDecimal (cs : List Char) : Except ReadError Double :=
  if cs = ".inf".toList then .ok (.infinite false)
  else if cs = ".nan".toList then .ok .nan
  else if cs.contains ':' then do
    let places ← (colonParts cs).mapM decimalValue
    addPlaces 1 (Double.zero false) places.reverse
  else decimalValue cs

/-- The decimal that a text writes in any case. -/
def floatValue (s : String) : Except ReadError Double := do
  let cs := (Text.lower (String.ofList (ungapped s))).toList
  if cs.isEmpty then failWith .noText
  else
    let (negative, body) := Text.signed cs
    let d ← unsignedDecimal body
    return if negative then d.neg else d

namespace Moment

def daysOf (year month : Nat) : Nat :=
  if month = 2 then
    if year % 4 = 0 && (year % 100 ≠ 0 || year % 400 = 0) then 29 else 28
  else if [4, 6, 9, 11].contains month then 30
  else 31

def minutesOf (zone : Zone) : Int :=
  let minutes : Int := zone.hours * 60 + zone.minutes
  if zone.negative then -minutes else minutes

def timeFault? (time : Time) : Option MomentPart :=
  if time.hour > 23 then some .hour
  else if time.minute > 59 then some .minute
  else if time.second > 59 then some .second
  else none

/-- The part of a moment that is out of range; the offset counts first. -/
def fault? (m : Moment) : Option MomentPart :=
  match (m.time.bind Time.zone).map minutesOf with
  | some minutes => if minutes.natAbs ≥ 1440 then some (.zone minutes) else dateFault?
  | none => dateFault?
where
  /-- The part of the day or of the time that is out of range. -/
  dateFault? : Option MomentPart :=
    if m.year = 0 then some .year
    else if m.month = 0 || m.month > 12 then some .month
    else if m.day = 0 || m.day > daysOf m.year m.month then some .day
    else m.time.bind timeFault?

end Moment

/-- Whether a text writes a moment, and what is wrong if it does not. -/
def checkMoment (s : String) : Except ReadError Unit :=
  match moment? (unended s) with
  | none => failWith .noMoment
  | some m =>
    match m.fault? with
    | some part => failWith (.badMoment part)
    | none => .ok ()

/-- The value of a text as a scalar of a kind, when scalars of that kind have one. -/
def scalarValue (kind : Kind) (start : Position) (s : String) : Except ReadError Json :=
  match kind with
  | .null => .ok .null
  | .bool => (boolValue s).map .bool
  | .int => (intValue s).map .ofInt
  | .float => (floatValue s).map fun d => .num (.double d)
  | .binary => if Text.isBase64 s then .ok .null else failAt start
  | .moment => (checkMoment s).map fun _ => .null
  | .text => .ok (.str s)
  | .orderedMap | .pairs | .set | .sequence | .mapping | .merge | .value | .unknown => failAt start

end WorkflowRepair.Yaml
