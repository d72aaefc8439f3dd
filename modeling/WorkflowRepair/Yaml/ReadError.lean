import WorkflowRepair.Text.Half
import WorkflowRepair.Text.Quoted
import WorkflowRepair.Yaml.Cursor

/-!
Why a text is not read as YAML: it holds what cannot be printed, it is wrong at a place, or one of
its scalars is not the value that it is taken for.
-/

namespace WorkflowRepair.Yaml

/-- The parts of a moment that may be out of range. -/
inductive MomentPart where
  | year
  | month
  | day
  | hour
  | minute
  | second
  | zone (minutes : Int)
deriving DecidableEq, Repr

/-- Why a scalar is not the value that it is taken for. -/
inductive ValueError where
  | unknownWord (word : String)
  | noText
  | noInteger (base : Nat) (text : String)
  | tooManyDigits (count : Nat)
  | noNumber (text : String)
  | tooLarge
  | noMoment
  | notScalar
  | badMoment (part : MomentPart)
  | noCharacter
  | codeTooLarge
deriving DecidableEq, Repr

/-- A length of time as days and seconds; it is a day at least, in one direction or the other. -/
def spanText (minutes : Int) : String :=
  let days := minutes.fdiv 1440
  let seconds := (minutes - days * 1440) * 60
  "datetime.timedelta(days=" ++ toString days
    ++ (if seconds = 0 then "" else ", seconds=" ++ toString seconds) ++ ")"

def MomentPart.message : MomentPart → String
  | .year => "year 0 is out of range"
  | .month => "month must be in 1..12"
  | .day => "day is out of range for month"
  | .hour => "hour must be in 0..23"
  | .minute => "minute must be in 0..59"
  | .second => "second must be in 0..59"
  | .zone minutes =>
    "offset must be a timedelta strictly between -timedelta(hours=24) and timedelta(hours=24), not "
      ++ spanText minutes ++ "."

/-- How much of a text an error about integers quotes. -/
def quoteLimit : Nat := 200

def ValueError.message : ValueError → String
  | .unknownWord word => Text.quoted word
  | .noText => "string index out of range"
  | .noInteger base text =>
    "invalid literal for int() with base " ++ toString base ++ ": "
      ++ String.ofList ((Text.quoted text).toList.take quoteLimit)
  | .tooManyDigits count =>
    "Exceeds the limit (4300 digits) for integer string conversion: value has " ++ toString count
      ++ " digits; use sys.set_int_max_str_digits() to increase the limit"
  | .noNumber text => "could not convert string to float: " ++ Text.quoted text
  | .tooLarge => "int too large to convert to float"
  | .noMoment => "'NoneType' object has no attribute 'groupdict'"
  | .notScalar => "expected string or bytes-like object, got 'list'"
  | .badMoment part => part.message
  | .noCharacter => "chr() arg not in range(0x110000)"
  | .codeTooLarge => "Python int too large to convert to C int"

/-- Why a text is not read. -/
inductive ReadError where
  | unprintable
  | malformed (place : Position)
  | badValue (error : ValueError)
deriving DecidableEq, Repr

def failAt {α : Type} (place : Position) : Except ReadError α := .error (.malformed place)

/-- The failure of a scalar. -/
def failWith {α : Type} (error : ValueError) : Except ReadError α := .error (.badValue error)

end WorkflowRepair.Yaml
