import WorkflowRepair.Json
import WorkflowRepair.Text.Half

/-!
Reading a document from a text. Every reading step hands back a rest that is shorter than what it
was given, which is why the mutual recursion ends. A failure is reported with the position at
which the text stops being a document. The words `NaN`, `Infinity` and `-Infinity` are numbers, an
integer may have at most 4300 digits, and a repeated key keeps its first place and its last value.
-/

namespace WorkflowRepair

/-- Why a text is not a document. -/
inductive ReadError where
  | malformed (position : Nat)
  | tooManyDigits
deriving DecidableEq, Repr

namespace Json

/-- A failure inside a text: either where, as the number of characters left there, or a limit. -/
inductive Failure where
  | left (count : Nat)
  | tooManyDigits
deriving DecidableEq, Repr

/-- A value read from the front of some characters, and what is left of them. -/
structure Front (α : Type) (cs : List Char) where
  value : α
  rest : List Char
  shorter : rest.length < cs.length

abbrev Reading (α : Type) (cs : List Char) := Except Failure (Front α cs)

/-- The failure at the front of the given characters. -/
def failAt {ε : Type} (cs : List Char) : Except Failure ε := .error (.left cs.length)

/-- Whether a character may stand between the parts of a document. -/
def isSpace (c : Char) : Bool := c = ' ' ∨ c = '\t' ∨ c = '\n' ∨ c = '\r'

/-- The characters behind leading space. -/
def skipSpace (cs : List Char) : List Char := cs.dropWhile isSpace

theorem length_skipSpace_le (cs : List Char) : (skipSpace cs).length ≤ cs.length :=
  (List.dropWhile_sublist isSpace).length_le

/-- The greatest number of digits of an integer. -/
def digitLimit : Nat := 4300

/-- Whether a character is a decimal digit. -/
def isDigit (c : Char) : Bool := '0' ≤ c ∧ c ≤ '9'

def digitsValue (cs : List Char) : Nat :=
  cs.foldl (fun n c => 10 * n + (c.toNat - '0'.toNat)) 0

/-- The fraction digits behind a point, when there are any, and what is left. -/
def readFraction (cs : List Char) : Option (List Char × List Char) :=
  match cs with
  | '.' :: rest =>
    let digits := rest.takeWhile isDigit
    if digits.isEmpty then none else some (digits, rest.dropWhile isDigit)
  | _ => none

/-- The exponent behind its mark, when it has digits, and what is left. -/
def readExponent (cs : List Char) : Option (Int × List Char) :=
  match cs with
  | c :: rest =>
    if c = 'e' ∨ c = 'E' then
      let (negative, body) := match rest with
        | '-' :: more => (true, more)
        | '+' :: more => (false, more)
        | more => (false, more)
      let digits := body.takeWhile isDigit
      if digits.isEmpty then none
      else
        let n : Int := digitsValue digits
        some (if negative then -n else n, body.dropWhile isDigit)
    else none
  | [] => none

/-- The digits of the whole part of a number: a single zero, or digits that do not begin with one.
-/
def wholeDigits (cs : List Char) : List Char :=
  match cs with
  | [] => []
  | c :: rest => if c = '0' then [c] else if isDigit c then c :: rest.takeWhile isDigit else []

/-- A number without its sign, and what is left. -/
def readUnsigned (negative : Bool) (cs : List Char) :
    Except Failure (Option (Number × List Char)) :=
  let whole := wholeDigits cs
  if whole.isEmpty then .ok none
  else
    let afterWhole := cs.drop whole.length
    let fraction := readFraction afterWhole
    let afterFraction := (fraction.map Prod.snd).getD afterWhole
    let exponent := readExponent afterFraction
    let rest := (exponent.map Prod.snd).getD afterFraction
    if fraction.isNone && exponent.isNone then
      if whole.length > digitLimit then .error .tooManyDigits
      else
        let n : Int := digitsValue whole
        .ok (some (.int (if negative then -n else n), rest))
    else
      let places := (fraction.map Prod.fst).getD []
      let power := (exponent.map Prod.fst).getD 0 - (places.length : Int)
      .ok (some (.double (Double.ofDecimal negative (digitsValue (whole ++ places)) power), rest))

/-- The rest handed back by a reader, when it is shorter than the characters it was given. -/
def front {α : Type} (cs : List Char) (value : α) (rest : List Char) : Reading α cs :=
  if h : rest.length < cs.length then .ok ⟨value, rest, h⟩ else failAt cs

/-- What follows a word at the front of the characters. -/
def afterWord? (word : String) (cs : List Char) : Option (List Char) :=
  if word.toList.isPrefixOf cs then some (cs.drop word.length) else none

def wordValues : List (String × Json) := [
  ("null", .null), ("true", .bool true), ("false", .bool false),
  ("NaN", .num (.double .nan)), ("Infinity", .num (.double (.infinite false))),
  ("-Infinity", .num (.double (.infinite true)))]

/-- A word or a number at the front of the characters. -/
def readScalar (cs : List Char) : Reading Json cs :=
  match wordValues.findSome? fun (word, value) => (afterWord? word cs).map ((value, ·)) with
  | some (value, rest) => front cs value rest
  | none =>
    let (negative, body) := match cs with
      | '-' :: rest => (true, rest)
      | _ => (false, cs)
    match readUnsigned negative body with
    | .error e => .error e
    | .ok none => failAt cs
    | .ok (some (n, rest)) => front cs (.num n) rest

/-- The value of a hexadecimal digit. -/
def hexDigit? (c : Char) : Option Nat :=
  if isDigit c then some (c.toNat - '0'.toNat)
  else if 'a' ≤ c ∧ c ≤ 'f' then some (c.toNat - 'a'.toNat + 10)
  else if 'A' ≤ c ∧ c ≤ 'F' then some (c.toNat - 'A'.toNat + 10)
  else none

/-- The value of four hexadecimal digits that something follows. -/
def hexQuad? (cs : List Char) : Option (Nat × List Char) :=
  match cs with
  | a :: b :: c :: d :: e :: rest => do
    let a ← hexDigit? a
    let b ← hexDigit? b
    let c ← hexDigit? c
    let d ← hexDigit? d
    some (((a * 16 + b) * 16 + c) * 16 + d, e :: rest)
  | _ => none

/-- The character written by four digits, or by two such groups that form a pair. -/
def readUnit (cs : List Char) : Except Failure (Char × List Char) :=
  match hexQuad? cs with
  | none => .error (.left (cs.length + 1))
  | some (high, rest) =>
    if 0xD800 ≤ high ∧ high ≤ 0xDBFF then
      match rest with
      | '\\' :: 'u' :: body =>
        if body.length < 5 then .ok (Text.charOf high, rest)
        else match hexQuad? body with
          | none => .error (.left (body.length + 1))
          | some (low, rest') =>
            if 0xDC00 ≤ low ∧ low ≤ 0xDFFF then
              .ok (Char.ofNat (0x10000 + (high - 0xD800) * 0x400 + (low - 0xDC00)), rest')
            else .ok (Text.charOf high, rest)
      | _ => .ok (Text.charOf high, rest)
    else .ok (Text.charOf high, rest)

/-- The character written by a backslash and the given character. -/
def simpleEscape? (c : Char) : Option Char :=
  match c with
  | '"' => some '"'
  | '\\' => some '\\'
  | '/' => some '/'
  | 'b' => some '\x08'
  | 'f' => some '\x0c'
  | 'n' => some '\n'
  | 'r' => some '\r'
  | 't' => some '\t'
  | _ => none

/-- The characters of a string up to its closing quote; `opening` counts the characters from the
opening quote on, where an unclosed string is reported. -/
def readString (opening : Nat) : (cs : List Char) → Except Failure (List Char × List Char)
  | [] => .error (.left opening)
  | c :: rest =>
    if c = '"' then .ok ([], rest)
    else if c = '\\' then
      match rest with
      | [] => .error (.left opening)
      | e :: body =>
        if e = 'u' then
          match readUnit body with
          | .error f => .error f
          | .ok (u, rest') =>
            if rest'.length < body.length + 1 then
              match readString opening rest' with
              | .error f => .error f
              | .ok (s, rest'') => .ok (u :: s, rest'')
            else .error (.left opening)
        else match simpleEscape? e with
          | none => .error (.left (body.length + 2))
          | some u =>
            match readString opening body with
            | .error f => .error f
            | .ok (s, rest') => .ok (u :: s, rest')
    else if c.toNat < 0x20 then .error (.left (rest.length + 1))
    else match readString opening rest with
      | .error f => .error f
      | .ok (s, rest') => .ok (c :: s, rest')
termination_by cs => cs.length
decreasing_by all_goals (simp only [List.length_cons]; omega)

mutual

/-- The document at the front of the characters. -/
def readValue (cs : List Char) : Reading Json cs :=
  match cs with
  | '"' :: rest =>
    match readString (rest.length + 1) rest with
    | .error f => .error f
    | .ok (s, rest') => front _ (.str (String.ofList s)) rest'
  | '\x7b' :: rest =>
    match h : skipSpace rest with
    | '\x7d' :: rest' => front _ (.obj []) rest'
    | body =>
      have hlen : body.length ≤ rest.length := h ▸ length_skipSpace_le rest
      match readMembers body with
      | .error f => .error f
      | .ok m => .ok ⟨.obj (Members.update [] m.value), m.rest, by
          have := m.shorter
          simp only [List.length_cons]
          omega⟩
  | '[' :: rest =>
    match h : skipSpace rest with
    | ']' :: rest' => front _ (.arr []) rest'
    | body =>
      have hlen : body.length ≤ rest.length := h ▸ length_skipSpace_le rest
      match readItems body with
      | .error f => .error f
      | .ok m => .ok ⟨.arr m.value, m.rest, by
          have := m.shorter
          simp only [List.length_cons]
          omega⟩
  | cs => readScalar cs
termination_by (cs.length, 0)

/-- One or more items and the closing bracket. -/
def readItems (cs : List Char) : Reading (List Json) cs :=
  match readValue cs with
  | .error f => .error f
  | .ok item =>
    match h : skipSpace item.rest with
    | ']' :: rest => front _ [item.value] rest
    | ',' :: rest =>
      have hrest : rest.length < cs.length := by
        have h₁ := length_skipSpace_le item.rest
        have h₂ := item.shorter
        rw [h, List.length_cons] at h₁
        omega
      have hskip : (skipSpace rest).length < cs.length :=
        Nat.lt_of_le_of_lt (length_skipSpace_le rest) hrest
      match readItems (skipSpace rest) with
      | .error f => .error f
      | .ok more => .ok ⟨item.value :: more.value, more.rest, Nat.lt_trans more.shorter hskip⟩
    | other => failAt other
termination_by (cs.length, 1)

/-- One or more members and the closing brace. -/
def readMembers (cs : List Char) : Reading Members cs :=
  match cs with
  | '"' :: rest =>
    match readString (rest.length + 1) rest with
    | .error f => .error f
    | .ok (key, afterKey) =>
      match skipSpace afterKey with
      | ':' :: afterColon =>
        if hlen : (skipSpace afterColon).length < rest.length + 1 then
          match readValue (skipSpace afterColon) with
          | .error f => .error f
          | .ok value =>
            match h : skipSpace value.rest with
            | '\x7d' :: rest' => front _ [(String.ofList key, value.value)] rest'
            | ',' :: rest' =>
              have hskip : (skipSpace rest').length < rest.length + 1 := by
                have h₁ := length_skipSpace_le value.rest
                have h₂ := value.shorter
                have h₃ := length_skipSpace_le rest'
                rw [h, List.length_cons] at h₁
                omega
              match readMembers (skipSpace rest') with
              | .error f => .error f
              | .ok more =>
                .ok ⟨(String.ofList key, value.value) :: more.value, more.rest,
                  Nat.lt_trans more.shorter (by simpa using hskip)⟩
            | other => failAt other
        else failAt afterColon
      | other => failAt other
  | other => failAt other
termination_by (cs.length, 1)

end

def readChars (cs : List Char) : Except ReadError Json :=
  let position (f : Failure) : ReadError :=
    match f with
    | .left count => .malformed (cs.length - count)
    | .tooManyDigits => .tooManyDigits
  match readValue (skipSpace cs) with
  | .error f => .error (position f)
  | .ok v =>
    let rest := skipSpace v.rest
    if rest.isEmpty then .ok v.value else .error (.malformed (cs.length - rest.length))

def read (s : String) : Except ReadError Json := readChars s.toList

end Json

end WorkflowRepair
