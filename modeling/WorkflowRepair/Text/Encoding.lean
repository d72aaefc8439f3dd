import WorkflowRepair.Text.Half

/-!
Texts as bytes. Which encoding a text has is seen from the zeros among its first bytes. Units of two
bytes that are half a pair and stand alone are kept as halves.
-/

namespace WorkflowRepair.Text

/-- How a text is written as bytes. -/
inductive Encoding where
  | utf8
  | utf16 (bigEndian : Bool)
  | utf32 (bigEndian : Bool)
deriving DecidableEq, Repr

/-- The encoding that the first bytes of a text show. -/
def Encoding.ofBytes : List UInt8 → Encoding
  | a :: b :: c :: d :: _ =>
    if a = 0 then if b = 0 then .utf32 true else .utf16 true
    else if b = 0 then if c = 0 && d = 0 then .utf32 false else .utf16 false
    else .utf8
  | [a, b] => if a = 0 then .utf16 true else if b = 0 then .utf16 false else .utf8
  | _ => .utf8

/-- The units of two bytes; no byte may be left. -/
def units16? (bigEndian : Bool) : List UInt8 → Option (List Nat)
  | [] => some []
  | a :: b :: rest =>
    let unit := if bigEndian then a.toNat * 256 + b.toNat else b.toNat * 256 + a.toNat
    (units16? bigEndian rest).map (unit :: ·)
  | [_] => none

/-- The units of four bytes; no byte may be left. -/
def units32? (bigEndian : Bool) : List UInt8 → Option (List Nat)
  | [] => some []
  | a :: b :: c :: d :: rest =>
    let bytes := if bigEndian then [a, b, c, d] else [d, c, b, a]
    let unit := bytes.foldl (fun n byte => n * 256 + byte.toNat) 0
    (units32? bigEndian rest).map (unit :: ·)
  | _ => none

/-- The characters of units of two bytes; two units may be a pair. -/
def ofUnits16 : List Nat → List Char
  | [] => []
  | [unit] => [charOf unit]
  | high :: low :: rest =>
    if 0xD800 ≤ high && high ≤ 0xDBFF && 0xDC00 ≤ low && low ≤ 0xDFFF then
      Char.ofNat (0x10000 + (high - 0xD800) * 0x400 + (low - 0xDC00)) :: ofUnits16 rest
    else charOf high :: ofUnits16 (low :: rest)

/-- The characters of units of four bytes, each of which has to be a code. -/
def ofUnits32? (units : List Nat) : Option (List Char) :=
  if units.all (· ≤ 0x10FFFF) then some (units.map charOf) else none

/-- A text as bytes, read again in the encoding that its first bytes show; a mark that opens it is
left out. -/
def reread (s : String) : Option (List Char) :=
  let bytes := s.toUTF8.toList
  match s.toList with
  | '\ufeff' :: rest => some rest
  | cs =>
    match Encoding.ofBytes bytes with
    | .utf8 => some cs
    | .utf16 bigEndian => (units16? bigEndian bytes).map ofUnits16
    | .utf32 bigEndian => (units32? bigEndian bytes).bind ofUnits32?

end WorkflowRepair.Text
