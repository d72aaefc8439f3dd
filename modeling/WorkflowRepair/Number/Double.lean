/-!
Double-precision numbers as data: a finite one is `(-1)^negative · mantissa · 2^exponent`. They are
made by rounding a quotient of naturals to the nearest representable value, a half going to the even
mantissa, so reading a decimal is exact arithmetic followed by one rounding.
-/

namespace WorkflowRepair

/-- A double-precision number. -/
inductive Double where
  | nan
  | infinite (negative : Bool)
  | finite (negative : Bool) (mantissa : Nat) (exponent : Int)
deriving DecidableEq, Repr, Inhabited

namespace Double

/-- The number of bits of a full mantissa. -/
def precision : Nat := 53

def leastExponent : Int := -1074

def greatestExponent : Int := 971

def zero (negative : Bool) : Double := .finite negative 0 leastExponent

/-- The quotient rounded to the nearest natural, a half to the even neighbour. -/
def roundQuotient (num den : Nat) : Nat :=
  let quotient := num / den
  let rest := num % den
  if 2 * rest > den || (2 * rest == den && quotient % 2 == 1) then quotient + 1 else quotient

/-- The exponent at which `num / den` has a full mantissa, but not below the least one. -/
def fittingExponent (num den : Nat) : Int :=
  let k : Int := (Nat.log2 num : Int) - (Nat.log2 den : Int)
  let reaches := if k ≥ 0 then num ≥ den * Nat.pow 2 k.toNat else num * Nat.pow 2 (-k).toNat ≥ den
  let e := if reaches then k - 52 else k - 53
  if e < leastExponent then leastExponent else e

def ofQuotient (negative : Bool) (num den : Nat) : Double :=
  if num = 0 then zero negative
  else
    let e := fittingExponent num den
    let m := if e ≥ 0 then roundQuotient num (den * Nat.pow 2 e.toNat)
      else roundQuotient (num * Nat.pow 2 (-e).toNat) den
    let full := Nat.pow 2 precision
    let (m, e) := if m = full then (full / 2, e + 1) else (m, e)
    if e > greatestExponent then .infinite negative else .finite negative m e

/-- The double nearest to `digits · 10^exponent`, where `width` bounds the digits of `digits`;
far outside the range no power is computed. -/
def ofDecimal (negative : Bool) (digits : Nat) (exponent : Int) : Double :=
  let width : Int := (Nat.toDigits 10 digits).length
  if digits = 0 then zero negative
  else if exponent + width > 400 then .infinite negative
  else if exponent + width < -400 then zero negative
  else if exponent ≥ 0 then ofQuotient negative (digits * Nat.pow 10 exponent.toNat) 1
  else ofQuotient negative digits (Nat.pow 10 (-exponent).toNat)

/-- Whether rounding the integer to a double stays finite. -/
def holdsInt (n : Int) : Bool :=
  n.natAbs < Nat.pow 2 1024 - Nat.pow 2 970

def ofDyadic (negative : Bool) (m : Nat) (e : Int) : Double :=
  if e ≥ 0 then ofQuotient negative (m * Nat.pow 2 e.toNat) 1
  else ofQuotient negative m (Nat.pow 2 (-e).toNat)

/-- The double times a natural, rounded. -/
def mulNat (d : Double) (n : Nat) : Double :=
  match d with
  | .nan => .nan
  | .infinite negative => if n = 0 then .nan else .infinite negative
  | .finite negative m e => ofDyadic negative (m * n) e

/-- The product, rounded. -/
def mul : Double → Double → Double
  | .nan, _ | _, .nan => .nan
  | .infinite a, .infinite b => .infinite (a != b)
  | .infinite a, .finite b m _ | .finite b m _, .infinite a =>
    if m = 0 then .nan else .infinite (a != b)
  | .finite a m e, .finite b n f => ofDyadic (a != b) (m * n) (e + f)

/-- The sum, rounded; only two negative zeros add up to a negative zero. -/
def add : Double → Double → Double
  | .nan, _ | _, .nan => .nan
  | .infinite a, .infinite b => if a = b then .infinite a else .nan
  | .infinite a, .finite .. | .finite .., .infinite a => .infinite a
  | .finite a m e, .finite b n f =>
    let least := if e ≤ f then e else f
    let left : Int := m * Nat.pow 2 (e - least).toNat
    let right : Int := n * Nat.pow 2 (f - least).toNat
    let sum := (if a then -left else left) + (if b then -right else right)
    if sum = 0 then zero (a && b) else ofDyadic (sum < 0) sum.natAbs least

/-- The number with the other sign. -/
def neg : Double → Double
  | .nan => .nan
  | .infinite negative => .infinite !negative
  | .finite negative m e => .finite (!negative) m e

end Double

end WorkflowRepair
