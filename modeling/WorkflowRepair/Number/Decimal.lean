import WorkflowRepair.Number.Double

/-!
The decimal text of a double. The digits are the fewest that round back to the same double, and of
those the nearest to it; both neighbours of the value on each decimal grid are tested exactly. The
text is positional for decimal exponents from -4 to 15 and has an exponent outside that range.
-/

namespace WorkflowRepair

/-- Significant digits with the exponent of the first: `d.ddd · 10^exponent`. -/
structure Decimal where
  digits : List Char
  exponent : Int
deriving DecidableEq, Repr

/-- How a decimal is laid out in a text. -/
structure DecimalLayout where
  leastPositional : Int
  greatestPositional : Int
  exponentMark : Char
  exponentWidth : Nat
deriving DecidableEq, Repr

namespace Decimal

/-- `num / den` times a power of ten, as a quotient. -/
def scaled (num den : Nat) (power : Int) : Nat × Nat :=
  if power ≥ 0 then (num * Nat.pow 10 power.toNat, den) else (num, den * Nat.pow 10 (-power).toNat)

/-- The largest `p` with `10^p ≤ num / den`, found within a few steps of an estimate. -/
def magnitude (num den : Nat) : Int :=
  let estimate : Int := (((Nat.log2 num : Int) - (Nat.log2 den : Int)) * 30103).fdiv 100000 - 2
  let steps : List Nat := (List.range 5).filter fun i =>
    let (n, d) := scaled num den (-(estimate + 1 + (i : Int)))
    n ≥ d
  estimate + (steps.length : Int)

/-- The point of the grid with `count` digits that lies in the rounding interval and is nearest;
of two that are equally near, the one with the even last digit. -/
def onGrid (num den lowNum highNum : Nat) (inclusive : Bool) (p : Int) (count : Nat) :
    Option (Nat × Int) :=
  let power : Int := (count : Int) - 1 - p
  let (n, d) := scaled num den power
  let (low, lowDen) := scaled lowNum den power
  let (high, highDen) := scaled highNum den power
  let inside (x : Nat) : Bool :=
    if inclusive then low ≤ x * lowDen && x * highDen ≤ high
    else low < x * lowDen && x * highDen < high
  let below := n / d
  let above := below + 1
  let twice := 2 * (n - below * d)
  let nearBelow := twice < d || (twice == d && below % 2 == 0)
  if inside below && (nearBelow || !inside above) then some (below, -power)
  else if inside above then some (above, -power)
  else none

/-- The digits of a natural without trailing zeros. -/
def significant (n : Nat) : List Char :=
  let trimmed := ((Nat.toDigits 10 n).reverse.dropWhile (· == '0')).reverse
  if trimmed.isEmpty then ['0'] else trimmed

def shortest (mantissa : Nat) (exponent : Int) : Decimal :=
  if mantissa = 0 then ⟨['0'], 0⟩
  else
    let lowGap := if mantissa = Nat.pow 2 52 && exponent > Double.leastExponent then 1 else 2
    let e := exponent - 2
    let (up, den) := if e ≥ 0 then (Nat.pow 2 e.toNat, 1) else (1, Nat.pow 2 (-e).toNat)
    let num := 4 * mantissa * up
    let low := (4 * mantissa - lowGap) * up
    let high := (4 * mantissa + 2) * up
    let p := magnitude num den
    let grids := (List.range 17).filterMap fun i =>
      onGrid num den low high (mantissa % 2 == 0) p (i + 1)
    match grids.head? with
    | some (n, unit) =>
      ⟨significant n, ((Nat.toDigits 10 n).length : Int) - 1 + unit⟩
    | none => ⟨['0'], 0⟩

def documentLayout : DecimalLayout := ⟨-4, 15, 'e', 2⟩

/-- The digits of a natural, padded with zeros on the left. -/
def padded (width n : Nat) : List Char :=
  let digits := Nat.toDigits 10 n
  List.replicate (width - digits.length) '0' ++ digits

/-- Digits with a point after the first `whole`, and at least one digit on each side. -/
def positional (digits : List Char) (whole : Int) : List Char :=
  if whole ≤ 0 then '0' :: '.' :: List.replicate (-whole).toNat '0' ++ digits
  else
    let w := whole.toNat
    let front := digits.take w ++ List.replicate (w - digits.length) '0'
    let back := digits.drop w
    front ++ '.' :: (if back.isEmpty then ['0'] else back)

/-- The text of an unsigned decimal. -/
def render (layout : DecimalLayout) (d : Decimal) : List Char :=
  if layout.leastPositional ≤ d.exponent ∧ d.exponent ≤ layout.greatestPositional then
    positional d.digits (d.exponent + 1)
  else
    let front := match d.digits with
      | [] => ['0']
      | [c] => [c]
      | c :: rest => c :: '.' :: rest
    let sign := if d.exponent < 0 then '-' else '+'
    front ++ layout.exponentMark :: sign :: padded layout.exponentWidth d.exponent.natAbs

end Decimal

def Double.render : Double → String
  | .nan => "NaN"
  | .infinite negative => if negative then "-Infinity" else "Infinity"
  | .finite negative m e =>
    let body := String.ofList (Decimal.render Decimal.documentLayout (Decimal.shortest m e))
    if negative then "-" ++ body else body

end WorkflowRepair
