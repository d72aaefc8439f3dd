import WorkflowRepair.Number.Decimal

/-!
Numbers of a document: integers of any size and doubles, which stay apart. Order and equality
compare the exact values, whatever the two kinds; `NaN` is equal to nothing and below nothing.
-/

namespace WorkflowRepair

/-- A number of a document. -/
inductive Number where
  | int (value : Int)
  | double (value : Double)
deriving DecidableEq, Repr, Inhabited

namespace Number

/-- A value on the extended dyadic line. -/
inductive Extended where
  | undefined
  | below
  | above
  | dyadic (mantissa exponent : Int)
deriving DecidableEq, Repr

/-- The exact value of a number. -/
def extended : Number → Extended
  | .int n => .dyadic n 0
  | .double .nan => .undefined
  | .double (.infinite true) => .below
  | .double (.infinite false) => .above
  | .double (.finite negative m e) => .dyadic (if negative then -(m : Int) else (m : Int)) e

/-- Both mantissas over the smaller of the two exponents. -/
def aligned (m e n f : Int) : Int × Int :=
  let base := if e ≤ f then e else f
  (m * Nat.pow 2 (e - base).toNat, n * Nat.pow 2 (f - base).toNat)

/-- Whether the first value is below the second. -/
def Extended.lt : Extended → Extended → Bool
  | .undefined, _ => false
  | _, .undefined => false
  | .below, .below => false
  | .below, _ => true
  | _, .below => false
  | .above, _ => false
  | _, .above => true
  | .dyadic m e, .dyadic n f =>
    let (a, b) := aligned m e n f
    a < b

def Extended.same : Extended → Extended → Bool
  | .below, .below => true
  | .above, .above => true
  | .dyadic m e, .dyadic n f =>
    let (a, b) := aligned m e n f
    a = b
  | _, _ => false

/-- Whether the first number is less than the second. -/
def lt (a b : Number) : Bool := a.extended.lt b.extended

def same (a b : Number) : Bool := a.extended.same b.extended

/-- Whether the first number is at most the second. -/
def le (a b : Number) : Bool := a.lt b || a.same b

/-- Whether the number is different from zero; `NaN` is. -/
def isNonzero (a : Number) : Bool := !a.same (.int 0)

def isFinite : Number → Bool
  | .int _ | .double (.finite ..) => true
  | .double .nan | .double (.infinite _) => false

/-- The number times a natural; a double is rounded. -/
def mulNat : Number → Nat → Number
  | .int n, k => .int (n * k)
  | .double d, k => .double (d.mulNat k)

/-- The integer that a number is the same as. -/
def whole? : Number → Option Int
  | .int n => some n
  | .double (.finite negative m e) =>
    let size : Option Nat :=
      if e ≥ 0 then some (m * Nat.pow 2 e.toNat)
      else if m % Nat.pow 2 (-e).toNat = 0 then some (m / Nat.pow 2 (-e).toNat)
      else none
    size.map fun k => if negative then -(k : Int) else k
  | .double _ => none

def render : Number → String
  | .int n => toString n
  | .double d => d.render

end Number

end WorkflowRepair
