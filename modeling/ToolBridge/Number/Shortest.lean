import ToolBridge.Number.Double

/-!
# The shortest decimals of doubles

Among the decimals that are nearer to a double than to any other double, the
one with the fewest digits is taken, and among these the nearest.
-/

namespace ToolBridge.Double

/-- A decimal: `digits` times ten to the power of `exponent`. -/
structure Decimal where
  digits : Nat
  exponent : Int
  deriving DecidableEq, Repr

/-- The number of decimal digits, and none of zero. -/
def digitCount (n : Nat) : Nat :=
  if n = 0 then 0 else (Nat.toDigits 10 n).length

/-- The power of ten at which the first digit of a ratio stands. -/
def leadingPower (ratio : Ratio) : Int :=
  if ratio.denominator ≤ ratio.numerator then
    (digitCount ratio.floor : Int) - 1
  else
    let inverse := (ratio.denominator + ratio.numerator - 1) / ratio.numerator
    (-(digitCount (inverse - 1) : Int))

/-- The lower and the upper end of the numbers that round to a double. -/
def interval (double : Double) : Ratio × Ratio :=
  let quarters := 4 * double.mantissa
  let isPower :=
    double.mantissa == Nat.pow 2 (mantissaBits - 1) &&
      decide (leastExponent < double.exponent)
  let lower := if isPower then quarters - 1 else quarters - 2
  ((Ratio.mk lower 4).scale 2 double.exponent,
    (Ratio.mk (quarters + 2) 4).scale 2 double.exponent)

def ratioLe (left right : Ratio) : Bool :=
  left.numerator * right.denominator ≤ right.numerator * left.denominator

/-- Does a decimal read back as the double?  The ends of the interval do if
the mantissa is even. -/
def readsBack (double : Double) (decimal : Decimal) : Bool :=
  let value := (Ratio.mk decimal.digits 1).scale 10 decimal.exponent
  let (lower, upper) := double.interval
  if double.mantissa % 2 = 0 then ratioLe lower value && ratioLe value upper
  else !ratioLe value lower && !ratioLe upper value

/-- The decimal of so many digits that reads back, if there is one: the
nearest, or else the other neighbour. -/
def withDigits? (double : Double) (count : Nat) : Option Decimal :=
  let exponent := leadingPower double.magnitude + 1 - count
  let grid := double.magnitude.scale 10 (-exponent)
  let nearest : Decimal := ⟨grid.round, exponent⟩
  let below : Decimal := ⟨grid.floor, exponent⟩
  let above : Decimal := ⟨grid.floor + 1, exponent⟩
  [nearest, below, above].find? (readsBack double)

def trimZeros : (fuel : Nat) → Decimal → Decimal
  | 0, decimal => decimal
  | fuel + 1, decimal =>
      if decimal.digits % 10 = 0 ∧ decimal.digits ≠ 0 then
        trimZeros fuel ⟨decimal.digits / 10, decimal.exponent + 1⟩
      else decimal

/-- The most digits that are ever needed. -/
def greatestDigits : Nat := 17

def shortest (double : Double) : Decimal :=
  let found := (List.range greatestDigits).findSome? fun count =>
    double.withDigits? (count + 1)
  trimZeros greatestDigits (found.getD ⟨0, 0⟩)

end ToolBridge.Double
