/-!
# Doubles

A double is a whole number of at most 53 bits times a power of two.  The
double nearest to a ratio is found in exact arithmetic, and of two that are
equally near the one with the even mantissa is taken.
-/

namespace ToolBridge

/-- A finite double: `mantissa` times two to the power of `exponent`, with a
sign that zero has too. -/
structure Double where
  negative : Bool
  mantissa : Nat
  exponent : Int
  deriving DecidableEq, Repr, Inhabited

/-- A ratio of natural numbers.  The denominator is never zero in use. -/
structure Ratio where
  numerator : Nat
  denominator : Nat
  deriving DecidableEq, Repr

namespace Ratio

def scale (ratio : Ratio) (base : Nat) (exponent : Int) : Ratio :=
  if 0 ≤ exponent then
    { ratio with numerator := ratio.numerator * Nat.pow base exponent.toNat }
  else
    { ratio with denominator := ratio.denominator * Nat.pow base exponent.natAbs }

/-- The whole number nearest to a ratio, and the even one of two. -/
def round (ratio : Ratio) : Nat :=
  let whole := ratio.numerator / ratio.denominator
  let twice := 2 * (ratio.numerator % ratio.denominator)
  if twice < ratio.denominator then whole
  else if ratio.denominator < twice then whole + 1
  else whole + whole % 2

def floor (ratio : Ratio) : Nat :=
  ratio.numerator / ratio.denominator

end Ratio

namespace Double

def mantissaBits : Nat := 53

/-- The exponent of the smallest doubles. -/
def leastExponent : Int := -1074

/-- The exponent of the largest doubles. -/
def greatestExponent : Int := 971

/-- The exponent for which a ratio has a mantissa of full length, unless that
exponent is too small. -/
def exponentFor (ratio : Ratio) : Int :=
  let guess : Int :=
    (Nat.log2 ratio.numerator : Int) - Nat.log2 ratio.denominator -
      (mantissaBits - 1)
  let exact :=
    if (ratio.scale 2 (-guess)).floor < Nat.pow 2 (mantissaBits - 1) then
      guess - 1
    else guess
  max exact leastExponent

/-- The double nearest to a ratio.  Nothing, if the ratio is too large. -/
def nearest? (negative : Bool) (ratio : Ratio) : Option Double :=
  if ratio.numerator = 0 then some ⟨negative, 0, leastExponent⟩
  else
    let exponent := exponentFor ratio
    let mantissa := (ratio.scale 2 (-exponent)).round
    let rounded : Double :=
      if mantissa = Nat.pow 2 mantissaBits then
        ⟨negative, Nat.pow 2 (mantissaBits - 1), exponent + 1⟩
      else ⟨negative, mantissa, exponent⟩
    if greatestExponent < rounded.exponent then none else some rounded

def isZero (double : Double) : Bool :=
  double.mantissa == 0

/-- The value of a double without its sign. -/
def magnitude (double : Double) : Ratio :=
  (Ratio.mk double.mantissa 1).scale 2 double.exponent

/-- The largest power of ten by which a double is scaled at once. -/
def greatestPower : Nat := 308

/-- A double times the double nearest to a power of ten, or divided by it. -/
def scaleTen? (double : Double) (exponent : Int) : Option Double := do
  let power ← nearest? false ⟨Nat.pow 10 exponent.natAbs, 1⟩
  let value := double.magnitude
  let factor := power.magnitude
  if 0 ≤ exponent then
    nearest? double.negative
      ⟨value.numerator * factor.numerator,
        value.denominator * factor.denominator⟩
  else
    nearest? double.negative
      ⟨value.numerator * factor.denominator,
        value.denominator * factor.numerator⟩

/-- Bring an exponent of ten into reach, in at most so many steps. -/
def reach? : (steps : Nat) → Double → Int → Option (Double × Int)
  | 0, double, exponent => some (double, exponent)
  | steps + 1, double, exponent =>
      if double.isZero then some (double, 0)
      else if exponent < -greatestPower then
        match double.scaleTen? (-greatestPower) with
        | some double => reach? steps double (exponent + greatestPower)
        | none => none
      else some (double, exponent)

/-- The double of a significand of 64 bits and a power of ten.  Rounding
happens after every step: of the significand, of the power, and of their
product or quotient.  Nothing, if the number is too large. -/
def ofDecimal? (negative : Bool) (significand : Nat) (exponent : Int) :
    Option Double := do
  let start ← nearest? negative ⟨significand, 1⟩
  let (double, exponent) ← reach? 3 start exponent
  if double.isZero then return double
  else if greatestPower < exponent then none
  else double.scaleTen? exponent

end Double

end ToolBridge
