import ForeignTable.Floating

/-!
# Rounding a fraction to a floating-point number

`Floating.ofRatio` rounds a non-negative fraction to the nearest number of a format, and
halfway cases to the one with even significand. A fraction that rounds past the greatest
finite number becomes infinity.
-/

set_option autoImplicit false

namespace ForeignTable

/-- The nearest integer to a fraction, halfway cases to the even one. -/
def nearestEven (numerator denominator : Nat) : Nat :=
  let quotient := numerator / denominator
  let twice := 2 * (numerator % denominator)
  if denominator < twice || (twice == denominator && quotient % 2 == 1) then quotient + 1
  else quotient

/-- The greatest power of two not above a positive fraction. -/
def binaryOrder (numerator denominator : Nat) : Int :=
  let guess : Int := (numerator.log2 : Int) - denominator.log2
  if denominator * Nat.pow 2 guess.toNat ≤ numerator * Nat.pow 2 (-guess).toNat then guess
  else guess - 1

namespace Floating

/-- The nearest number of the format to a fraction with positive denominator. -/
def ofRatio (format : FloatFormat) (negative : Bool) (numerator denominator : Nat) :
    Floating format :=
  if numerator == 0 then signedZero negative
  else
    let order := binaryOrder numerator denominator - format.fractionBits
    let power := if order < format.leastExponent then format.leastExponent else order
    let units := nearestEven (numerator * Nat.pow 2 (-power).toNat)
      (denominator * Nat.pow 2 power.toNat)
    let magnitude := (power - format.leastExponent).toNat * format.binade + units
    if fits : magnitude < format.infinite then
      ⟨negative, magnitude, Nat.lt_trans fits format.infinite_lt⟩
    else infinity negative

def ofNat (format : FloatFormat) (value : Nat) : Floating format :=
  ofRatio format false value 1

/-- A finite number times a natural number, rounded once. -/
def scale {format : FloatFormat} (x : Floating format) (factor : Nat) : Floating format :=
  let (numerator, denominator) := x.ratio
  ofRatio format x.negative (numerator * factor) denominator

/-- The nearest integral number to a finite one, halfway cases away from zero. -/
def roundToIntegral {format : FloatFormat} (x : Floating format) : Floating format :=
  let (numerator, denominator) := x.ratio
  ofRatio format x.negative ((2 * numerator + denominator) / (2 * denominator)) 1

end Floating

end ForeignTable
