/-!
# Binary floating-point numbers

A number is a sign and a magnitude, where the magnitude is the interchange encoding
without its sign bit: an exponent field above a fraction field. Magnitudes grow with the
value they encode. Infinity has the greatest exponent and no fraction; magnitudes above
infinity are not numbers.
-/

set_option autoImplicit false

namespace ForeignTable

inductive FloatFormat where
  | single
  | double
deriving DecidableEq

namespace FloatFormat

def fractionBits : FloatFormat → Nat
  | .single => 23
  | .double => 52

def exponentBits : FloatFormat → Nat
  | .single => 8
  | .double => 11

/-- The power of two that one unit of the least positive number stands for. -/
def leastExponent : FloatFormat → Int
  | .single => -149
  | .double => -1074

/-- The fraction values of one exponent. -/
def binade (format : FloatFormat) : Nat := Nat.pow 2 format.fractionBits

/-- The number of magnitudes, and the weight of the sign bit. -/
def magnitudes (format : FloatFormat) : Nat :=
  Nat.pow 2 (format.exponentBits + format.fractionBits)

def infinite (format : FloatFormat) : Nat := format.magnitudes - format.binade

private theorem magnitudes_pos (format : FloatFormat) : 0 < format.magnitudes :=
  Nat.pow_pos (by decide)

theorem infinite_lt (format : FloatFormat) : format.infinite < format.magnitudes :=
  Nat.sub_lt format.magnitudes_pos (Nat.pow_pos (by decide))

end FloatFormat

structure Floating (format : FloatFormat) where
  negative : Bool
  magnitude : Nat
  magnitude_lt : magnitude < format.magnitudes
deriving DecidableEq

namespace Floating

variable {format : FloatFormat}

/-- The number with this interchange encoding; bits above the sign bit are dropped. -/
def ofBits (format : FloatFormat) (bits : Nat) : Floating format where
  negative := bits / format.magnitudes % 2 == 1
  magnitude := bits % format.magnitudes
  magnitude_lt := Nat.mod_lt _ format.magnitudes_pos

def toBits (x : Floating format) : Nat :=
  (if x.negative then format.magnitudes else 0) + x.magnitude

def isNaN (x : Floating format) : Bool := format.infinite < x.magnitude

def isInfinite (x : Floating format) : Bool := x.magnitude == format.infinite

def isFinite (x : Floating format) : Bool := x.magnitude < format.infinite

def isZero (x : Floating format) : Bool := x.magnitude == 0

def infinity (negative : Bool) : Floating format :=
  ⟨negative, format.infinite, format.infinite_lt⟩

def signedZero (negative : Bool) : Floating format := ⟨negative, 0, format.magnitudes_pos⟩

def nan (negative : Bool) : Floating format where
  negative := negative
  magnitude := format.infinite + format.binade / 2
  magnitude_lt := by cases format <;> decide

/-- The integer factor of a finite number. -/
def significand (x : Floating format) : Nat :=
  if x.magnitude < format.binade then x.magnitude
  else format.binade + x.magnitude % format.binade

/-- The power of two that the significand counts. The lowest two exponent fields share
one power, which is what makes the numbers next to zero evenly spaced. -/
def exponent (x : Floating format) : Int :=
  format.leastExponent + ((x.magnitude / format.binade - 1 : Nat) : Int)

/-- A finite number as a fraction: numerator and denominator of its magnitude. -/
def ratio (x : Floating format) : Nat × Nat :=
  let power := x.exponent
  (x.significand * Nat.pow 2 power.toNat, Nat.pow 2 (-power).toNat)

end Floating

end ForeignTable
