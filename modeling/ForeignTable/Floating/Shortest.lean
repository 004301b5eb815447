import ForeignTable.Floating
import ForeignTable.Text.Digits

/-!
# The shortest decimal of a floating-point number

A number is written with the fewest significant digits that read back as the same number
of its format. Of several such decimals the nearest is taken, and of two equally near ones
the greater. Digits are always written out positionally, without an exponent.
-/

set_option autoImplicit false

namespace ForeignTable

/-- The greatest power of ten not above a positive fraction. -/
def decimalOrder (numerator denominator : Nat) : Int :=
  if denominator ≤ numerator then
    ((Text.digits (numerator / denominator)).length : Int) - 1
  else
    -((Text.digits ((denominator - 1) / numerator)).length : Int)

/-- The numbers that round to one floating-point number: all values strictly between
`low / scale` and `high / scale`, the ends included when `closed`. The value itself is
`middle / scale`. -/
structure RoundingInterval where
  low : Nat
  middle : Nat
  high : Nat
  scale : Nat
  closed : Bool

namespace RoundingInterval

def contains (interval : RoundingInterval) (numerator denominator : Nat) : Bool :=
  let value := numerator * interval.scale
  let low := interval.low * denominator
  let high := interval.high * denominator
  if interval.closed then low ≤ value && value ≤ high else low < value && value < high

/-- The decimal with coefficient and power of ten that has at most `count` significant
digits, lies in the interval and is nearest to its value. Only the two neighbours of the
value on the grid of `count` digits can qualify. -/
def decimal? (interval : RoundingInterval) (count : Nat) : Option (Nat × Int) :=
  let power := decimalOrder interval.middle interval.scale - ((count : Int) - 1)
  let up := Nat.pow 10 power.toNat
  let down := Nat.pow 10 (-power).toNat
  let coefficient := interval.middle * down / (interval.scale * up)
  let below := interval.contains (coefficient * up) down
  let above := interval.contains ((coefficient + 1) * up) down
  let remainder := interval.middle * down - coefficient * (interval.scale * up)
  let nearerAbove := interval.scale * up ≤ 2 * remainder
  if above && (nearerAbove || !below) then
    if coefficient + 1 == Nat.pow 10 count then some (1, power + count)
    else some (coefficient + 1, power)
  else if below then some (coefficient, power)
  else none

/-- The shortest decimal in the interval. Seventeen digits tell any two numbers apart. -/
def shortest (interval : RoundingInterval) : Nat × Int :=
  ((List.range 17).findSome? fun count => interval.decimal? (count + 1)).getD (0, 0)

end RoundingInterval

/-- A decimal written without an exponent. -/
def positional (coefficient : Nat) (power : Int) : List Char :=
  let written := Text.digits coefficient
  let places := (-power).toNat
  if 0 ≤ power then written ++ List.replicate power.toNat '0'
  else if places < written.length then
    written.take (written.length - places) ++ '.' :: written.drop (written.length - places)
  else '0' :: '.' :: Text.zeroPad places written

namespace Floating

variable {format : FloatFormat}

/-- The interval of a positive finite number. Its lower neighbour is only half as far
away when the number is a power of two above the smallest exponent. -/
def interval (x : Floating format) : RoundingInterval :=
  let significand := x.significand
  let power := x.exponent - 2
  let narrow := x.magnitude % format.binade == 0 && format.binade < x.magnitude
  let up := Nat.pow 2 power.toNat
  { low := (4 * significand - if narrow then 1 else 2) * up
    middle := 4 * significand * up
    high := (4 * significand + 2) * up
    scale := Nat.pow 2 (-power).toNat
    closed := significand % 2 == 0 }

/-- The text of a number: `NaN`, `Infinity` or the shortest decimal, the last two with a
minus sign for negative numbers, zero included. -/
def text (x : Floating format) : List Char :=
  if x.isNaN then ['N', 'a', 'N']
  else
    let sign := if x.negative then ['-'] else []
    if x.isInfinite then sign ++ ['I', 'n', 'f', 'i', 'n', 'i', 't', 'y']
    else if x.isZero then sign ++ ['0']
    else
      let (coefficient, power) := x.interval.shortest
      sign ++ positional coefficient power

end Floating

end ForeignTable
