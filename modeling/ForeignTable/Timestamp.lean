import ForeignTable.Calendar.Instant
import ForeignTable.Error
import ForeignTable.Signed

/-!
# Timestamps

A relational timestamp counts microseconds from 2000-01-01 00:00:00, as a wall-clock
reading of the session zone or as an instant in UTC. The remote store counts milliseconds
from 1970-01-01 00:00:00 UTC. Conversions floor, so that an instant before an epoch keeps
the second it lies in.
-/

set_option autoImplicit false

namespace ForeignTable.Timestamp

def epochMicros : Int := 946684800000000

def epochDays : Int := 10957

def maxPrecision : Nat := 6

/-- The remote milliseconds of a relational timestamp. A wall-clock reading leaves the
session zone first. -/
def toUnixMillis (micros : Signed 64) (wallClock : Bool) (zone : Zone) :
    Except Error (Signed 64) :=
  let instant? := do
    let unix ← Signed.ofInt? 64 (micros.toInt + epochMicros)
    if wallClock then Signed.ofInt? 64 (unix.toInt - zone.micros) else some unix
  match instant? with
  | some instant => .ok (instant.floorDiv 1000)
  | none => .error (.conversion (.timestampRange micros.toInt))

/-- Rounds a count to a multiple of a unit, half a unit away from zero: the magnitude goes up by
half a unit, then down to a multiple. None when a step of the way does not fit. -/
def toMultiple? (unit : Nat) (micros : Signed 64) : Option (Signed 64) :=
  if 0 ≤ micros.toInt then do
    let shifted ← Signed.ofInt? 64 (micros.toInt + (unit / 2 : Nat))
    Signed.ofInt? 64 (shifted.toInt.tdiv unit * unit)
  else do
    let magnitude ← Signed.ofInt? 64 (-micros.toInt)
    let shifted ← Signed.ofInt? 64 (magnitude.toInt + (unit / 2 : Nat))
    Signed.ofInt? 64 (-(shifted.toInt.tdiv unit * unit))

/-- Rounds to a number of fractional digits. Six digits and more keep every microsecond. -/
def roundTo (precision : Option Nat) (micros : Signed 64) : Except Error (Signed 64) :=
  match precision with
  | none => .ok micros
  | some places =>
      if maxPrecision ≤ places then .ok micros
      else
        match toMultiple? (Nat.pow 10 (maxPrecision - places)) micros with
        | some rounded => .ok rounded
        | none => .error (.conversion (.timestampRange micros.toInt))

/-!
## Text
-/

/-- A fraction of a second in microseconds, without trailing zeros; none for zero. -/
def fractionText (micros : Nat) : List Char :=
  if micros == 0 then []
  else '.' :: ((Text.paddedDigits 6 micros).reverse.dropWhile (· == '0')).reverse

/-- The text `YYYY-MM-DD HH:MM:SS[.ffffff]` of a relational timestamp, read as it stands and
counted in nanoseconds. None outside the calendar. -/
def text? (micros : Signed 64) : Option (List Char) := do
  let unix ← Signed.ofInt? 64 (micros.toInt + epochMicros)
  let nanos := unix.toInt * 1000
  let civil ← civilText? (nanos / 1000000000)
  return civil ++ fractionText (nanos % 1000000000 / 1000).toNat

/-- The text of remote milliseconds, floored to the second and tagged with the zone. -/
def remoteText (millis : Signed 64) : Except Error (List Char) :=
  match civilText? (millis.toInt / 1000) with
  | some civil => .ok (civil ++ [' ', 'U', 'T', 'C'])
  | none => .error (.conversion (.remoteTimestampRange millis.toInt))

end ForeignTable.Timestamp
