import ForeignTable.Calendar.Date

/-!
# Civil date and time of day

The text `YYYY-MM-DD HH:MM:SS` of a count of seconds since 1970-01-01 00:00:00. A count
outside the years of the calendar has no text.
-/

set_option autoImplicit false

namespace ForeignTable

def secondsPerDay : Nat := 86400

/-- The text `HH:MM:SS` of a second of the day. -/
def clockText (second : Nat) : List Char :=
  Text.paddedDigits 2 (second / 3600) ++ ':' :: Text.paddedDigits 2 (second / 60 % 60) ++
    ':' :: Text.paddedDigits 2 (second % 60)

/-- The civil text of a count of seconds since 1970-01-01 00:00:00. -/
def civilText? (seconds : Int) : Option (List Char) :=
  (Date.ofDayNumber? (seconds / secondsPerDay)).map fun date =>
    date.text ++ ' ' :: clockText (seconds % secondsPerDay).toNat

end ForeignTable
