/-!
# Session zones

A session zone is a fixed offset east of UTC in whole seconds, less than 26 hours either
way. It turns wall-clock readings into instants and back.
-/

set_option autoImplicit false

namespace ForeignTable

/-- An offset east of UTC. -/
structure Zone where
  seconds : Int
  seconds_range : -93599 ≤ seconds ∧ seconds ≤ 93599
deriving DecidableEq

/-- The part of an hour and minute offset that is out of range. -/
inductive OffsetPart where
  | hour
  | minute
deriving DecidableEq

namespace Zone

def utc : Zone := ⟨0, by decide⟩

def ofSeconds? (seconds : Int) : Option Zone :=
  if range : -93599 ≤ seconds ∧ seconds ≤ 93599 then some ⟨seconds, range⟩ else none

/-- Minutes take the sign of non-zero hours: an offset points in one direction. -/
def alignMinutes (hours minutes : Int) : Int :=
  if 0 < hours then (minutes.natAbs : Int)
  else if hours < 0 then -(minutes.natAbs : Int)
  else minutes

/-- The zone of an offset in hours and minutes. Hours are checked before minutes. -/
def ofHoursMinutes (hours minutes : Int) : Except OffsetPart Zone :=
  if hoursRange : -25 ≤ hours ∧ hours ≤ 25 then
    if minutesRange : -59 ≤ minutes ∧ minutes ≤ 59 then
      .ok ⟨3600 * hours + 60 * alignMinutes hours minutes, by
        unfold alignMinutes
        omega⟩
    else .error .minute
  else .error .hour

def micros (zone : Zone) : Int := zone.seconds * 1000000

end Zone

end ForeignTable
