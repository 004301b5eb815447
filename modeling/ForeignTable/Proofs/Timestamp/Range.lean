import ForeignTable.Datum
import ForeignTable.Proofs.Attempt
import ForeignTable.Proofs.Timestamp.Reading
import ForeignTable.Proofs.Timestamp.Rounding

/-! Ranges of timestamps. What is read lies in the days of the calendar; zones move it by hours
and rounding by half a second, so it never comes near the ends of sixty-four bits. -/

set_option autoImplicit false

namespace ForeignTable.Timestamp

/-!
## Readings
-/

private theorem below?_lt {bound value : Nat} {text : List Char}
    (found : below? bound text = some value) : value < bound :=
  (below?_eq_some_iff.mp found).2

private theorem seconds?_lt {text : List Char} {micros : Nat}
    (found : seconds? text = some micros) :
    micros < 60000000 := by
  unfold seconds? at found
  split at found
  · obtain ⟨second, read, rfl⟩ := Option.map_eq_some_iff.mp found
    have inMinute := below?_lt read
    omega
  · obtain ⟨second, read, continuation⟩ := Option.bind_eq_some_iff.mp found
    obtain ⟨_, _, continuation⟩ := Option.bind_eq_some_iff.mp continuation
    obtain ⟨part, cut, shape⟩ := Option.bind_eq_some_iff.mp continuation
    cases shape
    have inMinute := below?_lt read
    have inSecond := Text.natural?_lt cut
    rw [List.length_take, List.length_append, List.length_replicate,
      Nat.min_eq_left (Nat.le_add_left 6 _)] at inSecond
    omega

private theorem clock?_lt {text : List Char} {micros : Nat} (found : clock? text = some micros) :
    micros < 86400000000 := by
  obtain ⟨⟨_, rest⟩, _, continuation⟩ := Option.bind_eq_some_iff.mp found
  obtain ⟨hour, readHour, continuation⟩ := Option.bind_eq_some_iff.mp continuation
  have inDay := below?_lt readHour
  split at continuation
  · obtain ⟨minute, readMinute, shape⟩ := Option.bind_eq_some_iff.mp continuation
    cases shape
    have inHour := below?_lt readMinute
    omega
  · obtain ⟨minute, readMinute, continuation⟩ := Option.bind_eq_some_iff.mp continuation
    obtain ⟨within, readSeconds, shape⟩ := Option.bind_eq_some_iff.mp continuation
    cases shape
    have inHour := below?_lt readMinute
    have inMinute := seconds?_lt readSeconds
    omega

private theorem clockOrMidnight?_lt {text : List Char} {micros : Nat}
    (found : clockOrMidnight? text = some micros) : micros < 86400000000 := by
  unfold clockOrMidnight? at found
  split at found
  · cases found
    decide
  · exact clock?_lt found

theorem reading?_range {text : List Char} {reading : Reading}
    (found : reading? text = some reading) :
    -377705116800000000 ≤ reading.micros ∧ reading.micros < 253402300800000000 := by
  obtain ⟨date, clock, _, readClock, _, counted⟩ := reading?_eq_some_iff.mp found
  have days := date.dayNumber_range
  have inDay := clockOrMidnight?_lt readClock
  omega

/-!
## Texts of the calendar
-/

theorem text?_eq (micros : Signed 64) :
    text? micros = (Signed.ofInt? 64 (micros.toInt + epochMicros)).bind fun unix =>
      (civilText? (unix.toInt / 1000000)).map fun civil =>
        civil ++ fractionText (unix.toInt % 1000000).toNat := by
  unfold text?
  cases Signed.ofInt? 64 (micros.toInt + epochMicros) with
  | none => rfl
  | some unix =>
      have second : unix.toInt * 1000 / 1000000000 = unix.toInt / 1000000 := by omega
      have fraction : unix.toInt * 1000 % 1000000000 / 1000 = unix.toInt % 1000000 := by omega
      simp only [second, fraction, Option.bind_eq_bind, Option.bind_some]
      cases civilText? (unix.toInt / 1000000) <;> rfl

/-- A timestamp has a text exactly when its second lies in the calendar. -/
theorem text?_isSome_iff {micros : Signed 64} :
    (text? micros).isSome = true ↔ InCalendar ((micros.toInt + epochMicros) / 1000000) := by
  rw [text?_eq]
  cases shifted : Signed.ofInt? 64 (micros.toInt + epochMicros) with
  | none =>
      -- an overflow of the epoch shift lies far outside the calendar
      have overflow := Signed.ofInt?_eq_none_iff.mp shifted
      rw [Signed.bound_sixtyFour] at overflow
      rw [inCalendar_iff]
      constructor
      · intro impossible
        cases impossible
      · intro inside
        omega
  | some unix =>
      rw [← Signed.ofInt?_eq_some_iff.mp shifted, ← civilText?_isSome_iff, Option.bind_some,
        Option.isSome_map]

theorem exists_remoteText_iff {millis : Signed 64} :
    (∃ rendered, remoteText millis = .ok rendered) ↔ InCalendar (millis.toInt / 1000) := by
  rw [← civilText?_isSome_iff]
  unfold remoteText
  cases civilText? (millis.toInt / 1000) <;> simp

theorem remoteText_eq_error_iff {millis : Signed 64} {failure : Error} :
    remoteText millis = .error failure ↔
      ¬InCalendar (millis.toInt / 1000) ∧
        failure = .conversion (.remoteTimestampRange millis.toInt) := by
  rw [← civilText?_isSome_iff]
  unfold remoteText
  cases civilText? (millis.toInt / 1000) <;> simp [eq_comm]

/-!
## Conversions
-/

/-- The microseconds since 1970-01-01 UTC that a reading tells; without an offset it is a reading of
the session zone. -/
def Reading.instant (zone : Zone) (reading : Reading) : Int :=
  reading.micros - (reading.offset.getD zone).micros

theorem utc_micros : Zone.utc.micros = 0 := by decide

theorem Reading.instant_add_of_unmoved {reading : Reading} (unmoved : reading.offset = none)
    (zone : Zone) : reading.instant zone + zone.micros = reading.micros := by
  rw [Reading.instant, unmoved, Option.getD_none, Int.sub_add_cancel]

section

variable {text : String} {reading : Reading} (found : reading? text.toList = some reading)

include found

/-- No step of a reading at an offset leaves sixty-four bits. -/
theorem exists_instantAt? (offset : Zone) : ∃ instant, reading.instantAt? offset = some instant ∧
    instant.toInt = reading.micros - offset.micros := by
  have inCalendar := reading?_range found
  have away := offset.seconds_range
  have limit := Signed.bound_sixtyFour
  have low : -Signed.bound 64 ≤ reading.micros := by omega
  have high : reading.micros < Signed.bound 64 := by omega
  have lowInstant : -Signed.bound 64 ≤ reading.micros - offset.micros := by
    unfold Zone.micros
    omega
  have highInstant : reading.micros - offset.micros < Signed.bound 64 := by
    unfold Zone.micros
    omega
  refine ⟨⟨_, lowInstant, highInstant⟩, ?_, rfl⟩
  rw [Reading.instantAt?, Signed.ofInt?_of_fits low high]
  exact Signed.ofInt?_of_fits lowInstant highInstant

/-- A wall clock shows the instant moved into the session zone, with or without an offset in the
text. -/
theorem exists_wallClock? (zone : Zone) : ∃ wall, reading.wallClock? zone = some wall ∧
    wall.toInt = reading.instant zone + zone.micros := by
  have inCalendar := reading?_range found
  have here := zone.seconds_range
  have limit := Signed.bound_sixtyFour
  unfold Reading.wallClock? Reading.instant
  cases carried : reading.offset with
  | none =>
      have low : -Signed.bound 64 ≤ reading.micros := by omega
      have high : reading.micros < Signed.bound 64 := by omega
      refine ⟨_, Signed.ofInt?_of_fits low high, ?_⟩
      rw [Option.getD_none, Int.sub_add_cancel]
  | some offset =>
      have away := offset.seconds_range
      obtain ⟨instant, moved, exact⟩ := exists_instantAt? found offset
      unfold Zone.micros at exact
      have low : -Signed.bound 64 ≤ instant.toInt + zone.micros := by
        unfold Zone.micros
        omega
      have high : instant.toInt + zone.micros < Signed.bound 64 := by
        unfold Zone.micros
        omega
      refine ⟨⟨_, low, high⟩, ?_, ?_⟩
      · simp only [moved, Option.bind_eq_bind, Option.bind_some]
        exact Signed.ofInt?_of_fits low high
      · exact congrArg (· + zone.micros) exact

theorem ofInstantText_eq (zone : Zone) (precision : Option Nat) :
    ofInstantText text zone precision = ofUnixMicros text precision (reading.instant zone) := by
  obtain ⟨instant, moved, exact⟩ := exists_instantAt? found (reading.offset.getD zone)
  unfold ofInstantText Reading.instant
  simp only [found, moved, exact]

theorem ofWallClockText_eq (zone : Zone) (precision : Option Nat) :
    ofWallClockText text zone precision =
      ofUnixMicros text precision (reading.instant zone + zone.micros) := by
  obtain ⟨wall, moved, exact⟩ := exists_wallClock? found zone
  unfold ofWallClockText
  simp only [found, moved, exact]

end

theorem ofInstantText_eq_ok {text : String} {zone : Zone} {precision : Option Nat}
    {micros : Signed 64} (success : ofInstantText text zone precision = .ok micros) :
    ∃ reading, reading? text.toList = some reading ∧
      ofUnixMicros text precision (reading.instant zone) = .ok micros := by
  cases found : reading? text.toList with
  | none =>
      simp only [ofInstantText, found] at success
      cases success
  | some reading =>
      rw [ofInstantText_eq found] at success
      exact ⟨reading, rfl, success⟩

theorem ofWallClockText_eq_ok {text : String} {zone : Zone} {precision : Option Nat}
    {micros : Signed 64} (success : ofWallClockText text zone precision = .ok micros) :
    ∃ reading, reading? text.toList = some reading ∧
      ofUnixMicros text precision (reading.instant zone + zone.micros) = .ok micros := by
  cases found : reading? text.toList with
  | none =>
      simp only [ofWallClockText, found] at success
      cases success
  | some reading =>
      rw [ofWallClockText_eq found] at success
      exact ⟨reading, rfl, success⟩

/-- No zone moves a reading so far that its distance from the epoch leaves sixty-four bits. -/
theorem exists_ofUnixMicros {text : String} {reading : Reading}
    (found : reading? text.toList = some reading) (zone : Zone) {moved : Int}
    (near : moved = reading.instant zone ∨ moved = reading.instant zone + zone.micros) :
    ∃ micros, ofUnixMicros text none moved = .ok micros ∧ micros.toInt = moved - epochMicros := by
  have inCalendar := reading?_range found
  have here := zone.seconds_range
  have away := (reading.offset.getD zone).seconds_range
  have limit := Signed.bound_sixtyFour
  unfold Reading.instant Zone.micros at near
  have low : -Signed.bound 64 ≤ moved - epochMicros := by
    unfold epochMicros
    omega
  have high : moved - epochMicros < Signed.bound 64 := by
    unfold epochMicros
    omega
  refine ⟨⟨_, low, high⟩, ?_, rfl⟩
  rw [ofUnixMicros, Signed.ofInt?_of_fits low high]
  rfl

private theorem roundTo_near {precision : Option Nat} {micros rounded : Signed 64}
    (success : roundTo precision micros = .ok rounded) :
    (rounded.toInt - micros.toInt).natAbs ≤ 500000 := by
  -- the nearest multiple is half a unit away at most, and a unit is a second at most
  have near := nearestMultiple_range (roundingUnit_pos precision) micros.toInt.natAbs
  have bounded := Nat.le_of_dvd (by decide) (roundingUnit_dvd precision)
  have rounds := roundTo_eq_ok success
  unfold nearest at rounds
  omega

private theorem ofUnixMicros_near {text : String} {precision : Option Nat} {unix : Int}
    {micros : Signed 64} (success : ofUnixMicros text precision unix = .ok micros) :
    (micros.toInt + epochMicros - unix).natAbs ≤ 500000 := by
  unfold ofUnixMicros at success
  cases shifted : Signed.ofInt? 64 (unix - epochMicros) with
  | none =>
      rw [shifted] at success
      cases success
  | some exact =>
      rw [shifted] at success
      have moved := Signed.ofInt?_eq_some_iff.mp shifted
      have near := roundTo_near success
      omega

/-- The microseconds are within two days of the calendar. -/
def NearCalendar (micros : Signed 64) : Prop :=
  -377705316800000000 < micros.toInt + epochMicros ∧
    micros.toInt + epochMicros < 253402500800000000

theorem ofWallClockText_near {text : String} {zone : Zone} {precision : Option Nat}
    {micros : Signed 64} (success : ofWallClockText text zone precision = .ok micros) :
    NearCalendar micros := by
  obtain ⟨reading, found, success⟩ := ofWallClockText_eq_ok success
  have inCalendar := reading?_range found
  have here := zone.seconds_range
  have away := (reading.offset.getD zone).seconds_range
  have near := ofUnixMicros_near success
  unfold Reading.instant Zone.micros at near
  unfold NearCalendar
  omega

theorem ofInstantText_near {text : String} {zone : Zone} {precision : Option Nat}
    {micros : Signed 64} (success : ofInstantText text zone precision = .ok micros) :
    NearCalendar micros := by
  obtain ⟨reading, found, success⟩ := ofInstantText_eq_ok success
  have inCalendar := reading?_range found
  have away := (reading.offset.getD zone).seconds_range
  have near := ofUnixMicros_near success
  unfold Reading.instant Zone.micros at near
  unfold NearCalendar
  omega

theorem NearCalendar.fits {micros : Signed 64} (near : NearCalendar micros) :
    -Signed.bound 64 ≤ micros.toInt + epochMicros ∧
      micros.toInt + epochMicros < Signed.bound 64 := by
  have limit := Signed.bound_sixtyFour
  unfold NearCalendar at near
  omega

end ForeignTable.Timestamp

namespace ForeignTable.Datum

/-- The datum counts these microseconds, on a wall clock or as an instant. -/
inductive Counts : Datum → Signed 64 → Prop where
  | timestamp (micros : Signed 64) : Counts (.timestamp micros) micros
  | timestamptz (micros : Signed 64) : Counts (.timestamptz micros) micros

end ForeignTable.Datum
