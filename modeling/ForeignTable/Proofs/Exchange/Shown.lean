import ForeignTable.Datum.Display
import ForeignTable.Proofs.Exchange.Timestamp
import ForeignTable.Proofs.Timestamp.Rounding

/-! Accepted timestamps. The reader checks the civil date of a text against the calendar, not the
timestamp that the offset, the session zone and the precision make of it. Only a timestamp that
stays in the calendar has a text, here and on the remote side. -/

set_option autoImplicit false

namespace ForeignTable

namespace Timestamp

private theorem ofUnixMicros_eq_ok {text : String} {precision : Option Nat} {unix : Int}
    {micros : Signed 64} (success : ofUnixMicros text precision unix = .ok micros) :
    micros.toInt = nearest (roundingUnit precision) (unix - epochMicros) := by
  unfold ofUnixMicros at success
  cases shifted : Signed.ofInt? 64 (unix - epochMicros) with
  | none =>
      rw [shifted] at success
      cases success
  | some exact =>
      rw [shifted] at success
      rw [roundTo_eq_ok success, Signed.ofInt?_eq_some_iff.mp shifted]

/-- Half a unit of the precision more, the microseconds since 1970-01-01 lie strictly between the
start and the end of the calendar. -/
def StaysInCalendar (precision : Option Nat) (unix : Int) : Prop :=
  2 * -377705116800000000 < 2 * unix + roundingUnit precision ∧
    2 * unix + roundingUnit precision < 2 * 253402300800000000

instance (precision : Option Nat) (unix : Int) : Decidable (StaysInCalendar precision unix) :=
  inferInstanceAs (Decidable (_ ∧ _))

theorem inCalendar_ofUnixMicros_iff {text : String} {precision : Option Nat} {unix : Int}
    {micros : Signed 64} (success : ofUnixMicros text precision unix = .ok micros) :
    InCalendar ((micros.toInt + epochMicros) / 1000000) ↔ StaysInCalendar precision unix := by
  have rounded := ofUnixMicros_eq_ok success
  have divides : (roundingUnit precision : Int) ∣ 1000000 :=
    Int.natCast_dvd_natCast.mpr (roundingUnit_dvd precision)
  have inside := nearest_inside_iff (roundingUnit_pos precision)
    (Int.dvd_trans divides (by decide : (1000000 : Int) ∣ -378651801600000000))
    (Int.dvd_trans divides (by decide : (1000000 : Int) ∣ 252455616000000000))
    (by decide) (by decide) (unix - epochMicros)
  rw [← rounded] at inside
  unfold StaysInCalendar
  rw [inCalendar_iff]
  unfold epochMicros at *
  omega

/-- A reading without an offset stays in the calendar unless a precision rounds it. -/
theorem staysInCalendar_of_unmoved {text : List Char} {reading : Reading}
    (found : reading? text = some reading) (unmoved : reading.offset = none) (zone : Zone)
    {precision : Option Nat} (exact : roundingUnit precision = 1) :
    StaysInCalendar precision (reading.instant zone + zone.micros) := by
  have range := reading?_range found
  rw [StaysInCalendar, reading.instant_add_of_unmoved unmoved, exact]
  omega

end Timestamp

open Timestamp (reading? remoteText StaysInCalendar)

theorem Datum.Counts.display?_isSome_iff {datum : Datum} {micros : Signed 64}
    (counts : datum.Counts micros) :
    datum.display?.isSome = true ↔
      InCalendar ((micros.toInt + Timestamp.epochMicros) / 1000000) := by
  cases counts with
  | timestamp | timestamptz => rw [display?, Option.isSome_map, Timestamp.text?_isSome_iff]

/-- An accepted timestamp has a text, and as an instant a remote text, exactly when the reading
stays in the calendar, moved by its offset and the session zone and rounded to its precision. Every
accepted instant can be bound. A wall clock that is neither moved nor rounded can always be
shown. -/
theorem accepted_timestamp_shown_iff (text : String) (zone : Zone) (precision : Option Nat) :
    (∀ micros, Datum.ofText zone (.timestamp precision) text = .ok (.timestamp micros) →
      ∃ reading, reading? text.toList = some reading ∧
        ((Datum.timestamp micros).display?.isSome = true ↔
          StaysInCalendar precision (reading.instant zone + zone.micros)) ∧
        (reading.offset = none → Timestamp.roundingUnit precision = 1 →
          (Datum.timestamp micros).display?.isSome = true)) ∧
    (∀ micros, Datum.ofText zone (.timestamptz precision) text = .ok (.timestamptz micros) →
      ∃ reading millis, reading? text.toList = some reading ∧
        ((Datum.timestamptz micros).display?.isSome = true ↔
          StaysInCalendar precision (reading.instant zone)) ∧
        (ColumnType.timestamptz precision).bind zone (some (.timestamptz micros)) =
          .ok (some (.timestamp millis)) ∧
        ((∃ rendered, remoteText millis = .ok rendered) ↔
          StaysInCalendar precision (reading.instant zone))) := by
  constructor
  · intro micros accepted
    obtain ⟨_, success, same⟩ := Attempt.map_eq_ok_iff.mp accepted
    cases same
    obtain ⟨reading, found, success⟩ := Timestamp.ofWallClockText_eq_ok success
    have stays := Timestamp.inCalendar_ofUnixMicros_iff success
    rw [← (Datum.Counts.timestamp micros).display?_isSome_iff] at stays
    refine ⟨reading, found, stays, ?_⟩
    intro unmoved exact
    exact stays.mpr (Timestamp.staysInCalendar_of_unmoved found unmoved zone exact)
  · intro micros accepted
    obtain ⟨_, success, same⟩ := Attempt.map_eq_ok_iff.mp accepted
    cases same
    obtain ⟨millis, bound, counted⟩ :=
      Timestamp.toUnixMillis_of_near (Timestamp.ofInstantText_near success) zone
    obtain ⟨reading, found, success⟩ := Timestamp.ofInstantText_eq_ok success
    have stays := Timestamp.inCalendar_ofUnixMicros_iff success
    have second : millis.toInt / 1000 = (micros.toInt + Timestamp.epochMicros) / 1000000 := by
      omega
    have shown := (Datum.Counts.timestamptz micros).display?_isSome_iff
    refine ⟨reading, millis, found, shown.trans stays,
      ColumnType.bind_timestamptz bound precision, ?_⟩
    rw [Timestamp.exists_remoteText_iff, second]
    exact stays

/-- The last second of the calendar. -/
def lastHour : Signed 64 := ⟨252455615999000000, by decide, by decide⟩

def pastCalendar : Signed 64 := ⟨252455616000000000, by decide, by decide⟩

private theorem ofText_pastCalendar :
    Datum.ofText Zone.utc (.timestamptz none) "9999-12-31 23:00:00-01:00" =
      .ok (.timestamptz pastCalendar) := by decide +kernel

theorem accepted_timestamp_shown_iff_lastHour :
    Datum.ofText Zone.utc (.timestamptz none) "9999-12-31 22:59:59-01:00" =
        .ok (.timestamptz lastHour) ∧
      (Datum.timestamptz lastHour).display?.isSome = true ∧
      Datum.ofText Zone.utc (.timestamp (some 0)) "9999-12-31 23:59:59.5" =
        .ok (.timestamp pastCalendar) ∧
      (Datum.timestamp pastCalendar).display?.isSome = false := by
  have accepted : Datum.ofText Zone.utc (.timestamptz none) "9999-12-31 22:59:59-01:00" =
      .ok (.timestamptz lastHour) := by decide +kernel
  have acceptedWall : Datum.ofText Zone.utc (.timestamp (some 0)) "9999-12-31 23:59:59.5" =
      .ok (.timestamp pastCalendar) := by decide +kernel
  have readsInstant : reading? "9999-12-31 22:59:59-01:00".toList =
      some ⟨253402297199000000, some ⟨-3600, by decide⟩⟩ := by decide +kernel
  have readsWall : reading? "9999-12-31 23:59:59.5".toList =
      some ⟨253402300799500000, none⟩ := by decide +kernel
  obtain ⟨instant, _, found, shown, _⟩ :=
    (accepted_timestamp_shown_iff "9999-12-31 22:59:59-01:00" Zone.utc none).2 _ accepted
  obtain ⟨wall, foundWall, shownWall, _⟩ :=
    (accepted_timestamp_shown_iff "9999-12-31 23:59:59.5" Zone.utc (some 0)).1 _ acceptedWall
  rw [readsInstant] at found
  rw [readsWall] at foundWall
  cases found
  cases foundWall
  refine ⟨accepted, shown.mpr (by decide), acceptedWall, ?_⟩
  rw [Bool.eq_false_iff]
  exact mt shownWall.mp (by decide)

/-- An hour that the offset moves out of the calendar is accepted, but has no text on either
side. -/
theorem accepted_timestamp_not_shown :
    ¬∀ (text : String) (zone : Zone) (precision : Option Nat) (micros : Signed 64),
      (Datum.ofText zone (.timestamp precision) text = .ok (.timestamp micros) →
        (Datum.timestamp micros).display?.isSome = true) ∧
      (Datum.ofText zone (.timestamptz precision) text = .ok (.timestamptz micros) →
        (Datum.timestamptz micros).display?.isSome = true ∧
          ∀ millis, (ColumnType.timestamptz precision).bind zone (some (.timestamptz micros)) =
              .ok (some (.timestamp millis)) →
            ∃ rendered, remoteText millis = .ok rendered) := by
  intro always
  have shown := ((always _ _ _ _).2 ofText_pastCalendar).1
  have inside : InCalendar ((pastCalendar.toInt + Timestamp.epochMicros) / 1000000) :=
    (Datum.Counts.timestamptz pastCalendar).display?_isSome_iff.mp shown
  exact absurd (inCalendar_iff.mp inside).2 (by decide)

end ForeignTable
