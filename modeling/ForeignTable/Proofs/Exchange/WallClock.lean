import ForeignTable.Proofs.Exchange.Timestamp

/-! Wall clocks and instants. A text means the same moment to both readers: the wall clock is the
instant moved into the session zone, and binding moves it back. -/

set_option autoImplicit false

namespace ForeignTable

namespace Timestamp

private theorem toUnixMillis_of_ahead {wall instant : Signed 64} {zone : Zone}
    (ahead : wall.toInt = instant.toInt + zone.micros) (nearWall : NearCalendar wall)
    (nearInstant : NearCalendar instant) :
    ∃ millis, toUnixMillis wall true zone = .ok millis ∧
      toUnixMillis instant false zone = .ok millis := by
  obtain ⟨low, high⟩ := nearWall.fits
  obtain ⟨lowInstant, highInstant⟩ := nearInstant.fits
  have back : instant.toInt + epochMicros =
      wall.toInt + epochMicros - Timestamp.ahead true zone := by
    rw [ahead]
    simp only [Timestamp.ahead, if_true]
    omega
  obtain ⟨millis, bound, counted⟩ :=
    toUnixMillis_of_fits back low high lowInstant highInstant
  obtain ⟨other, boundInstant, countedInstant⟩ := toUnixMillis_of_near nearInstant zone
  have same : other = millis := Signed.ext (countedInstant.trans counted.symm)
  exact ⟨millis, bound, same ▸ boundInstant⟩

end Timestamp

open Timestamp (reading? ofWallClockText ofInstantText epochMicros)

/-- In every zone, the two readers refuse the same texts with the same error, which is never one of
range. From any other text the instant is what was read less the offset of the text, or else of the
session zone; the wall clock is the instant and the offset of the session zone; and both are bound to
the same remote timestamp. -/
theorem wall_clock_ahead_of_instant (text : String) (zone : Zone) :
    (reading? text.toList = none ∧
      ofWallClockText text zone none = .error (.invalidArgument (.timestampSyntax text)) ∧
      ofInstantText text zone none = .error (.invalidArgument (.timestampSyntax text))) ∨
    ∃ reading wall instant millis, reading? text.toList = some reading ∧
      ofWallClockText text zone none = .ok wall ∧
      ofInstantText text zone none = .ok instant ∧
      instant.toInt =
        reading.micros - (reading.offset.getD zone).seconds * 1000000 - epochMicros ∧
      wall.toInt = instant.toInt + zone.seconds * 1000000 ∧
      (∀ precision, (ColumnType.timestamp precision).bind zone (some (.timestamp wall)) =
        .ok (some (.timestamp millis))) ∧
      ∀ precision, (ColumnType.timestamptz precision).bind zone (some (.timestamptz instant)) =
        .ok (some (.timestamp millis)) := by
  cases found : reading? text.toList with
  | none =>
      left
      simp only [ofWallClockText, ofInstantText, found, and_self]
  | some reading =>
      right
      obtain ⟨wall, movedWall, exactWall⟩ := Timestamp.exists_ofUnixMicros found zone (.inr rfl)
      obtain ⟨instant, moved, exact⟩ := Timestamp.exists_ofUnixMicros found zone (.inl rfl)
      rw [← Timestamp.ofWallClockText_eq found] at movedWall
      rw [← Timestamp.ofInstantText_eq found] at moved
      have ahead : wall.toInt = instant.toInt + zone.micros := by
        rw [exactWall, exact]
        omega
      obtain ⟨millis, bound, boundInstant⟩ := Timestamp.toUnixMillis_of_ahead ahead
        (Timestamp.ofWallClockText_near movedWall) (Timestamp.ofInstantText_near moved)
      exact ⟨reading, wall, instant, millis, rfl, movedWall, moved, exact, ahead,
        ColumnType.bind_timestamp bound, ColumnType.bind_timestamptz boundInstant⟩

/-- Nine and a half hours east. -/
def halfHourEast : Zone := ⟨34200, by decide⟩

/-- Half a second before 1970-01-01 03:00:00 UTC. -/
def beforeThree : Signed 64 := ⟨-946674000500000, by decide, by decide⟩

/-- The same moment on a clock that is nine and a half hours ahead. -/
def beforeHalfPastTwelve : Signed 64 := ⟨-946639800500000, by decide, by decide⟩

/-- The same moment for the store. -/
def beforeThreeMillis : Signed 64 := ⟨10799500, by decide, by decide⟩

theorem wall_clock_ahead_of_instant_halfHourEast :
    ofInstantText "1969-12-31 23:59:59.5-03" halfHourEast none = .ok beforeThree ∧
      ofWallClockText "1969-12-31 23:59:59.5-03" halfHourEast none = .ok beforeHalfPastTwelve ∧
      ofInstantText "1970-01-01 12:29:59.5" halfHourEast none = .ok beforeThree ∧
      ofWallClockText "1970-01-01 12:29:59.5" halfHourEast none = .ok beforeHalfPastTwelve ∧
      (ColumnType.timestamptz none).bind halfHourEast (some (.timestamptz beforeThree)) =
        .ok (some (.timestamp beforeThreeMillis)) ∧
      (ColumnType.timestamp none).bind halfHourEast (some (.timestamp beforeHalfPastTwelve)) =
        .ok (some (.timestamp beforeThreeMillis)) ∧
      ofWallClockText "24:00" halfHourEast none =
        .error (.invalidArgument (.timestampSyntax "24:00")) := by
  have moved : ofInstantText "1969-12-31 23:59:59.5-03" halfHourEast none = .ok beforeThree := by
    decide +kernel
  have unmoved : ofInstantText "1970-01-01 12:29:59.5" halfHourEast none = .ok beforeThree := by
    decide +kernel
  have bound : (ColumnType.timestamptz none).bind halfHourEast (some (.timestamptz beforeThree)) =
      .ok (some (.timestamp beforeThreeMillis)) := rfl
  have met : ∀ text, ofInstantText text halfHourEast none = .ok beforeThree →
      ofWallClockText text halfHourEast none = .ok beforeHalfPastTwelve ∧
        (ColumnType.timestamp none).bind halfHourEast (some (.timestamp beforeHalfPastTwelve)) =
          .ok (some (.timestamp beforeThreeMillis)) := by
    intro text read
    rcases wall_clock_ahead_of_instant text halfHourEast with
      ⟨_, _, refused⟩ | ⟨_, wall, _, millis, _, readWall, readInstant, _, ahead, sent, sentToo⟩
    · cases read.symm.trans refused
    · cases read.symm.trans readInstant
      have same : wall = beforeHalfPastTwelve := Signed.ext ahead
      cases bound.symm.trans (sentToo none)
      exact same ▸ ⟨readWall, sent none⟩
  refine ⟨moved, (met _ moved).1, unmoved, (met _ unmoved).1, bound, (met _ moved).2, ?_⟩
  have unread : reading? "24:00".toList = none := by decide +kernel
  rcases wall_clock_ahead_of_instant "24:00" halfHourEast with
    ⟨_, refused, _⟩ | ⟨_, _, _, _, read, _⟩
  · exact refused
  · cases unread.symm.trans read

end ForeignTable
