import ForeignTable.Proofs.Attempt
import ForeignTable.Proofs.Exchange.Scalar
import ForeignTable.Proofs.Timestamp.Range
import ForeignTable.Proofs.Transfer

/-! Timestamps through the remote store. The store keeps milliseconds and shows seconds, so a
timestamp comes back without its fraction of a second, in every zone and with every
precision. -/

set_option autoImplicit false

namespace ForeignTable

namespace Timestamp

/-- The microseconds that a session zone is ahead of the instants of a column. -/
def ahead (wallClock : Bool) (zone : Zone) : Int := if wallClock then zone.micros else 0

private theorem ahead_range (wallClock : Bool) (zone : Zone) :
    -93599000000 ≤ ahead wallClock zone ∧ ahead wallClock zone ≤ 93599000000 ∧
      ahead wallClock zone % 1000000 = 0 := by
  have range := zone.seconds_range
  cases wallClock with
  | false => simp [ahead]
  | true =>
      simp only [ahead, Zone.micros, if_true]
      omega

/-!
## To the store
-/

theorem toUnixMillis_of_fits {micros : Signed 64} {wallClock : Bool} {zone : Zone}
    {instant : Int} (moved : instant = micros.toInt + epochMicros - ahead wallClock zone)
    (low : -Signed.bound 64 ≤ micros.toInt + epochMicros)
    (high : micros.toInt + epochMicros < Signed.bound 64)
    (lowInstant : -Signed.bound 64 ≤ instant) (highInstant : instant < Signed.bound 64) :
    ∃ millis, toUnixMillis micros wallClock zone = .ok millis ∧
      millis.toInt = instant / 1000 := by
  have shifted : (if wallClock = true then
      Signed.ofInt? 64 (micros.toInt + epochMicros - zone.micros)
      else some ⟨micros.toInt + epochMicros, low, high⟩) =
      some ⟨instant, lowInstant, highInstant⟩ := by
    cases wallClock with
    | false =>
        rw [if_neg Bool.false_ne_true]
        exact congrArg some (Signed.ext (moved.trans (Int.sub_zero _)).symm)
    | true =>
        change instant = micros.toInt + epochMicros - zone.micros at moved
        rw [if_pos rfl, ← moved]
        exact Signed.ofInt?_of_fits lowInstant highInstant
  refine ⟨Signed.floorDiv ⟨instant, lowInstant, highInstant⟩ 1000, ?_, rfl⟩
  unfold toUnixMillis
  simp only [Signed.ofInt?_of_fits low high, Option.bind_eq_bind, Option.bind_some, shifted]

theorem toUnixMillis_of_near {micros : Signed 64} (near : NearCalendar micros) (zone : Zone) :
    ∃ millis, toUnixMillis micros false zone = .ok millis ∧
      millis.toInt = (micros.toInt + epochMicros) / 1000 := by
  obtain ⟨low, high⟩ := near.fits
  exact toUnixMillis_of_fits (Int.sub_zero _).symm low high low high

theorem toUnixMillis_of_fourDigitYear {micros : Signed 64} {wallClock : Bool} {zone : Zone}
    {instant : Int} (moved : instant = micros.toInt + epochMicros - ahead wallClock zone)
    (written : FourDigitYear (instant / 1000000)) :
    ∃ millis, toUnixMillis micros wallClock zone = .ok millis ∧
      millis.toInt = instant / 1000 ∧ FourDigitYear (millis.toInt / 1000) := by
  have inCalendar := written.bounds
  have range := ahead_range wallClock zone
  have limit := Signed.bound_sixtyFour
  obtain ⟨millis, bound, counted⟩ :=
    toUnixMillis_of_fits moved (by omega) (by omega) (by omega) (by omega)
  have second : instant / 1000000 = millis.toInt / 1000 := by omega
  exact ⟨millis, bound, counted, second ▸ written⟩

/-!
## From the store
-/

private theorem remoteText_of_fourDigitYear {millis : Signed 64}
    (written : FourDigitYear (millis.toInt / 1000)) :
    ∃ text, remoteText millis = .ok text ∧
      reading? text = some ⟨millis.toInt / 1000 * 1000000, some Zone.utc⟩ := by
  obtain ⟨civil, found, reads⟩ := reading?_civilText? written
  refine ⟨civil ++ [' ', 'U', 'T', 'C'], ?_, ?_⟩
  · unfold remoteText
    rw [found]
  · have read := reads 0 _ _ (by decide) followsClock_utcName
    rw [fractionText_zero, List.nil_append] at read
    rw [read, Int.natCast_zero, Int.add_zero]

/-- A whole second is a multiple of every unit that a precision rounds to. -/
theorem roundTo_of_whole {micros : Signed 64} (whole : micros.toInt % 1000000 = 0)
    (precision : Option Nat) : roundTo precision micros = .ok micros := by
  cases precision with
  | none => rfl
  | some places =>
      rcases Nat.lt_or_ge places maxPrecision with coarse | fine
      · have second : 10 ^ maxPrecision = 1000000 := by decide
        have divides : Nat.pow 10 (maxPrecision - places) ∣ 1000000 := by
          rw [← second]
          exact Nat.pow_dvd_pow 10 (Nat.sub_le maxPrecision places)
        have bounded := Nat.le_of_dvd (by decide) divides
        apply roundTo_of_dvd coarse rfl (Nat.dvd_trans divides (by omega))
        -- the greatest whole seconds of 64 bits leave room for half a second
        have limit := Signed.bound_sixtyFour
        have least := micros.neg_bound_le
        have greatest := micros.lt_bound
        omega
      · exact roundTo_of_fine fine micros

private theorem ofUnixMicros_of_whole {unix : Int} (low : -Signed.bound 64 ≤ unix - epochMicros)
    (high : unix - epochMicros < Signed.bound 64) (whole : unix % 1000000 = 0)
    (text : String) (precision : Option Nat) :
    ofUnixMicros text precision unix = .ok ⟨unix - epochMicros, low, high⟩ := by
  unfold ofUnixMicros
  rw [Signed.ofInt?_of_fits low high]
  apply roundTo_of_whole
  change (unix - epochMicros) % 1000000 = 0
  unfold epochMicros
  omega

section

variable {text : List Char} {micros : Int}

theorem ofWallClockText_unmoved (reads : reading? text = some ⟨micros, none⟩) (zone : Zone)
    (precision : Option Nat) :
    ofWallClockText (String.ofList text) zone precision =
      ofUnixMicros (String.ofList text) precision micros := by
  rw [← String.toList_ofList (l := text)] at reads
  rw [ofWallClockText_eq reads, Reading.instant_add_of_unmoved rfl]

private theorem ofWallClockText_utc (reads : reading? text = some ⟨micros, some Zone.utc⟩)
    (zone : Zone) (precision : Option Nat) :
    ofWallClockText (String.ofList text) zone precision =
      ofUnixMicros (String.ofList text) precision (micros + zone.micros) := by
  rw [← String.toList_ofList (l := text)] at reads
  rw [ofWallClockText_eq reads, Reading.instant, Option.getD_some, utc_micros, Int.sub_zero]

theorem ofInstantText_utc (reads : reading? text = some ⟨micros, some Zone.utc⟩) (zone : Zone)
    (precision : Option Nat) :
    ofInstantText (String.ofList text) zone precision =
      ofUnixMicros (String.ofList text) precision micros := by
  rw [← String.toList_ofList (l := text)] at reads
  rw [ofInstantText_eq reads, Reading.instant, Option.getD_some, utc_micros, Int.sub_zero]

end

/-- The text that the store shows is read as the second of its timestamp, moved by the epoch
and, for a wall clock, by the zone. -/
theorem second_read {millis : Signed 64} (written : FourDigitYear (millis.toInt / 1000))
    (wallClock : Bool) (zone : Zone) (precision : Option Nat) :
    ∃ text whole, remoteText millis = .ok text ∧
      reading? text = some ⟨millis.toInt / 1000 * 1000000, some Zone.utc⟩ ∧
      (∀ source, ofUnixMicros source precision
        (millis.toInt / 1000 * 1000000 + ahead wallClock zone) = .ok whole) ∧
      whole.toInt = millis.toInt / 1000 * 1000000 + ahead wallClock zone - epochMicros := by
  obtain ⟨text, rendered, reads⟩ := remoteText_of_fourDigitYear written
  have inCalendar := written.bounds
  have range := ahead_range wallClock zone
  have limit := Signed.bound_sixtyFour
  have low : -Signed.bound 64 ≤
      millis.toInt / 1000 * 1000000 + ahead wallClock zone - epochMicros := by
    unfold epochMicros
    omega
  have high : millis.toInt / 1000 * 1000000 + ahead wallClock zone - epochMicros <
      Signed.bound 64 := by
    unfold epochMicros
    omega
  refine ⟨text, ⟨_, low, high⟩, rendered, reads, ?_, rfl⟩
  intro source
  exact ofUnixMicros_of_whole low high (by omega) source precision

end Timestamp

namespace Remote.Value

variable {millis : Signed 64}

theorem readsAs_timestamp (written : FourDigitYear (millis.toInt / 1000)) (zone : Zone)
    (precision : Option Nat) :
    ∃ whole, (timestamp millis).ReadsAs zone (.timestamp precision) (.timestamp whole) ∧
      whole.toInt = millis.toInt / 1000 * 1000000 + zone.micros - Timestamp.epochMicros := by
  obtain ⟨text, whole, rendered, reads, back, exact⟩ :=
    Timestamp.second_read written true zone precision
  refine ⟨whole, ⟨String.ofList text, ?_, ?_⟩, exact⟩
  · rw [render_timestamp, rendered]
    rfl
  · simp only [Datum.ofText]
    rw [Timestamp.ofWallClockText_utc reads]
    exact congrArg (Except.map _) (back _)

theorem readsAs_timestamptz (written : FourDigitYear (millis.toInt / 1000)) (zone : Zone)
    (precision : Option Nat) :
    ∃ whole, (timestamp millis).ReadsAs zone (.timestamptz precision) (.timestamptz whole) ∧
      whole.toInt = millis.toInt / 1000 * 1000000 - Timestamp.epochMicros := by
  obtain ⟨text, whole, rendered, reads, back, exact⟩ :=
    Timestamp.second_read written false zone precision
  rw [show Timestamp.ahead false zone = 0 from rfl] at back exact
  simp only [Int.add_zero] at back exact
  refine ⟨whole, ⟨String.ofList text, ?_, ?_⟩, exact⟩
  · rw [render_timestamp, rendered]
    rfl
  · simp only [Datum.ofText]
    rw [Timestamp.ofInstantText_utc reads]
    exact congrArg (Except.map _) (back _)

end Remote.Value

/-!
## There and back
-/

theorem ColumnType.bind_timestamp {micros millis : Signed 64} {zone : Zone}
    (bound : Timestamp.toUnixMillis micros true zone = .ok millis) (precision : Option Nat) :
    (ColumnType.timestamp precision).bind zone (some (.timestamp micros)) =
      .ok (some (.timestamp millis)) := by
  simp [bind, hasRemoteForm, remoteValue, bound, Except.map]

theorem ColumnType.bind_timestamptz {micros millis : Signed 64} {zone : Zone}
    (bound : Timestamp.toUnixMillis micros false zone = .ok millis) (precision : Option Nat) :
    (ColumnType.timestamptz precision).bind zone (some (.timestamptz micros)) =
      .ok (some (.timestamp millis)) := by
  simp [bind, hasRemoteForm, remoteValue, bound, Except.map]

/-- In every zone and with every precision, a timestamp in a year of four digits goes out and
comes back as the second it lies in. -/
theorem timestamp_survives_to_the_second (zone : Zone) (precision : Option Nat)
    (micros : Signed 64) :
    (FourDigitYear ((micros.toInt + Timestamp.epochMicros - zone.micros) / 1000000) →
      ∃ value text whole,
        (ColumnType.timestamp precision).bind zone (some (.timestamp micros)) =
            .ok (some value) ∧
          value.render = .ok text ∧
          Datum.ofText zone (.timestamp precision) text = .ok (.timestamp whole) ∧
          whole.toInt = 1000000 * (micros.toInt / 1000000)) ∧
    (FourDigitYear ((micros.toInt + Timestamp.epochMicros) / 1000000) →
      ∃ value text whole,
        (ColumnType.timestamptz precision).bind zone (some (.timestamptz micros)) =
            .ok (some value) ∧
          value.render = .ok text ∧
          Datum.ofText zone (.timestamptz precision) text = .ok (.timestamptz whole) ∧
          whole.toInt = 1000000 * (micros.toInt / 1000000)) := by
  constructor
  · intro written
    have moved : _ = micros.toInt + Timestamp.epochMicros - Timestamp.ahead true zone := rfl
    obtain ⟨millis, bound, counted, kept⟩ :=
      Timestamp.toUnixMillis_of_fourDigitYear moved written
    obtain ⟨whole, ⟨text, rendered, read⟩, exact⟩ :=
      Remote.Value.readsAs_timestamp kept zone precision
    refine ⟨.timestamp millis, text, whole, ColumnType.bind_timestamp bound precision, rendered,
      read, ?_⟩
    have shift : Timestamp.ahead true zone = zone.micros := rfl
    have aligned := (Timestamp.ahead_range true zone).2.2
    unfold Timestamp.epochMicros at *
    omega
  · intro written
    have moved : micros.toInt + Timestamp.epochMicros =
        micros.toInt + Timestamp.epochMicros - Timestamp.ahead false zone :=
      (Int.sub_zero _).symm
    obtain ⟨millis, bound, counted, kept⟩ :=
      Timestamp.toUnixMillis_of_fourDigitYear moved written
    obtain ⟨whole, ⟨text, rendered, read⟩, exact⟩ :=
      Remote.Value.readsAs_timestamptz kept zone precision
    refine ⟨.timestamp millis, text, whole, ColumnType.bind_timestamptz bound precision, rendered,
      read, ?_⟩
    unfold Timestamp.epochMicros at *
    omega

/-- Half past five hours east of UTC. -/
def eastern : Zone := ⟨19800, by decide⟩

/-- A microsecond before 1968-04-24 22:13:20. -/
def beforeSecond : Signed 64 := ⟨-1000000000000001, by decide, by decide⟩

theorem timestamp_survives_before_1970 :
    FourDigitYear ((beforeSecond.toInt + Timestamp.epochMicros - eastern.micros) / 1000000) ∧
      FourDigitYear ((beforeSecond.toInt + Timestamp.epochMicros) / 1000000) ∧
      (∃ value text whole,
        (ColumnType.timestamp (some 3)).bind eastern (some (.timestamp beforeSecond)) =
            .ok (some value) ∧
          value.render = .ok text ∧
          Datum.ofText eastern (.timestamp (some 3)) text = .ok (.timestamp whole) ∧
          whole.toInt = -1000000001000000) ∧
      ∃ value text whole,
        (ColumnType.timestamptz (some 3)).bind eastern (some (.timestamptz beforeSecond)) =
            .ok (some value) ∧
          value.render = .ok text ∧
          Datum.ofText eastern (.timestamptz (some 3)) text = .ok (.timestamptz whole) ∧
          whole.toInt = -1000000001000000 := by
  have wallClock : FourDigitYear
      ((beforeSecond.toInt + Timestamp.epochMicros - eastern.micros) / 1000000) := by decide
  have inUtc : FourDigitYear ((beforeSecond.toInt + Timestamp.epochMicros) / 1000000) := by
    decide
  obtain ⟨readings, instants⟩ :=
    timestamp_survives_to_the_second eastern (some 3) beforeSecond
  exact ⟨wallClock, inUtc, readings wallClock, instants inUtc⟩

end ForeignTable
