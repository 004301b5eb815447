import ForeignTable.Datum.Display
import ForeignTable.Proofs.Exchange.Timestamp

/-! Calendar values shown and read. The text of a timestamp or a date in a year of four digits
tells its type, and under that type it is read as the same microsecond or day, in every session
zone. -/

set_option autoImplicit false

namespace ForeignTable

/-!
## Dates
-/

namespace Date

private theorem fixedDigits?_paddedDigits (width : Nat) {value : Nat} (positive : 0 < width)
    (fits : value < 10 ^ width) (rest : List Char) :
    fixedDigits? width (Text.paddedDigits width value ++ rest) = some (value, rest) := by
  have sized := Text.length_paddedDigits positive fits
  have front : (Text.paddedDigits width value ++ rest).take width = Text.paddedDigits width value :=
    List.take_left' sized
  have back : (Text.paddedDigits width value ++ rest).drop width = rest := List.drop_left' sized
  simp only [fixedDigits?, List.splitAt_eq, front, back, sized, Text.natural?_paddedDigits,
    BEq.rfl, if_true, Option.map_some]

theorem ofText?_text {date : Date} (written : 0 ≤ date.year) : ofText? date.text = some date := by
  obtain ⟨year, same⟩ := Int.eq_ofNat_of_zero_le written
  have inYears := date.year_range.2
  have inMonths := date.month_range.2
  have inDays := date.day_le
  have readYear := fixedDigits?_paddedDigits 4 (by decide) (show year < 10 ^ 4 by omega)
  have readMonth := fixedDigits?_paddedDigits 2 (by decide) (show date.month < 10 ^ 2 by omega)
  have readDay := fixedDigits?_paddedDigits 2 (by decide) (show date.day < 10 ^ 2 by omega) []
  rw [List.append_nil] at readDay
  have unsigned : ∀ mark rest, date.text = mark :: rest → mark.isDigit = true := by
    intro mark rest shape
    exact date.isDigit_text_head written mark (shape ▸ rfl)
  unfold ofText?
  split
  rename_i parts
  -- the text starts with a digit, so it has no sign in front of the year
  split at parts
  · rename_i shape
    cases unsigned _ _ shape
  · rename_i shape
    cases unsigned _ _ shape
  · cases parts
    simp only [Date.text_eq same, readYear, readMonth, readDay, Option.bind_eq_bind,
      Option.bind_some, List.isEmpty_nil, if_true, Bool.false_eq_true, if_false, ← same,
      ofParts?_self]

private theorem trim_text (date : Date) : Text.trim date.text = date.text := by
  apply Text.trim_of_unblank
  intro c member
  rcases date.mem_text member with digit | rfl
  · exact Text.isBlank_of_isDigit digit
  · rfl

end Date

/-!
## Timestamps
-/

namespace Timestamp

private theorem ofUnixMicros_exact (text : String) (micros : Signed 64) :
    ofUnixMicros text none (micros.toInt + epochMicros) = .ok micros := by
  rw [ofUnixMicros, Int.add_sub_cancel, Signed.ofInt?_toInt]
  rfl

/-- The text of a timestamp in a year of four digits has the blank behind its date, and reads back
as its microsecond, whatever zone follows. -/
theorem text?_reads {micros : Signed 64}
    (written : FourDigitYear ((micros.toInt + epochMicros) / 1000000)) :
    ∃ text, text? micros = some text ∧ ' ' ∈ text ∧
      ∀ (zone : List Char) (offset : Option Zone), FollowsClock zone offset →
        reading? (text ++ zone) = some ⟨micros.toInt + epochMicros, offset⟩ := by
  obtain ⟨civil, shown, reads⟩ := reading?_civilText? written
  have inCalendar := written.bounds
  have limit := Signed.bound_sixtyFour
  have low : -Signed.bound 64 ≤ micros.toInt + epochMicros := by omega
  have high : micros.toInt + epochMicros < Signed.bound 64 := by omega
  have blank : ' ' ∈ civil := by
    obtain ⟨date, _, rfl⟩ := Option.map_eq_some_iff.mp shown
    exact List.mem_append_right _ List.mem_cons_self
  refine ⟨civil ++ fractionText ((micros.toInt + epochMicros) % 1000000).toNat, ?_,
    List.mem_append_left _ blank, ?_⟩
  · rw [text?_eq, Signed.ofInt?_of_fits low high, Option.bind_some, shown]
    rfl
  · intro zone offset follows
    have inSecond : ((micros.toInt + epochMicros) % 1000000).toNat < 1000000 := by omega
    rw [List.append_assoc, reads _ zone offset inSecond follows]
    congr 2
    omega

end Timestamp

/-!
## Texts under their types
-/

/-- A timestamp of unlimited precision or a date, in a year of four digits. -/
inductive CalendarValue : ColumnType → Datum → Prop where
  | timestamp (micros : Signed 64)
      (written : FourDigitYear ((micros.toInt + Timestamp.epochMicros) / 1000000)) :
      CalendarValue (.timestamp none) (.timestamp micros)
  | timestamptz (micros : Signed 64)
      (written : FourDigitYear ((micros.toInt + Timestamp.epochMicros) / 1000000)) :
      CalendarValue (.timestamptz none) (.timestamptz micros)
  | date (days : Signed 32)
      (written : FourDigitYear ((days.toInt + Timestamp.epochDays) * secondsPerDay)) :
      CalendarValue .date (.date days)

namespace Datum

/-- The type that the text of a calendar value tells: a date has no blank, an instant has an
offset. -/
def shownType (text : List Char) : ColumnType :=
  if ' ' ∈ text then
    match (Timestamp.reading? text).bind Timestamp.Reading.offset with
    | some _ => .timestamptz none
    | none => .timestamp none
  else .date

/-- The text of the datum tells the column type and is read under it as the datum. -/
def ReadsBack (zone : Zone) (columnType : ColumnType) (datum : Datum) (text : List Char) : Prop :=
  datum.display? = some (String.ofList text) ∧ shownType text = columnType ∧
    ofText zone columnType (String.ofList text) = .ok datum

variable (zone : Zone)

private theorem exists_readsBack_timestamp {micros : Signed 64}
    (written : FourDigitYear ((micros.toInt + Timestamp.epochMicros) / 1000000)) :
    ∃ text, ReadsBack zone (.timestamp none) (timestamp micros) text := by
  obtain ⟨text, shown, blank, reads⟩ := Timestamp.text?_reads written
  have read := reads _ _ Timestamp.followsClock_nothing
  rw [List.append_nil] at read
  refine ⟨text, ?_, ?_, ?_⟩
  · rw [display?, shown]
    rfl
  · rw [shownType, if_pos blank, read]
    rfl
  · simp only [ofText]
    rw [Timestamp.ofWallClockText_unmoved read, Timestamp.ofUnixMicros_exact]
    rfl

private theorem exists_readsBack_timestamptz {micros : Signed 64}
    (written : FourDigitYear ((micros.toInt + Timestamp.epochMicros) / 1000000)) :
    ∃ text, ReadsBack zone (.timestamptz none) (timestamptz micros) text := by
  obtain ⟨text, shown, blank, reads⟩ := Timestamp.text?_reads written
  have read := reads _ _ Timestamp.followsClock_utcOffset
  refine ⟨text ++ ['+', '0', '0'], ?_, ?_, ?_⟩
  · rw [display?, shown]
    rfl
  · rw [shownType, if_pos (List.mem_append_left _ blank), read]
    rfl
  · simp only [ofText]
    rw [Timestamp.ofInstantText_utc read, Timestamp.ofUnixMicros_exact]
    rfl

private theorem exists_readsBack_date {days : Signed 32}
    (written : FourDigitYear ((days.toInt + Timestamp.epochDays) * secondsPerDay)) :
    ∃ text, ReadsBack zone .date (date days) text := by
  have day : (days.toInt + Timestamp.epochDays) * secondsPerDay / secondsPerDay =
      days.toInt + Timestamp.epochDays := Int.mul_ediv_cancel _ (by decide)
  obtain ⟨civil, found, year, counted⟩ := Date.ofDayNumber?_of_year
    ((days.toInt + Timestamp.epochDays) * secondsPerDay / secondsPerDay) written.inCalendar
  rw [day] at found counted
  have fourDigits : 0 ≤ civil.year := year ▸ written.1
  refine ⟨civil.text, ?_, ?_, ?_⟩
  · rw [display?, found]
    rfl
  · apply if_neg
    intro blank
    rcases civil.mem_text blank with digit | mark
    · cases digit
    · cases mark
  · simp only [ofText, String.toList_ofList, civil.trim_text,
      Date.ofText?_text fourDigits, Option.bind_some, counted, Int.add_sub_cancel,
      Signed.ofInt?_toInt]
    rfl

end Datum

private theorem CalendarValue.exists_readsBack {columnType : ColumnType} {datum : Datum}
    (value : CalendarValue columnType datum) (zone : Zone) :
    ∃ text, datum.ReadsBack zone columnType text := by
  cases value with
  | timestamp micros written => exact Datum.exists_readsBack_timestamp zone written
  | timestamptz micros written => exact Datum.exists_readsBack_timestamptz zone written
  | date days written => exact Datum.exists_readsBack_date zone written

/-- In every session zone, a calendar value is read from its own text to the microsecond or the
day, and no other calendar value has that text. -/
theorem shown_calendar_value_read_back (zone : Zone) {columnType : ColumnType} {datum : Datum}
    (value : CalendarValue columnType datum) :
    (∃ text, datum.display? = some text ∧ Datum.ofText zone columnType text = .ok datum) ∧
      ∀ (otherType : ColumnType) (other : Datum), CalendarValue otherType other →
        other.display? = datum.display? → other = datum := by
  obtain ⟨text, shown, told, read⟩ := value.exists_readsBack zone
  refine ⟨⟨String.ofList text, shown, read⟩, ?_⟩
  intro otherType other otherValue sameText
  obtain ⟨otherText, otherShown, otherTold, otherRead⟩ := otherValue.exists_readsBack zone
  rw [otherShown, shown, Option.some.injEq, String.ofList_inj] at sameText
  -- one text tells one type, and under one type it is read as one datum
  subst sameText
  rw [told] at otherTold
  subst otherTold
  rw [read] at otherRead
  cases otherRead
  rfl

/-- A quarter of a second into the last second before 1970. -/
def quarterSecond : Signed 64 := ⟨-946684800750000, by decide, by decide⟩

theorem shown_calendar_value_read_back_quarterSecond :
    CalendarValue (.timestamptz none) (.timestamptz quarterSecond) ∧
      (Datum.timestamptz quarterSecond).display? = some "1969-12-31 23:59:59.25+00" ∧
      Datum.ofText eastern (.timestamptz none) "1969-12-31 23:59:59.25+00" =
        .ok (.timestamptz quarterSecond) ∧
      CalendarValue (.timestamp none) (.timestamp quarterSecond) ∧
      (Datum.timestamp quarterSecond).display? ≠ (Datum.timestamptz quarterSecond).display? := by
  have instant : CalendarValue (.timestamptz none) (.timestamptz quarterSecond) :=
    .timestamptz quarterSecond (by decide)
  have wallClock : CalendarValue (.timestamp none) (.timestamp quarterSecond) :=
    .timestamp quarterSecond (by decide)
  have display : (Datum.timestamptz quarterSecond).display? = some "1969-12-31 23:59:59.25+00" := by
    decide +kernel
  obtain ⟨⟨text, shown, read⟩, apart⟩ := shown_calendar_value_read_back eastern instant
  rw [display] at shown
  cases shown
  refine ⟨instant, display, read, wallClock, ?_⟩
  intro sameText
  cases apart _ _ wallClock sameText

end ForeignTable
