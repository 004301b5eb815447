import ForeignTable.Proofs.Exchange.Timestamp
import ForeignTable.Proofs.Timestamp.Range

/-! Years before zero. The store shows every year of the calendar, with a sign for the years
before zero; the reader of timestamps takes the sign for a separator and finds no year in front
of it. -/

set_option autoImplicit false

namespace ForeignTable

private theorem Date.text_of_negative {date : Date} (negative : date.year < 0) :
    ∃ rest, date.text = '-' :: rest := by
  cases year : date.year with
  | ofNat value =>
      rw [year] at negative
      exact absurd negative (Int.not_lt.mpr (Int.natCast_nonneg value))
  | negSucc predecessor =>
      rw [Date.text, year]
      exact ⟨_, rfl⟩

namespace Timestamp

private theorem date?_hyphen (rest : List Char) : date? ('-' :: rest) = none := by
  have front : Text.splitOnce '-' ('-' :: rest) = some ([], rest) := rfl
  have noYear : Text.integer? [] = none := rfl
  simp only [date?, front, noYear, Option.bind_eq_bind, Option.bind_some, Option.bind_none,
    Option.bind_fun_none]

private theorem reading?_hyphen {rest : List Char}
    (last : ∀ c ∈ ('-' :: rest).getLast?, Text.isBlank c = false) :
    reading? ('-' :: rest) = none := by
  have trimmed : Text.trim ('-' :: rest) = '-' :: rest := by
    apply Text.trim_eq_self _ last
    intro c first
    cases first
    rfl
  have dated : datePart ('-' :: rest) = '-' :: rest.takeWhile isDateCharacter := rfl
  rw [reading?_eq, trimmed, dated, date?_hyphen, Option.bind_none]

private theorem remoteText_eq_ok {millis : Signed 64} {text : List Char}
    (rendered : remoteText millis = .ok text) :
    ∃ date : Date, date.year = civilYear (millis.toInt / 1000) ∧
      ∃ clock, text = date.text ++ (clock ++ [' ', 'U', 'T', 'C']) := by
  unfold remoteText at rendered
  cases shown : civilText? (millis.toInt / 1000) with
  | none =>
      rw [shown] at rendered
      cases rendered
  | some civil =>
      rw [shown] at rendered
      cases rendered
      obtain ⟨date, year, _, civilShape⟩ :=
        civilText?_of_inCalendar (civilText?_isSome_iff.mp (Option.isSome_of_mem shown))
      rw [shown] at civilShape
      cases civilShape
      exact ⟨date, year, _, List.append_assoc _ _ _⟩

private theorem reading?_of_negative_year {millis : Signed 64} {text : List Char}
    (rendered : remoteText millis = .ok text) (negative : civilYear (millis.toInt / 1000) < 0) :
    reading? text = none := by
  obtain ⟨date, year, clock, rfl⟩ := remoteText_eq_ok rendered
  obtain ⟨rest, signed⟩ := Date.text_of_negative (year ▸ negative)
  rw [signed, List.cons_append]
  apply reading?_hyphen
  intro c last
  rw [← List.cons_append, ← List.append_assoc, List.getLast?_append_cons] at last
  cases last
  rfl

end Timestamp

open Timestamp (remoteText epochMicros)

/-- The text that the store shows for a timestamp is read back, in every zone and with every
precision, exactly when its year is not before zero. Then it is read as its second; a year before
zero is refused as a text that is no timestamp. -/
theorem rendered_timestamp_read_iff {millis : Signed 64} {text : List Char}
    (rendered : remoteText millis = .ok text) (zone : Zone) (precision : Option Nat) :
    (0 ≤ civilYear (millis.toInt / 1000) →
      (∃ whole, Datum.ofText zone (.timestamptz precision) (String.ofList text) =
          .ok (.timestamptz whole) ∧
        whole.toInt = millis.toInt / 1000 * 1000000 - epochMicros) ∧
      ∃ whole, Datum.ofText zone (.timestamp precision) (String.ofList text) =
          .ok (.timestamp whole) ∧
        whole.toInt = millis.toInt / 1000 * 1000000 + zone.micros - epochMicros) ∧
    (civilYear (millis.toInt / 1000) < 0 →
      Datum.ofText zone (.timestamptz precision) (String.ofList text) =
          .error (.invalidArgument (.timestampSyntax (String.ofList text))) ∧
        Datum.ofText zone (.timestamp precision) (String.ofList text) =
          .error (.invalidArgument (.timestampSyntax (String.ofList text)))) := by
  constructor
  · intro written
    have fourDigits : FourDigitYear (millis.toInt / 1000) :=
      ⟨written, (Timestamp.exists_remoteText_iff.mp ⟨text, rendered⟩).2⟩
    have shown : (Remote.Value.timestamp millis).render = .ok (String.ofList text) := by
      rw [Remote.Value.render_timestamp, rendered]
      rfl
    obtain ⟨instant, ⟨_, same, read⟩, exact⟩ :=
      Remote.Value.readsAs_timestamptz fourDigits zone precision
    obtain ⟨reading, ⟨_, again, readWall⟩, exactWall⟩ :=
      Remote.Value.readsAs_timestamp fourDigits zone precision
    rw [shown] at same again
    cases same
    cases again
    exact ⟨⟨instant, read, exact⟩, reading, readWall, exactWall⟩
  · intro negative
    have unread := Timestamp.reading?_of_negative_year rendered negative
    simp only [Datum.ofText, Timestamp.ofInstantText, Timestamp.ofWallClockText,
      String.toList_ofList, unread, Except.map, and_self]

def yearZero : Signed 64 := ⟨-62167219200000, by decide, by decide⟩

/-- The last millisecond of year -1. -/
def beforeYearZero : Signed 64 := ⟨-62167219200001, by decide, by decide⟩

private theorem remoteText_beforeYearZero :
    remoteText beforeYearZero = .ok "-001-12-31 23:59:59 UTC".toList := by decide +kernel

theorem rendered_timestamp_read_iff_yearZero :
    remoteText yearZero = .ok "0000-01-01 00:00:00 UTC".toList ∧
      0 ≤ civilYear (yearZero.toInt / 1000) ∧
      (∃ whole, Datum.ofText eastern (.timestamptz (some 0)) "0000-01-01 00:00:00 UTC" =
          .ok (.timestamptz whole) ∧ whole.toInt = -63113904000000000) ∧
      remoteText beforeYearZero = .ok "-001-12-31 23:59:59 UTC".toList ∧
      civilYear (beforeYearZero.toInt / 1000) < 0 ∧
      Datum.ofText eastern (.timestamptz (some 0)) "-001-12-31 23:59:59 UTC" =
        .error (.invalidArgument (.timestampSyntax "-001-12-31 23:59:59 UTC")) := by
  have shown : remoteText yearZero = .ok "0000-01-01 00:00:00 UTC".toList := by decide +kernel
  have written : 0 ≤ civilYear (yearZero.toInt / 1000) := by decide
  have negative : civilYear (beforeYearZero.toInt / 1000) < 0 := by decide
  have read := (rendered_timestamp_read_iff shown eastern (some 0)).1 written
  have refused := (rendered_timestamp_read_iff remoteText_beforeYearZero eastern (some 0)).2 negative
  rw [String.ofList_toList] at read refused
  exact ⟨shown, written, read.1, remoteText_beforeYearZero, negative, refused.1⟩

/-- A remote timestamp in the calendar whose text no timestamp column can read. -/
theorem rendered_year_before_zero_refused :
    ¬∀ (millis : Signed 64) (text : List Char), remoteText millis = .ok text →
      ∀ (zone : Zone) (precision : Option Nat),
        (∃ datum, Datum.ofText zone (.timestamptz precision) (String.ofList text) = .ok datum) ∧
        ∃ datum, Datum.ofText zone (.timestamp precision) (String.ofList text) = .ok datum := by
  intro readable
  obtain ⟨⟨datum, read⟩, _⟩ := readable _ _ remoteText_beforeYearZero Zone.utc (some 0)
  have refused : Timestamp.reading? "-001-12-31 23:59:59 UTC".toList = none := by decide +kernel
  simp only [Datum.ofText, Timestamp.ofInstantText, String.toList_ofList, refused, Except.map]
    at read
  cases read

end ForeignTable
