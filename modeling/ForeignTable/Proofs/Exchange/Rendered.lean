import ForeignTable.Proofs.Exchange.Shown

/-! Instants shown on both sides. The text of an instant and the text that the store shows for its
milliseconds exist for the same instants and tell the same second, also before 1970, where both
have to round down. -/

set_option autoImplicit false

namespace ForeignTable

private theorem point_not_mem_civilText? {seconds : Int} {civil : List Char}
    (shown : civilText? seconds = some civil) : '.' ∉ civil := by
  obtain ⟨date, _, rfl⟩ := Option.map_eq_some_iff.mp shown
  have noDigits : ∀ value, '.' ∉ Text.paddedDigits 2 value := Text.not_mem_paddedDigits rfl 2
  intro member
  rcases List.mem_append.mp member with inDate | inClock
  · cases date.mem_text inDate with
    | inl digit => cases digit
    | inr mark => cases mark
  · simp [Timestamp.clockText_eq, noDigits] at inClock

namespace Timestamp

/-- Two floors, to the millisecond and to the second, are the floor to the second. -/
theorem floorDiv_second (unix : Signed 64) :
    (unix.floorDiv 1000).toInt / 1000 = unix.toInt / 1000000 := by
  change unix.toInt / 1000 / 1000 = unix.toInt / 1000000
  omega

theorem toUnixMillis_eq_ok_iff {micros millis : Signed 64} {zone : Zone} :
    toUnixMillis micros false zone = .ok millis ↔
      ∃ unix, Signed.ofInt? 64 (micros.toInt + epochMicros) = some unix ∧
        unix.floorDiv 1000 = millis := by
  unfold toUnixMillis
  cases Signed.ofInt? 64 (micros.toInt + epochMicros) with
  | none => simp
  | some unix => simp

theorem remoteText_eq_ok_iff {millis : Signed 64} {rendered : List Char} :
    remoteText millis = .ok rendered ↔
      ∃ civil, civilText? (millis.toInt / 1000) = some civil ∧
        civil ++ [' ', 'U', 'T', 'C'] = rendered := by
  unfold remoteText
  cases civilText? (millis.toInt / 1000) with
  | none => simp
  | some civil => simp

theorem text?_eq_some_iff {micros : Signed 64} {text : List Char} :
    text? micros = some text ↔
      ∃ unix civil, Signed.ofInt? 64 (micros.toInt + epochMicros) = some unix ∧
        civilText? (unix.toInt / 1000000) = some civil ∧
        civil ++ fractionText (unix.toInt % 1000000).toNat = text := by
  rw [text?_eq, Option.bind_eq_some_iff]
  simp only [Option.map_eq_some_iff, exists_and_left]

end Timestamp

open Timestamp (toUnixMillis remoteText)

theorem Datum.timestamptz_display?_eq_some_iff {micros : Signed 64} {shown : String} :
    (timestamptz micros).display? = some shown ↔
      ∃ text, Timestamp.text? micros = some text ∧ String.ofList (text ++ ['+', '0', '0']) = shown :=
  Option.map_eq_some_iff

/-- An instant has a text exactly when it can be bound and the store can show what was bound, which
is when its second lies in the calendar. Then the store shows the civil part of its text, without the
fraction and with the zone in words. -/
theorem instant_shown_iff_rendered (micros : Signed 64) (zone : Zone) :
    ((∃ shown, (Datum.timestamptz micros).display? = some shown) ↔
      ∃ millis rendered, toUnixMillis micros false zone = .ok millis ∧
        remoteText millis = .ok rendered) ∧
    ((∃ shown, (Datum.timestamptz micros).display? = some shown) ↔
      InCalendar ((micros.toInt + Timestamp.epochMicros) / 1000000)) ∧
    ∀ shown millis rendered, (Datum.timestamptz micros).display? = some shown →
      toUnixMillis micros false zone = .ok millis → remoteText millis = .ok rendered →
      ∃ civil fraction, Timestamp.IsFraction fraction ∧ '.' ∉ civil ∧
        shown.toList = civil ++ fraction ++ "+00".toList ∧
        rendered = civil ++ " UTC".toList := by
  have inside := (Datum.Counts.timestamptz micros).display?_isSome_iff
  refine ⟨⟨?_, ?_⟩, Option.isSome_iff_exists.symm.trans inside, ?_⟩
  · intro ⟨shown, display⟩
    obtain ⟨text, told, _⟩ := Datum.timestamptz_display?_eq_some_iff.mp display
    obtain ⟨unix, civil, shifted, second, _⟩ := Timestamp.text?_eq_some_iff.mp told
    rw [← Timestamp.floorDiv_second] at second
    exact ⟨_, _, Timestamp.toUnixMillis_eq_ok_iff.mpr ⟨unix, shifted, rfl⟩,
      Timestamp.remoteText_eq_ok_iff.mpr ⟨civil, second, rfl⟩⟩
  · intro ⟨millis, rendered, bound, remote⟩
    obtain ⟨unix, shifted, rfl⟩ := Timestamp.toUnixMillis_eq_ok_iff.mp bound
    obtain ⟨civil, second, _⟩ := Timestamp.remoteText_eq_ok_iff.mp remote
    rw [Timestamp.floorDiv_second] at second
    exact ⟨_, Datum.timestamptz_display?_eq_some_iff.mpr
      ⟨_, Timestamp.text?_eq_some_iff.mpr ⟨unix, civil, shifted, second, rfl⟩, rfl⟩⟩
  · intro shown millis rendered display bound remote
    obtain ⟨text, told, rfl⟩ := Datum.timestamptz_display?_eq_some_iff.mp display
    obtain ⟨unix, civil, shifted, second, rfl⟩ := Timestamp.text?_eq_some_iff.mp told
    obtain ⟨same, shiftedAgain, rfl⟩ := Timestamp.toUnixMillis_eq_ok_iff.mp bound
    cases shifted.symm.trans shiftedAgain
    obtain ⟨civilAgain, secondAgain, rfl⟩ := Timestamp.remoteText_eq_ok_iff.mp remote
    rw [Timestamp.floorDiv_second] at secondAgain
    cases second.symm.trans secondAgain
    exact ⟨civil, _, Timestamp.isFraction_fractionText _, point_not_mem_civilText? second,
      String.toList_ofList, rfl⟩

/-- One and a quarter seconds and a microsecond before 1970-01-01 UTC. -/
def beforeEpoch : Signed 64 := ⟨-946684801250001, by decide, by decide⟩

theorem instant_shown_iff_rendered_beforeEpoch :
    (Datum.timestamptz beforeEpoch).display? = some "1969-12-31 23:59:58.749999+00" ∧
      (∃ millis : Signed 64, millis.toInt = -1251 ∧
        toUnixMillis beforeEpoch false Zone.utc = .ok millis ∧
        remoteText millis = .ok "1969-12-31 23:59:58 UTC".toList ∧
        ∃ civil fraction, Timestamp.IsFraction fraction ∧ '.' ∉ civil ∧
          "1969-12-31 23:59:58.749999+00".toList = civil ++ fraction ++ "+00".toList ∧
          "1969-12-31 23:59:58 UTC".toList = civil ++ " UTC".toList) ∧
      (Datum.timestamptz pastCalendar).display? = none ∧
      ∀ millis rendered, toUnixMillis pastCalendar false Zone.utc = .ok millis →
        remoteText millis ≠ .ok rendered := by
  obtain ⟨_, _, told⟩ := instant_shown_iff_rendered beforeEpoch Zone.utc
  obtain ⟨both, _, _⟩ := instant_shown_iff_rendered pastCalendar Zone.utc
  have shown : (Datum.timestamptz beforeEpoch).display? =
      some "1969-12-31 23:59:58.749999+00" := by decide +kernel
  have bound : toUnixMillis beforeEpoch false Zone.utc = .ok ⟨-1251, by decide, by decide⟩ := by
    decide +kernel
  have remote : remoteText ⟨-1251, by decide, by decide⟩ =
      .ok "1969-12-31 23:59:58 UTC".toList := by decide +kernel
  have hidden : (Datum.timestamptz pastCalendar).display? = none := by decide +kernel
  refine ⟨shown, ⟨_, rfl, bound, remote, told _ _ _ shown bound remote⟩, hidden, ?_⟩
  intro millis text moved written
  obtain ⟨_, display⟩ := both.mpr ⟨millis, text, moved, written⟩
  cases hidden.symm.trans display

end ForeignTable
