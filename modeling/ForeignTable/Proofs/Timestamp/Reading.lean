import ForeignTable.Proofs.Calendar.Civil
import ForeignTable.Proofs.Text.Padding
import ForeignTable.Proofs.Timestamp.Parts
import Mathlib.Data.List.Basic

/-! Reading civil texts. A date with a four-digit year, a time of day and a zone behind it
are found again where they were written, and the reading is the microsecond that was written. -/

set_option autoImplicit false

namespace ForeignTable

/-!
## Dates
-/

theorem Date.day_le (date : Date) : date.day ≤ 31 := by
  obtain ⟨_, inMonth⟩ := date.day_range
  have bounded : ∀ length ∈ monthLengths date.year, length ≤ 31 := by
    unfold monthLengths
    cases isLeapYear date.year <;> decide
  cases found : (monthLengths date.year)[date.month - 1]? with
  | none =>
      rw [found] at inMonth
      exact Nat.le_trans inMonth (Nat.zero_le 31)
  | some length =>
      rw [found] at inMonth
      exact Nat.le_trans inMonth (bounded length (List.mem_of_getElem? found))

/-- A date in digits: the sign of a negative year is the only other character it could have. -/
theorem Date.text_eq {date : Date} {year : Nat} (written : date.year = year) :
    date.text = Text.paddedDigits 4 year ++
      '-' :: (Text.paddedDigits 2 date.month ++ '-' :: Text.paddedDigits 2 date.day) := by
  simp only [Date.text, written, List.append_assoc, List.cons_append]
  rfl

theorem Date.mem_text {date : Date} {c : Char} (member : c ∈ date.text) :
    c.isDigit = true ∨ c = '-' := by
  simp only [Date.text, List.append_assoc, List.cons_append, List.mem_append, List.mem_cons]
    at member
  rcases member with inYear | mark | inMonth | mark | inDay
  · exact Text.mem_paddedInteger inYear
  · exact .inr mark
  · exact .inl (Text.isDigit_of_mem_paddedDigits inMonth)
  · exact .inr mark
  · exact .inl (Text.isDigit_of_mem_paddedDigits inDay)

theorem Date.isDigit_text_head {date : Date} (written : 0 ≤ date.year) :
    ∀ c ∈ date.text.head?, c.isDigit = true := by
  obtain ⟨year, same⟩ := Int.eq_ofNat_of_zero_le written
  obtain ⟨filled, digits, _⟩ := Text.natural?_eq_some_iff.mp (Text.natural?_paddedDigits 4 year)
  rw [Date.text_eq same, List.head?_append_of_ne_nil _ filled]
  intro c here
  exact List.all_eq_true.mp digits c (List.mem_of_mem_head? here)

private theorem Date.text_head {date : Date} (written : 0 ≤ date.year) :
    ∀ c ∈ date.text.head?, Text.isBlank c = false := by
  intro c here
  exact Text.isBlank_of_isDigit (date.isDigit_text_head written c here)

namespace Timestamp

private theorem date?_text {date : Date} (written : 0 ≤ date.year) :
    date? date.text = some date := by
  obtain ⟨year, same⟩ := Int.eq_ofNat_of_zero_le written
  have unmarked : ∀ width value, '-' ∉ Text.paddedDigits width value :=
    Text.not_mem_paddedDigits rfl
  have inMonths : date.month < 256 := by
    have := date.month_range
    omega
  have inDays : date.day < 256 := by
    have := date.day_le
    omega
  have readYear := Text.integer?_of_natural? (Text.natural?_paddedDigits 4 year)
  have readMonth :=
    Text.unsigned?_of_natural? (Text.natural?_paddedDigits 2 date.month) inMonths
  have readDay := Text.unsigned?_of_natural? (Text.natural?_paddedDigits 2 date.day) inDays
  rw [Date.text_eq same]
  unfold date?
  simp only [Text.splitOnce_append (unmarked _ _), readYear, readMonth, readDay, ← same,
    Date.ofParts?_self, Option.bind_eq_bind, Option.bind_some]

/-!
## Times of day
-/

theorem below?_eq_some_iff {bound value : Nat} {text : List Char} :
    below? bound text = some value ↔ Text.natural? text = some value ∧ value < bound := by
  unfold below?
  rw [Option.bind_eq_some_iff]
  constructor
  · intro ⟨number, denoted, inside⟩
    split at inside
    · rename_i below
      cases inside
      exact ⟨denoted, below⟩
    · cases inside
  · intro ⟨denoted, inside⟩
    exact ⟨value, denoted, if_pos inside⟩

theorem below?_of_natural? {bound value : Nat} {text : List Char}
    (found : Text.natural? text = some value) (inside : value < bound) :
    below? bound text = some value :=
  below?_eq_some_iff.mpr ⟨found, inside⟩

private theorem seconds?_paddedDigits {second : Nat} (inMinute : second < 60) :
    seconds? (Text.paddedDigits 2 second) = some (second * 1000000) := by
  have unmarked : Text.splitOnce '.' (Text.paddedDigits 2 second) = none := by
    apply Text.splitOnce_eq_none_iff.mpr
    exact Text.not_mem_paddedDigits rfl 2 second
  unfold seconds?
  rw [unmarked]
  simp only [below?_of_natural? (Text.natural?_paddedDigits 2 second) inMinute, Option.map_some]

theorem fractionText_zero : fractionText 0 = [] := rfl

/-- A fraction is written without the zeros at its end; the reader puts them back. -/
theorem fractionText_of_ne_zero {micros : Nat} (positive : micros ≠ 0) :
    fractionText micros = '.' :: Text.dropZeros (Text.paddedDigits 6 micros) := by
  have unequal : (micros == 0) = false := beq_eq_false_iff_ne.mpr positive
  unfold fractionText
  rw [unequal]
  rfl

/-- A fraction of a second as it is written: nothing, or a point and digits. -/
def IsFraction (text : List Char) : Prop :=
  text = [] ∨ ∃ digits, text = '.' :: digits ∧ digits ≠ [] ∧ Text.allDigits digits = true

theorem isFraction_fractionText (micros : Nat) : IsFraction (fractionText micros) := by
  by_cases zero : micros = 0
  · exact .inl (zero ▸ fractionText_zero)
  · exact .inr ⟨_, fractionText_of_ne_zero zero,
      Text.dropZeros_digits (Text.natural?_paddedDigits 6 micros) zero⟩

private theorem seconds?_fractionText {second micros : Nat} (inMinute : second < 60)
    (inSecond : micros < 1000000) :
    seconds? (Text.paddedDigits 2 second ++ fractionText micros) =
      some (second * 1000000 + micros) := by
  by_cases zero : micros = 0
  · rw [zero, fractionText_zero, List.append_nil, Nat.add_zero]
    exact seconds?_paddedDigits inMinute
  · have unmarked : '.' ∉ Text.paddedDigits 2 second := Text.not_mem_paddedDigits rfl 2 second
    have written := Text.natural?_paddedDigits 6 micros
    obtain ⟨filled, digits⟩ := Text.dropZeros_digits written zero
    have fraction := Text.natural?_eq_some_iff.mpr ⟨filled, digits, rfl⟩
    have restored := Text.take_dropZeros_append
      (Text.length_paddedDigits (show 0 < 6 by decide) inSecond)
    rw [fractionText_of_ne_zero zero]
    unfold seconds?
    simp only [Text.splitOnce_append unmarked,
      below?_of_natural? (Text.natural?_paddedDigits 2 second) inMinute, fraction, restored,
      written, Option.bind_eq_bind, Option.bind_some]
    rfl

private theorem clock?_append {hour minute : Nat} (inDay : hour < 24) (inHour : minute < 60)
    (rest : List Char) :
    clock? (Text.paddedDigits 2 hour ++ ':' :: (Text.paddedDigits 2 minute ++ ':' :: rest)) =
      (seconds? rest).map fun micros => (hour * 60 + minute) * 60000000 + micros := by
  have unmarked : ∀ value, ':' ∉ Text.paddedDigits 2 value := Text.not_mem_paddedDigits rfl 2
  unfold clock?
  simp only [Text.splitOnce_append (unmarked _),
    below?_of_natural? (Text.natural?_paddedDigits 2 hour) inDay,
    below?_of_natural? (Text.natural?_paddedDigits 2 minute) inHour, Option.bind_eq_bind,
    Option.bind_some]
  cases seconds? rest <;> rfl

theorem clockText_eq (second : Nat) :
    clockText second = Text.paddedDigits 2 (second / 3600) ++
      ':' :: (Text.paddedDigits 2 (second / 60 % 60) ++ ':' ::
        Text.paddedDigits 2 (second % 60)) := by
  simp only [clockText, List.append_assoc, List.cons_append]

private theorem clock?_clockText {second micros : Nat} (inDay : second < secondsPerDay)
    (inSecond : micros < 1000000) :
    clock? (clockText second ++ fractionText micros) = some (second * 1000000 + micros) := by
  unfold secondsPerDay at inDay
  have inMinute := seconds?_fractionText (show second % 60 < 60 by omega) inSecond
  simp only [clockText_eq, List.append_assoc, List.cons_append]
  rw [clock?_append (by omega) (by omega), inMinute, Option.map_some]
  exact congrArg some (by omega)

private theorem isClockCharacter_of_mem_clockText {second : Nat} {c : Char}
    (member : c ∈ clockText second) : isClockCharacter c = true := by
  have digits : ∀ value, c ∈ Text.paddedDigits 2 value → isClockCharacter c = true := by
    intro value here
    simp [isClockCharacter, Text.isDigit_of_mem_paddedDigits here]
  rw [clockText_eq] at member
  simp only [List.mem_append, List.mem_cons] at member
  rcases member with inHour | rfl | inMinute | rfl | inSecond
  · exact digits _ inHour
  · rfl
  · exact digits _ inMinute
  · rfl
  · exact digits _ inSecond

private theorem isClockCharacter_of_mem_fractionText {micros : Nat} {c : Char}
    (member : c ∈ fractionText micros) : isClockCharacter c = true := by
  by_cases zero : micros = 0
  · rw [zero, fractionText_zero] at member
    cases member
  · rw [fractionText_of_ne_zero zero] at member
    rcases List.mem_cons.mp member with rfl | inFraction
    · rfl
    · have digit :=
        Text.isDigit_of_mem_dropZeros (Text.allDigits_paddedDigits 6 micros) inFraction
      simp [isClockCharacter, digit]

/-!
## Whole texts
-/

/-- The text of a zone that can stand behind a time of day: it does not start like more of the
time, does not end in a blank, and is read as the offset. -/
structure FollowsClock (zone : List Char) (offset : Option Zone) : Prop where
  stops : ∀ c ∈ zone.head?, isClockCharacter c = false
  ends : ∀ c ∈ zone.getLast?, Text.isBlank c = false
  read : zone? (Text.trim zone) = some offset

theorem followsClock_nothing : FollowsClock [] none where
  stops := by
    intro c first
    cases first
  ends := by
    intro c last
    cases last
  read := rfl

theorem followsClock_utcName : FollowsClock [' ', 'U', 'T', 'C'] (some Zone.utc) where
  stops := by
    intro c first
    cases first
    rfl
  ends := by
    intro c last
    cases last
    rfl
  read := rfl

theorem followsClock_utcOffset : FollowsClock ['+', '0', '0'] (some Zone.utc) where
  stops := by
    intro c first
    cases first
    rfl
  ends := by
    intro c last
    cases last
    rfl
  read := by decide

theorem isBlank_of_isClockCharacter {c : Char} (clock : isClockCharacter c = true) :
    Text.isBlank c = false := by
  simp only [isClockCharacter, Bool.or_eq_true, beq_iff_eq] at clock
  rcases clock with (digit | rfl) | rfl
  · exact Text.isBlank_of_isDigit digit
  · rfl
  · rfl

private theorem trim_dateAndClock {date : Date} {clock zone : List Char} (written : 0 ≤ date.year)
    (filled : clock ≠ []) (clockCharacters : ∀ c ∈ clock, isClockCharacter c = true)
    (ends : ∀ c ∈ zone.getLast?, Text.isBlank c = false) :
    Text.trim (date.text ++ ' ' :: (clock ++ zone)) = date.text ++ ' ' :: (clock ++ zone) := by
  apply Text.trim_eq_self
  · rw [List.head?_append_of_ne_nil _ (by simp [Date.text])]
    exact date.text_head written
  · rw [List.getLast?_append_of_ne_nil _ (List.cons_ne_nil _ _),
      List.getLast?_cons_of_ne_nil (by simp [filled])]
    apply Text.unblank_getLast?_append _ ends
    intro c member
    exact isBlank_of_isClockCharacter (clockCharacters c member)

private theorem datePart_dateText (date : Date) : datePart date.text = date.text := by
  apply List.takeWhile_eq_self_iff.mpr
  intro c member
  cases date.mem_text member with
  | inl digit =>
      have apart : ∀ mark, mark.isDigit = false → (c != mark) = true := by
        intro mark other
        apply bne_iff_ne.mpr
        intro same
        rw [same, other] at digit
        cases digit
      rw [isDateCharacter, apart ' ' rfl, apart 'T' rfl]
      rfl
  | inr hyphen =>
      subst hyphen
      rfl

/-- A date, a time of day and a zone are read apart. -/
theorem reading?_append {date : Date} {clock zone : List Char} {micros : Nat}
    {offset : Option Zone} (written : 0 ≤ date.year)
    (clockCharacters : ∀ c ∈ clock, isClockCharacter c = true)
    (readClock : clock? clock = some micros) (follows : FollowsClock zone offset) :
    reading? (date.text ++ ' ' :: (clock ++ zone)) =
      some ⟨date.dayNumber * 86400000000 + (micros : Int), offset⟩ := by
  have filled : clock ≠ [] := by
    intro empty
    rw [empty] at readClock
    cases readClock
  have trimmed := trim_dateAndClock written filled clockCharacters follows.ends
  have unblank : Text.trimStart (clock ++ zone) = clock ++ zone := by
    apply Text.trimStart_eq_self
    rw [List.head?_append_of_ne_nil _ filled]
    intro c first
    exact isBlank_of_isClockCharacter (clockCharacters c (List.mem_of_mem_head? first))
  have dated := datePart_dateText date
  apply reading?_eq_some_iff.mpr
  refine ⟨date, micros, ?_, ?_, ?_, rfl⟩
  · rw [trimmed, datePart_blank dated]
    exact date?_text written
  · rw [trimmed, behindDate_blank dated, unblank,
      Text.takeWhile_append_of_stop clockCharacters follows.stops, clockOrMidnight?_of_filled filled]
    exact readClock
  · rw [trimmed, behindDate_blank dated, unblank,
      Text.dropWhile_append_of_stop clockCharacters follows.stops]
    exact follows.read

/-- The civil text of a second in a four-digit year reads back as that second and the fraction
behind it, whatever zone follows. -/
theorem reading?_civilText? {seconds : Int} (written : FourDigitYear seconds) :
    ∃ civil, civilText? seconds = some civil ∧
      ∀ (micros : Nat) (zone : List Char) (offset : Option Zone), micros < 1000000 →
        FollowsClock zone offset →
        reading? (civil ++ (fractionText micros ++ zone)) =
          some ⟨seconds * 1000000 + micros, offset⟩ := by
  obtain ⟨date, year, counted, shown⟩ := civilText?_of_inCalendar written.inCalendar
  refine ⟨_, shown, ?_⟩
  intro micros zone offset inSecond follows
  have inDay : (seconds % secondsPerDay).toNat < secondsPerDay := by
    unfold secondsPerDay
    omega
  have fourDigits : 0 ≤ date.year := by
    rw [year]
    exact written.1
  have clockCharacters : ∀ c ∈ clockText (seconds % secondsPerDay).toNat ++ fractionText micros,
      isClockCharacter c = true := by
    intro c member
    rcases List.mem_append.mp member with inClock | inFraction
    · exact isClockCharacter_of_mem_clockText inClock
    · exact isClockCharacter_of_mem_fractionText inFraction
  rw [List.append_assoc, List.cons_append, ← List.append_assoc (clockText _)]
  rw [reading?_append fourDigits clockCharacters (clock?_clockText inDay inSecond) follows,
    counted]
  congr 2
  unfold secondsPerDay
  omega

end Timestamp

end ForeignTable
