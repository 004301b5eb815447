import ForeignTable.Calendar.Instant
import ForeignTable.Proofs.Text.Numeral

/-! The civil calendar. Every day number in the years of the calendar has its date, which
counts back to it, so a civil text tells the second it was written for. -/

set_option autoImplicit false

namespace ForeignTable

def civilYear (seconds : Int) : Int :=
  yearOfDay (seconds / secondsPerDay + Date.unixEpochDay)

/-- The count of seconds lies in a year that is written with four digits and no sign. -/
def FourDigitYear (seconds : Int) : Prop := 0 ≤ civilYear seconds ∧ civilYear seconds ≤ 9999

instance (seconds : Int) : Decidable (FourDigitYear seconds) :=
  inferInstanceAs (Decidable (_ ∧ _))

private theorem civilYear_spec (seconds : Int) :
    daysBeforeYear (civilYear seconds) ≤ seconds / secondsPerDay + Date.unixEpochDay ∧
      seconds / secondsPerDay + Date.unixEpochDay < daysBeforeYear (civilYear seconds + 1) :=
  yearOfDay_spec _

theorem FourDigitYear.bounds {seconds : Int} (written : FourDigitYear seconds) :
    -62167219200 ≤ seconds ∧ seconds < 253402300800 := by
  obtain ⟨low, high⟩ := written
  obtain ⟨started, unfinished⟩ := civilYear_spec seconds
  simp only [daysBeforeYear, Date.unixEpochDay, secondsPerDay] at started unfinished
  omega

/-- The count of seconds lies in a year of the calendar. -/
def InCalendar (seconds : Int) : Prop := -9999 ≤ civilYear seconds ∧ civilYear seconds ≤ 9999

theorem inCalendar_iff {seconds : Int} :
    InCalendar seconds ↔ -377705116800 ≤ seconds ∧ seconds < 253402300800 := by
  obtain ⟨started, unfinished⟩ := civilYear_spec seconds
  simp only [daysBeforeYear, Date.unixEpochDay, secondsPerDay] at started unfinished
  unfold InCalendar
  omega

theorem FourDigitYear.inCalendar {seconds : Int} (written : FourDigitYear seconds) :
    InCalendar seconds :=
  ⟨Int.le_trans (by decide) written.1, written.2⟩

/-!
## Days of a year
-/

private theorem daysBeforeYear_succ (year : Int) :
    daysBeforeYear (year + 1) = daysBeforeYear year + if isLeapYear year then 366 else 365 := by
  cases leap : isLeapYear year with
  | false =>
      simp only [isLeapYear, Bool.and_eq_false_iff, Bool.or_eq_false_iff, beq_eq_false_iff_ne,
        bne_eq_false_iff_eq] at leap
      simp only [daysBeforeYear, Bool.false_eq_true, if_false]
      omega
  | true =>
      simp only [isLeapYear, Bool.and_eq_true, Bool.or_eq_true, beq_iff_eq, bne_iff_ne] at leap
      simp only [daysBeforeYear, if_true]
      omega

private theorem spanBefore_monthLengths (year : Int) :
    daysBeforeYear (year + 1) =
      daysBeforeYear year + spanBefore (monthLengths year) (monthLengths year).length := by
  rw [daysBeforeYear_succ]
  unfold monthLengths
  cases isLeapYear year <;> rfl

private theorem spanBefore_add_lt {spans : List Nat} {index inner length : Nat}
    (found : spans[index]? = some length) (within : inner < length) :
    spanBefore spans index + inner < spanBefore spans spans.length := by
  induction spans generalizing index with
  | nil => cases found
  | cons first rest ih =>
      cases index with
      | zero =>
          cases found
          simp only [spanBefore, List.length_cons]
          omega
      | succ index =>
          have later := ih found
          simp only [spanBefore, List.length_cons]
          omega

namespace Date

/-- A date counts to a day of its own year. -/
theorem dayNumber_spec (date : Date) :
    daysBeforeYear date.year ≤ date.dayNumber + unixEpochDay ∧
      date.dayNumber + unixEpochDay < daysBeforeYear (date.year + 1) := by
  obtain ⟨first, last⟩ := date.day_range
  have total := spanBefore_monthLengths date.year
  cases found : (monthLengths date.year)[date.month - 1]? with
  | none =>
      rw [found, Option.getD_none] at last
      omega
  | some length =>
      rw [found, Option.getD_some] at last
      have within := spanBefore_add_lt found (show date.day - 1 < length by omega)
      unfold dayNumber
      omega

theorem dayNumber_range (date : Date) :
    -4371587 ≤ date.dayNumber ∧ date.dayNumber ≤ 2932896 := by
  obtain ⟨low, high⟩ := date.year_range
  obtain ⟨started, unfinished⟩ := date.dayNumber_spec
  simp only [daysBeforeYear, unixEpochDay] at started unfinished
  omega

theorem ofParts?_self (date : Date) : ofParts? date.year date.month date.day = some date := by
  simp only [ofParts?, date.year_range, date.month_range, date.day_range, and_self, dite_true]

/-- A day number in the years of the calendar has a date, which counts back to it. -/
theorem ofDayNumber?_of_year (number : Int)
    (inYears : -9999 ≤ yearOfDay (number + unixEpochDay) ∧
      yearOfDay (number + unixEpochDay) ≤ 9999) :
    ∃ date, ofDayNumber? number = some date ∧
      date.year = yearOfDay (number + unixEpochDay) ∧ date.dayNumber = number := by
  obtain ⟨started, unfinished⟩ := yearOfDay_spec (number + unixEpochDay)
  generalize yearSame : yearOfDay (number + unixEpochDay) = year at *
  have total := spanBefore_monthLengths year
  have inside : (number + unixEpochDay - daysBeforeYear year).toNat <
      spanBefore (monthLengths year) (monthLengths year).length := by omega
  obtain ⟨length, found, within, located⟩ := locate_spec inside
  generalize place : locate (monthLengths year)
    (number + unixEpochDay - daysBeforeYear year).toNat = spot at *
  obtain ⟨month, inner⟩ := spot
  have inMonths : month < 12 := (List.getElem?_eq_some_iff.mp found).1
  have inDays : 1 ≤ inner + 1 ∧
      inner + 1 ≤ ((monthLengths year)[month + 1 - 1]?).getD 0 := by
    rw [Nat.add_sub_cancel, found]
    exact ⟨by omega, within⟩
  refine ⟨⟨year, month + 1, inner + 1, inYears, by omega, inDays⟩, ?_, rfl, ?_⟩
  · unfold ofDayNumber?
    simp only [yearSame, place]
    exact ofParts?_self ⟨year, month + 1, inner + 1, inYears, by omega, inDays⟩
  · simp only [dayNumber, Nat.add_sub_cancel] at located ⊢
    omega

private theorem year_of_ofDayNumber? {number : Int} {date : Date}
    (found : ofDayNumber? number = some date) : date.year = yearOfDay (number + unixEpochDay) := by
  simp only [ofDayNumber?, ofParts?] at found
  split at found
  · split at found
    · split at found
      · cases found
        rfl
      · cases found
    · cases found
  · cases found

end Date

/-!
## Seconds
-/

/-- A count of seconds in the calendar is written as its date and its second of the day. -/
theorem civilText?_of_inCalendar {seconds : Int} (inside : InCalendar seconds) :
    ∃ date : Date, date.year = civilYear seconds ∧ date.dayNumber = seconds / secondsPerDay ∧
      civilText? seconds = some (date.text ++ ' ' :: clockText (seconds % secondsPerDay).toNat) := by
  obtain ⟨date, found, year, counted⟩ := Date.ofDayNumber?_of_year (seconds / secondsPerDay) inside
  refine ⟨date, year, counted, ?_⟩
  rw [civilText?, found]
  rfl

theorem civilText?_isSome_iff {seconds : Int} :
    (civilText? seconds).isSome = true ↔ InCalendar seconds := by
  constructor
  · intro shown
    obtain ⟨civil, shown⟩ := Option.isSome_iff_exists.mp shown
    obtain ⟨date, found, _⟩ := Option.map_eq_some_iff.mp shown
    have range := date.year_range
    rw [Date.year_of_ofDayNumber? found] at range
    exact range
  · intro inside
    obtain ⟨date, _, _, shown⟩ := civilText?_of_inCalendar inside
    rw [shown]
    rfl

end ForeignTable
