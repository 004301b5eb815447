import ForeignTable.Text.Digits
import ForeignTable.Text.Integer

/-!
# Civil dates

Dates of the proleptic Gregorian calendar in the years -9999 to 9999, and the day numbers
that count them. Day zero is 1970-01-01; `Date.dayNumber` and `Date.ofDayNumber?` are the
two directions of the same count.
-/

set_option autoImplicit false

namespace ForeignTable

def isLeapYear (year : Int) : Bool :=
  year % 4 == 0 && (year % 100 != 0 || year % 400 == 0)

def monthLengths (year : Int) : List Nat :=
  [31, if isLeapYear year then 29 else 28, 31, 30, 31, 30, 31, 31, 30, 31, 30, 31]

/-- The days from January 1 of year 1 to January 1 of `year`. -/
def daysBeforeYear (year : Int) : Int :=
  let elapsed := year - 1
  365 * elapsed + elapsed / 4 - elapsed / 100 + elapsed / 400

/-- The year that holds the day with this count from January 1 of year 1. Four hundred
years have 146097 days; the mean year misses the right one by at most one year. -/
def yearOfDay (day : Int) : Int :=
  let guess := day * 400 / 146097 + 1
  if day < daysBeforeYear guess then guess - 1
  else if daysBeforeYear (guess + 1) ≤ day then guess + 1
  else guess

theorem yearOfDay_spec (day : Int) :
    daysBeforeYear (yearOfDay day) ≤ day ∧ day < daysBeforeYear (yearOfDay day + 1) := by
  unfold yearOfDay
  simp only
  split
  · simp only [daysBeforeYear] at *
    omega
  · split <;> (simp only [daysBeforeYear] at *; omega)

/-- Walks over consecutive spans: the index of the span that holds `position`, and the
position within it. -/
def locate : List Nat → Nat → Nat × Nat
  | [], position => (0, position)
  | length :: rest, position =>
      if position < length then (0, position)
      else
        let (index, inner) := locate rest (position - length)
        (index + 1, inner)

def spanBefore : List Nat → Nat → Nat
  | length :: rest, count + 1 => length + spanBefore rest count
  | _, _ => 0

theorem locate_spec {spans : List Nat} {position : Nat}
    (inside : position < spanBefore spans spans.length) :
    ∃ length, spans[(locate spans position).1]? = some length ∧
      (locate spans position).2 < length ∧
      spanBefore spans (locate spans position).1 + (locate spans position).2 = position := by
  induction spans generalizing position with
  | nil => simp [spanBefore] at inside
  | cons first rest ih =>
      by_cases here : position < first
      · exact ⟨first, by simp [locate, here], by simp [locate, here],
          by simp [locate, here, spanBefore]⟩
      · simp only [List.length_cons, spanBefore] at inside
        obtain ⟨length, found, within, total⟩ := ih
          (show position - first < spanBefore rest rest.length by omega)
        refine ⟨length, by simp [locate, here, found], by simp [locate, here, within], ?_⟩
        simp only [locate, here, if_false, spanBefore]
        omega

/-- A date of the calendar, year by astronomical count: year 0 precedes year 1. -/
structure Date where
  year : Int
  month : Nat
  day : Nat
  year_range : -9999 ≤ year ∧ year ≤ 9999
  month_range : 1 ≤ month ∧ month ≤ 12
  day_range : 1 ≤ day ∧ day ≤ ((monthLengths year)[month - 1]?).getD 0
deriving DecidableEq

namespace Date

def ofParts? (year : Int) (month day : Nat) : Option Date :=
  if inYears : -9999 ≤ year ∧ year ≤ 9999 then
    if inMonths : 1 ≤ month ∧ month ≤ 12 then
      if inDays : 1 ≤ day ∧ day ≤ ((monthLengths year)[month - 1]?).getD 0 then
        some ⟨year, month, day, inYears, inMonths, inDays⟩
      else none
    else none
  else none

/-- Day zero, 1970-01-01, counted from January 1 of year 1. -/
def unixEpochDay : Int := 719162

/-- The days from 1970-01-01 to this date. -/
def dayNumber (date : Date) : Int :=
  daysBeforeYear date.year + (spanBefore (monthLengths date.year) (date.month - 1) : Int) +
    ((date.day - 1 : Nat) : Int) - unixEpochDay

def ofDayNumber? (number : Int) : Option Date :=
  let day := number + unixEpochDay
  let year := yearOfDay day
  let (month, inner) := locate (monthLengths year) (day - daysBeforeYear year).toNat
  ofParts? year (month + 1) (inner + 1)

/-- The text `YYYY-MM-DD`. The sign of a negative year counts to the four characters of
the year. -/
def text (date : Date) : List Char :=
  Text.paddedInteger 4 date.year ++ '-' :: Text.paddedDigits 2 date.month ++
    '-' :: Text.paddedDigits 2 date.day

/-- Reads exactly `count` digits and returns what follows them. -/
def fixedDigits? (count : Nat) (text : List Char) : Option (Nat × List Char) :=
  let (front, rest) := text.splitAt count
  if front.length == count then (Text.natural? front).map fun value => (value, rest) else none

/-- Reads a date in full: an optional sign and four digits for the year, two digits each
for month and day, hyphens between them, nothing before or after. -/
def ofText? (text : List Char) : Option Date := do
  let (negative, unsigned) := match text with
    | '-' :: rest => (true, rest)
    | '+' :: rest => (false, rest)
    | _ => (false, text)
  let (year, afterYear) ← fixedDigits? 4 unsigned
  match afterYear with
  | '-' :: monthText => do
      let (month, afterMonth) ← fixedDigits? 2 monthText
      match afterMonth with
      | '-' :: dayText => do
          let (day, rest) ← fixedDigits? 2 dayText
          if rest.isEmpty then
            ofParts? (if negative then -(year : Int) else year) month day
          else none
      | _ => none
  | _ => none

end Date

end ForeignTable
