import ForeignTable.Proofs.Text.Split
import ForeignTable.Timestamp.Reading
import Mathlib.Data.List.TakeWhile

/-! Parts of a timestamp. The text of a date, a time of day and a zone is cut into three texts that
are read one by one; where it is cut depends on the characters alone. -/

set_option autoImplicit false

namespace ForeignTable.Timestamp

/-!
## Cuts
-/

def isDateCharacter (c : Char) : Bool := c != ' ' && c != 'T'

def datePart (text : List Char) : List Char := text.takeWhile isDateCharacter

def behindDate (text : List Char) : List Char :=
  Text.trimStart (text.drop ((datePart text).length + 1))

def clockOrMidnight? (text : List Char) : Option Nat :=
  if text.isEmpty then some 0 else clock? text

theorem clockOrMidnight?_of_filled {text : List Char} (filled : text ≠ []) :
    clockOrMidnight? text = clock? text := by
  rw [clockOrMidnight?, List.isEmpty_eq_false_iff.mpr filled]
  rfl

theorem datePart_blank {text : List Char} (unmarked : datePart text = text) (rest : List Char) :
    datePart (text ++ ' ' :: rest) = text := by
  apply Text.takeWhile_append_of_stop (List.takeWhile_eq_self_iff.mp unmarked)
  intro c here
  cases here
  rfl

theorem behindDate_blank {text : List Char} (unmarked : datePart text = text)
    (rest : List Char) : behindDate (text ++ ' ' :: rest) = Text.trimStart rest := by
  rw [behindDate, datePart_blank unmarked, ← List.drop_drop, List.drop_left]
  rfl

/-!
## Readings
-/

/-- The three parts of a text are read one by one. -/
theorem reading?_eq (text : List Char) :
    reading? text = (date? (datePart (Text.trim text))).bind fun date =>
      (clockOrMidnight? ((behindDate (Text.trim text)).takeWhile isClockCharacter)).bind fun clock =>
        (zone? (Text.trim ((behindDate (Text.trim text)).dropWhile isClockCharacter))).map fun zone =>
          ⟨date.dayNumber * 86400000000 + (clock : Int), zone⟩ := by
  have named : (fun c : Char => c != ' ' && c != 'T') = isDateCharacter := rfl
  simp only [← Text.drop_takeWhile]
  unfold reading? clockOrMidnight? behindDate datePart
  simp only [named]
  cases date? ((Text.trim text).takeWhile isDateCharacter) with
  | none => rfl
  | some date =>
      simp only [Option.bind_eq_bind, Option.bind_some]
      split
      · rw [Option.bind_some]
        exact Option.map_eq_bind.symm
      · congr 1
        funext clock
        exact Option.map_eq_bind.symm

theorem reading?_eq_some_iff {text : List Char} {reading : Reading} :
    reading? text = some reading ↔ ∃ date clock,
      date? (datePart (Text.trim text)) = some date ∧
      clockOrMidnight? ((behindDate (Text.trim text)).takeWhile isClockCharacter) = some clock ∧
      zone? (Text.trim ((behindDate (Text.trim text)).dropWhile isClockCharacter)) =
        some reading.offset ∧
      date.dayNumber * 86400000000 + (clock : Int) = reading.micros := by
  rw [reading?_eq]
  simp only [Option.bind_eq_some_iff, Option.map_eq_some_iff]
  constructor
  · intro ⟨date, readDate, clock, readClock, offset, readZone, shape⟩
    cases shape
    exact ⟨date, clock, readDate, readClock, readZone, rfl⟩
  · intro ⟨date, clock, readDate, readClock, readZone, counted⟩
    exact ⟨date, readDate, clock, readClock, reading.offset, readZone, by rw [counted]⟩

end ForeignTable.Timestamp
