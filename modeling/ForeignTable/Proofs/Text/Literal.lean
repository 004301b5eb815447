import Mathlib.Data.List.Induction
import ForeignTable.Proofs.Text.Numeral

/-! Literals of numbers. A numeral is one digit or a numeral with a digit behind it, an integer
literal is a numeral with an optional sign, and the readers take exactly these. -/

set_option autoImplicit false

namespace ForeignTable.Text

/-!
## Numerals
-/

/-- The value of a decimal digit is its place among the ten digits. -/
def DecimalDigit (c : Char) (value : Nat) : Prop := "0123456789".toList[value]? = some c

def DigitRun (text : List Char) : Prop := ∀ c ∈ text, ∃ value, DecimalDigit c value

/-- At least one digit, and the number that the digits denote together. -/
inductive Numeral : List Char → Nat → Prop where
  | digit {c : Char} {value : Nat} : DecimalDigit c value → Numeral [c] value
  | append {front : List Char} {c : Char} {tens value : Nat} :
      Numeral front tens → DecimalDigit c value → Numeral (front ++ [c]) (10 * tens + value)

theorem decimalDigit_iff {c : Char} {value : Nat} :
    DecimalDigit c value ↔ c.isDigit = true ∧ c.toNat - '0'.toNat = value := by
  constructor
  · intro spelled
    have all : ∀ (place : Nat) (inside : place < "0123456789".toList.length),
        ("0123456789".toList[place]).isDigit = true ∧
          ("0123456789".toList[place]).toNat - '0'.toNat = place := by decide
    obtain ⟨inside, here⟩ := List.getElem?_eq_some_iff.mp spelled
    exact here ▸ all value inside
  · intro ⟨digit, place⟩
    have all : ∀ code < 58, 48 ≤ code →
        "0123456789".toList[(Char.ofNat code).toNat - '0'.toNat]? = some (Char.ofNat code) := by
      decide
    have range := toNat_of_isDigit digit
    have spelled := all c.toNat (by omega) range.1
    rw [Char.ofNat_toNat, place] at spelled
    exact spelled

theorem allDigits_iff {text : List Char} : allDigits text = true ↔ DigitRun text := by
  simp only [allDigits, List.all_eq_true, DigitRun, decimalDigit_iff, exists_and_left, exists_eq',
    and_true]

theorem filledDigits_iff {text : List Char} :
    (!text.isEmpty && allDigits text) = true ↔ text ≠ [] ∧ DigitRun text := by
  rw [Bool.and_eq_true, Bool.not_eq_true', List.isEmpty_eq_false_iff, allDigits_iff]

theorem DigitRun.not_mem {text : List Char} (digits : DigitRun text) {mark : Char}
    (other : mark.isDigit = false) : mark ∉ text :=
  not_mem_of_allDigits (allDigits_iff.mpr digits) other

private theorem natural?_digit {c : Char} {value : Nat} (digit : DecimalDigit c value) :
    natural? [c] = some value := by
  obtain ⟨decimal, place⟩ := decimalDigit_iff.mp digit
  apply natural?_eq_some_iff.mpr
  refine ⟨List.cons_ne_nil c [], by simp [allDigits, decimal], ?_⟩
  rw [Nat.ofDigitChars_cons, Nat.ofDigitChars_nil, Nat.mul_zero, Nat.zero_add, place]

private theorem natural?_append {front : List Char} {c : Char} {tens value : Nat}
    (denoted : natural? front = some tens) (digit : DecimalDigit c value) :
    natural? (front ++ [c]) = some (10 * tens + value) := by
  obtain ⟨_, digits, counted⟩ := natural?_eq_some_iff.mp denoted
  obtain ⟨decimal, place⟩ := decimalDigit_iff.mp digit
  apply natural?_eq_some_iff.mpr
  refine ⟨List.append_ne_nil_of_right_ne_nil front (List.cons_ne_nil c []), ?_, ?_⟩
  · rw [allDigits, List.all_append, Bool.and_eq_true]
    exact ⟨digits, by simpa using decimal⟩
  · rw [Nat.ofDigitChars_append, Nat.ofDigitChars_cons, Nat.ofDigitChars_nil, counted, place]

/-- The reader of natural numbers takes exactly the numerals. -/
theorem natural?_iff_numeral {text : List Char} {value : Nat} :
    natural? text = some value ↔ Numeral text value := by
  constructor
  · intro denoted
    -- A numeral grows at its end, so the induction takes the last digit away.
    induction text using List.reverseRecOn generalizing value with
    | nil => cases denoted
    | append_singleton front c ih =>
        obtain ⟨_, digits, counted⟩ := natural?_eq_some_iff.mp denoted
        rw [allDigits, List.all_append, Bool.and_eq_true] at digits
        have last : DecimalDigit c (c.toNat - '0'.toNat) :=
          decimalDigit_iff.mpr ⟨by simpa using digits.2, rfl⟩
        rw [Nat.ofDigitChars_append, Nat.ofDigitChars_cons, Nat.ofDigitChars_nil] at counted
        subst counted
        by_cases single : front = []
        · subst single
          rw [Nat.ofDigitChars_nil, Nat.mul_zero, Nat.zero_add]
          exact .digit last
        · exact .append (ih (natural?_eq_some_iff.mpr ⟨single, digits.1, rfl⟩)) last
  · intro numeral
    induction numeral with
    | digit digit => exact natural?_digit digit
    | append _ digit ih => exact natural?_append ih digit

/-!
## Integers
-/

/-- A numeral with at most one sign in front, and the integer that it denotes. -/
inductive IntegerLiteral : List Char → Int → Prop where
  | bare {digits : List Char} {value : Nat} :
      Numeral digits value → IntegerLiteral digits value
  | plus {digits : List Char} {value : Nat} :
      Numeral digits value → IntegerLiteral ('+' :: digits) value
  | minus {digits : List Char} {value : Nat} :
      Numeral digits value → IntegerLiteral ('-' :: digits) (-value)

theorem integer?_eq_some_iff {text : List Char} {value : Int} :
    integer? text = some value ↔ IntegerLiteral text value := by
  constructor
  · intro read
    unfold integer? at read
    split at read
    · obtain ⟨_, lifted, same⟩ := Option.map_eq_some_iff.mp read
      obtain ⟨magnitude, denoted, unsigned⟩ := Option.bind_eq_some_iff.mp lifted
      cases unsigned
      subst same
      exact .minus (natural?_iff_numeral.mp denoted)
    · obtain ⟨magnitude, denoted, same⟩ := Option.map_eq_some_iff.mp read
      subst same
      exact .plus (natural?_iff_numeral.mp denoted)
    · obtain ⟨magnitude, denoted, same⟩ := Option.map_eq_some_iff.mp read
      subst same
      exact .bare (natural?_iff_numeral.mp denoted)
  · intro literal
    cases literal with
    | bare numeral => exact integer?_of_natural? (natural?_iff_numeral.mpr numeral)
    | plus numeral =>
        rw [integer?, natural?_iff_numeral.mpr numeral]
        rfl
    | minus numeral =>
        rw [integer?, natural?_iff_numeral.mpr numeral]
        rfl

theorem integer?_eq_none_iff {text : List Char} :
    integer? text = none ↔ ¬∃ value, IntegerLiteral text value := by
  simp only [Option.eq_none_iff_forall_ne_some, ne_eq, integer?_eq_some_iff, not_exists]

end ForeignTable.Text
