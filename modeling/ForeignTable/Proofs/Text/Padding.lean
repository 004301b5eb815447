import Mathlib.Data.Nat.Digits.Defs
import ForeignTable.Proofs.Text.Numeral

/-! Digits of a fixed width. Zeros in front fill a number up to its width, and zeros that are
dropped at the end can be put back when the width is known. -/

set_option autoImplicit false

namespace ForeignTable.Text

theorem length_paddedDigits {width value : Nat} (positive : 0 < width)
    (fits : value < 10 ^ width) : (paddedDigits width value).length = width := by
  have bounded : (digits value).length ≤ width := Nat.toDigits_length 10 value width positive fits
  rw [paddedDigits, zeroPad, List.length_append, List.length_replicate]
  omega

def dropZeros (text : List Char) : List Char := (text.reverse.dropWhile (· == '0')).reverse

private theorem exists_dropZeros_append (text : List Char) :
    ∃ count, dropZeros text ++ List.replicate count '0' = text := by
  have zeros : ∀ c ∈ text.reverse.takeWhile (· == '0'), c = '0' := by
    intro c member
    exact beq_iff_eq.mp (List.all_eq_true.mp List.all_takeWhile c member)
  refine ⟨(text.reverse.takeWhile (· == '0')).length, ?_⟩
  rw [dropZeros, ← List.reverse_replicate, ← List.eq_replicate_of_mem zeros, ← List.reverse_append,
    List.takeWhile_append_dropWhile, List.reverse_reverse]

theorem take_dropZeros_append {text : List Char} {width : Nat} (sized : text.length = width) :
    (dropZeros text ++ List.replicate width '0').take width = text := by
  obtain ⟨count, restored⟩ := exists_dropZeros_append text
  have lengths := congrArg List.length restored
  rw [List.length_append, List.length_replicate, sized] at lengths
  have enough : List.replicate width '0' =
      List.replicate count '0' ++ List.replicate (width - count) '0' := by
    rw [List.replicate_append_replicate]
    congr 1
    omega
  rw [enough, ← List.append_assoc, restored, ← sized, List.take_left]

private theorem dropZeros_ne_nil {text : List Char} {value : Nat}
    (denoted : natural? text = some value) (positive : value ≠ 0) : dropZeros text ≠ [] := by
  intro none
  obtain ⟨count, restored⟩ := exists_dropZeros_append text
  obtain ⟨_, _, counted⟩ := natural?_eq_some_iff.mp denoted
  rw [none, List.nil_append] at restored
  rw [← restored, Nat.ofDigitChars_replicate_zero, Nat.mul_zero] at counted
  exact positive counted.symm

theorem isDigit_of_mem_dropZeros {text : List Char} (digits : allDigits text = true) {c : Char}
    (member : c ∈ dropZeros text) : c.isDigit = true := by
  obtain ⟨count, restored⟩ := exists_dropZeros_append text
  rw [← restored, allDigits, List.all_append, Bool.and_eq_true] at digits
  exact List.all_eq_true.mp digits.1 c member

/-- What is left of a number without the zeros at its end are digits again. -/
theorem dropZeros_digits {text : List Char} {value : Nat} (denoted : natural? text = some value)
    (positive : value ≠ 0) : dropZeros text ≠ [] ∧ allDigits (dropZeros text) = true := by
  refine ⟨dropZeros_ne_nil denoted positive, List.all_eq_true.mpr ?_⟩
  intro c
  exact isDigit_of_mem_dropZeros (natural?_eq_some_iff.mp denoted).2.1

end ForeignTable.Text
