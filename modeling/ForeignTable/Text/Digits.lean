/-!
# Decimal digit strings

Reading and writing natural numbers with the ASCII digits. The digits of a number carry
no leading zeros; a digit string that is read may have any number of them.
-/

set_option autoImplicit false

namespace ForeignTable.Text

def allDigits (text : List Char) : Bool := text.all Char.isDigit

def natural? (text : List Char) : Option Nat :=
  if !text.isEmpty && allDigits text then some (Nat.ofDigitChars 10 text 0) else none

def digits (value : Nat) : List Char := Nat.toDigits 10 value

/-- Puts zeros in front until the text is at least `width` characters long. -/
def zeroPad (width : Nat) (text : List Char) : List Char :=
  List.replicate (width - text.length) '0' ++ text

def paddedDigits (width value : Nat) : List Char := zeroPad width (digits value)

theorem allDigits_digits (value : Nat) : allDigits (digits value) = true := by
  simp only [allDigits, List.all_eq_true, digits]
  intro c member
  exact Nat.isDigit_of_mem_toDigits (by decide) (by decide) member

private theorem digits_ne_nil (value : Nat) : digits value ≠ [] := Nat.toDigits_ne_nil

@[simp] theorem natural?_digits (value : Nat) : natural? (digits value) = some value := by
  have filled : (digits value).isEmpty = false := by
    simpa [List.isEmpty_iff] using digits_ne_nil value
  unfold natural?
  rw [filled, allDigits_digits]
  simp [digits]

end ForeignTable.Text
