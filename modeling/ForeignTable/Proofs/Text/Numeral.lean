import Mathlib.Algebra.Group.Nat.Defs
import ForeignTable.Proofs.Text.Split
import ForeignTable.Text.Integer

/-! Numbers in texts. What the printers write reads back as the number, with leading zeros
or without, and hides neither a blank nor a separator. -/

set_option autoImplicit false

namespace ForeignTable.Text

/-!
## Digits
-/

theorem toNat_of_isDigit {c : Char} (digit : c.isDigit = true) :
    48 ≤ c.toNat ∧ c.toNat ≤ 57 := by
  simpa [Char.isDigit, UInt32.le_iff_toNat_le] using digit

theorem isBlank_of_isDigit {c : Char} (digit : c.isDigit = true) : isBlank c = false := by
  have range := toNat_of_isDigit digit
  simp only [isBlank, Bool.or_eq_false_iff, Bool.and_eq_false_iff, decide_eq_false_iff_not,
    beq_eq_false_iff_ne]
  omega

theorem not_mem_of_allDigits {text : List Char} {c : Char} (digits : allDigits text = true)
    (other : c.isDigit = false) : c ∉ text := by
  intro member
  have digit := List.all_eq_true.mp digits c member
  rw [other] at digit
  cases digit

theorem isBlank_of_allDigits {text : List Char} (digits : allDigits text = true) :
    ∀ c ∈ text, isBlank c = false := by
  intro c member
  exact isBlank_of_isDigit (List.all_eq_true.mp digits c member)

theorem natural?_eq_some_iff {text : List Char} {value : Nat} :
    natural? text = some value ↔
      text ≠ [] ∧ allDigits text = true ∧ Nat.ofDigitChars 10 text 0 = value := by
  unfold natural?
  cases text with
  | nil => simp
  | cons c rest => cases digits : allDigits (c :: rest) <;> simp

private theorem ofDigitChars_lt {text : List Char} (digits : allDigits text = true) (start : Nat) :
    Nat.ofDigitChars 10 text start < (start + 1) * 10 ^ text.length := by
  induction text generalizing start with
  | nil => simp
  | cons c rest ih =>
      obtain ⟨digit, others⟩ := Bool.and_eq_true_iff.mp digits
      have range := toNat_of_isDigit digit
      have next : 10 * start + (c.toNat - '0'.toNat) + 1 ≤ (start + 1) * 10 := by
        change 10 * start + (c.toNat - 48) + 1 ≤ (start + 1) * 10
        omega
      rw [Nat.ofDigitChars_cons, List.length_cons, Nat.pow_succ, Nat.mul_comm (10 ^ _),
        ← Nat.mul_assoc]
      exact Nat.lt_of_lt_of_le (ih others _) (Nat.mul_le_mul_right _ next)

theorem natural?_lt {text : List Char} {value : Nat} (found : natural? text = some value) :
    value < 10 ^ text.length := by
  obtain ⟨_, digits, rfl⟩ := natural?_eq_some_iff.mp found
  simpa using ofDigitChars_lt digits 0

private theorem natural?_zeroPad {text : List Char} {value : Nat} (width : Nat)
    (found : natural? text = some value) : natural? (zeroPad width text) = some value := by
  obtain ⟨filled, digits, denoted⟩ := natural?_eq_some_iff.mp found
  apply natural?_eq_some_iff.mpr
  unfold zeroPad
  refine ⟨by simp [filled], ?_, ?_⟩
  · unfold allDigits at digits ⊢
    rw [List.all_append, digits, Bool.and_true, List.all_eq_true]
    intro c member
    rw [List.eq_of_mem_replicate member]
    rfl
  · rw [Nat.ofDigitChars_append, Nat.ofDigitChars_replicate_zero, Nat.mul_zero, denoted]

theorem natural?_paddedDigits (width value : Nat) :
    natural? (paddedDigits width value) = some value :=
  natural?_zeroPad width (natural?_digits value)

theorem allDigits_paddedDigits (width value : Nat) :
    allDigits (paddedDigits width value) = true :=
  (natural?_eq_some_iff.mp (natural?_paddedDigits width value)).2.1

theorem isDigit_of_mem_paddedDigits {width value : Nat} {c : Char}
    (member : c ∈ paddedDigits width value) : c.isDigit = true :=
  List.all_eq_true.mp (allDigits_paddedDigits width value) c member

theorem not_mem_paddedDigits {mark : Char} (other : mark.isDigit = false) (width value : Nat) :
    mark ∉ paddedDigits width value :=
  not_mem_of_allDigits (allDigits_paddedDigits width value) other

theorem mem_paddedInteger {width : Nat} {value : Int} {c : Char}
    (member : c ∈ paddedInteger width value) : c.isDigit = true ∨ c = '-' := by
  cases value with
  | ofNat magnitude => exact .inl (isDigit_of_mem_paddedDigits member)
  | negSucc predecessor =>
      cases List.mem_cons.mp member with
      | inl sign => exact .inr sign
      | inr digit => exact .inl (isDigit_of_mem_paddedDigits digit)

/-!
## Literals
-/

theorem integer?_of_natural? {text : List Char} {value : Nat}
    (found : natural? text = some value) : integer? text = some (value : Int) := by
  obtain ⟨_, digits, _⟩ := natural?_eq_some_iff.mp found
  unfold integer?
  split
  · exact absurd List.mem_cons_self (not_mem_of_allDigits digits (c := '-') rfl)
  · exact absurd List.mem_cons_self (not_mem_of_allDigits digits (c := '+') rfl)
  · rw [found]
    rfl

theorem unsigned?_of_natural? {bound : Nat} {text : List Char} {value : Nat}
    (found : natural? text = some value) (inside : value < bound) :
    unsigned? bound text = some value := by
  obtain ⟨_, digits, _⟩ := natural?_eq_some_iff.mp found
  unfold unsigned?
  split
  · exact absurd List.mem_cons_self (not_mem_of_allDigits digits (c := '+') rfl)
  · simp [found, inside]

theorem unsigned?_eq_some_iff {bound : Nat} {text : List Char} {value : Nat} :
    unsigned? bound text = some value ↔ ∃ sign body, text = sign ++ body ∧
      (sign = [] ∨ sign = ['+']) ∧ natural? body = some value ∧ value < bound := by
  constructor
  · intro found
    unfold unsigned? at found
    obtain ⟨number, denoted, bounded⟩ := Option.bind_eq_some_iff.mp found
    split at bounded
    · rename_i inside
      cases bounded
      split at denoted
      · rename_i rest
        exact ⟨['+'], rest, rfl, .inr rfl, denoted, inside⟩
      · exact ⟨[], text, rfl, .inl rfl, denoted, inside⟩
    · cases bounded
  · intro ⟨sign, body, shape, signed, denoted, inside⟩
    subst shape
    cases signed with
    | inl none =>
        subst none
        exact unsigned?_of_natural? denoted inside
    | inr plus =>
        subst plus
        simp [unsigned?, denoted, inside]

theorem integer?_integerText (value : Int) : integer? (integerText value) = some value := by
  cases value with
  | ofNat magnitude => exact integer?_of_natural? (natural?_digits magnitude)
  | negSucc predecessor =>
      simp only [integerText, integer?, natural?_digits]
      rfl

theorem trim_integerText (value : Int) : trim (integerText value) = integerText value := by
  apply trim_of_unblank
  cases value with
  | ofNat magnitude => exact isBlank_of_allDigits (allDigits_digits magnitude)
  | negSucc predecessor =>
      intro c member
      rcases List.mem_cons.mp member with rfl | digit
      · rfl
      · exact isBlank_of_allDigits (allDigits_digits _) c digit

end ForeignTable.Text
