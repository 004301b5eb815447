/-!
# Signed integers of fixed width

A relational or remote integer has a width in bits. Arithmetic happens on `Int`, and
`Signed.ofInt?` is the only way back: a result that does not fit has no value, so
overflow is always a decision of the caller and never wraps.
-/

set_option autoImplicit false

namespace ForeignTable

/-- The number of non-negative values of a signed integer of `bits` bits. -/
def Signed.bound (bits : Nat) : Int := Int.ofNat (Nat.pow 2 (bits - 1))

theorem Signed.bound_pos (bits : Nat) : 0 < Signed.bound bits :=
  Int.ofNat_lt.mpr (Nat.pow_pos (by decide))

theorem Signed.bound_sixtyFour : Signed.bound 64 = 9223372036854775808 := rfl

/-- An integer that fits into `bits` bits in two's complement. -/
structure Signed (bits : Nat) where
  toInt : Int
  neg_bound_le : -Signed.bound bits ≤ toInt
  lt_bound : toInt < Signed.bound bits
deriving DecidableEq

namespace Signed

variable {bits : Nat}

theorem ext {left right : Signed bits} (same : left.toInt = right.toInt) : left = right := by
  cases left
  cases right
  cases same
  rfl

def ofInt? (bits : Nat) (value : Int) : Option (Signed bits) :=
  if fits : -bound bits ≤ value ∧ value < bound bits then
    some ⟨value, fits.1, fits.2⟩
  else
    none

theorem ofInt?_eq_some_iff {value : Int} {word : Signed bits} :
    ofInt? bits value = some word ↔ word.toInt = value := by
  unfold ofInt?
  constructor
  · intro found
    split at found
    · cases found
      rfl
    · cases found
  · intro same
    subst same
    rw [dif_pos ⟨word.neg_bound_le, word.lt_bound⟩]

@[simp] theorem ofInt?_toInt (word : Signed bits) : ofInt? bits word.toInt = some word :=
  ofInt?_eq_some_iff.mpr rfl

theorem ofInt?_of_fits {value : Int} (low : -bound bits ≤ value) (high : value < bound bits) :
    ofInt? bits value = some ⟨value, low, high⟩ :=
  dif_pos ⟨low, high⟩

theorem ofInt?_eq_none_iff {value : Int} :
    ofInt? bits value = none ↔ ¬(-bound bits ≤ value ∧ value < bound bits) := by
  unfold ofInt?
  split <;> simp_all

theorem exists_toInt_iff {value : Int} :
    (∃ word : Signed bits, word.toInt = value) ↔ -bound bits ≤ value ∧ value < bound bits := by
  constructor
  · rintro ⟨word, rfl⟩
    exact ⟨word.neg_bound_le, word.lt_bound⟩
  · rintro ⟨low, high⟩
    exact ⟨⟨value, low, high⟩, rfl⟩

def zero : Signed bits :=
  ⟨0, Int.neg_nonpos_of_nonneg (Int.le_of_lt (bound_pos bits)), bound_pos bits⟩

/-- The quotient rounded toward minus infinity. It lies between zero and the dividend,
or between the dividend and minus one, so it always fits. -/
def floorDiv (word : Signed bits) (divisor : Nat) : Signed bits where
  toInt := word.toInt / (divisor : Int)
  neg_bound_le := by
    have low := word.neg_bound_le
    have positive := bound_pos bits
    rcases Nat.eq_zero_or_pos divisor with none | some
    · subst none
      simp
      omega
    · have scale : (1 : Int) ≤ divisor := Int.ofNat_le.mpr some
      rcases Int.lt_or_le word.toInt 0 with negative | nonnegative
      · have step := Int.mul_le_mul_of_nonpos_left (Int.le_of_lt negative) scale
        have := Int.le_ediv_of_mul_le (by omega : (0 : Int) < divisor)
          (by omega : word.toInt * divisor ≤ word.toInt)
        omega
      · have := Int.ediv_nonneg nonnegative (by omega : (0 : Int) ≤ divisor)
        omega
  lt_bound := by
    have high := word.lt_bound
    have positive := bound_pos bits
    rcases Nat.eq_zero_or_pos divisor with none | some
    · subst none
      simpa using positive
    · rcases Int.lt_or_le word.toInt 0 with negative | nonnegative
      · have := Int.ediv_neg_of_neg_of_pos negative (Int.ofNat_lt.mpr some)
        omega
      · have := Int.ediv_le_self (divisor : Int) nonnegative
        omega

end Signed

end ForeignTable
