import ForeignTable.Timestamp
import Mathlib.Algebra.Order.Ring.Int

/-! Rounding to a precision. A precision rounds to the nearest multiple of a unit of at most a
second, so a rounded timestamp lies between two seconds as soon as half a unit is left to the
upper one. -/

set_option autoImplicit false

namespace ForeignTable.Timestamp

/-!
## Nearest multiples
-/

/-- The multiple of a unit nearest to a magnitude, the greater one of two. -/
def nearestMultiple (unit magnitude : Nat) : Int :=
  ((magnitude : Int) + (unit / 2 : Nat)) / (unit : Int) * (unit : Int)

/-- The multiple goes past the middle of two. -/
theorem lt_nearestMultiple_add {unit : Nat} (positive : 0 < unit) (magnitude : Nat) :
    (magnitude : Int) + (unit / 2 : Nat) < nearestMultiple unit magnitude + unit := by
  have scale : (0 : Int) < unit := Int.ofNat_lt.mpr positive
  have above := Int.lt_ediv_add_one_mul_self ((magnitude : Int) + (unit / 2 : Nat)) scale
  rw [Int.add_mul, Int.one_mul] at above
  exact above

theorem dvd_nearestMultiple (unit magnitude : Nat) :
    (unit : Int) ∣ nearestMultiple unit magnitude :=
  Int.dvd_mul_left _ _

theorem nearestMultiple_range {unit : Nat} (positive : 0 < unit) (magnitude : Nat) :
    0 ≤ nearestMultiple unit magnitude ∧
      2 * (magnitude : Int) ≤ 2 * nearestMultiple unit magnitude + unit ∧
      nearestMultiple unit magnitude ≤ (magnitude : Int) + (unit / 2 : Nat) := by
  have scale : (0 : Int) < unit := Int.ofNat_lt.mpr positive
  have counted : 0 ≤ ((magnitude : Int) + (unit / 2 : Nat)) / (unit : Int) :=
    Int.ediv_nonneg (by omega) (Int.le_of_lt scale)
  have nonnegative : 0 ≤ nearestMultiple unit magnitude :=
    Int.mul_nonneg counted (Int.le_of_lt scale)
  have below : nearestMultiple unit magnitude ≤ (magnitude : Int) + (unit / 2 : Nat) :=
    Int.ediv_mul_le _ (Int.ne_of_gt scale)
  have above := lt_nearestMultiple_add positive magnitude
  omega

private theorem nearestMultiple_of_dvd {unit magnitude : Nat} (positive : 0 < unit)
    (multiple : unit ∣ magnitude) : nearestMultiple unit magnitude = magnitude := by
  obtain ⟨count, rfl⟩ := multiple
  have quotient : (unit * count + unit / 2) / unit = count := by
    rw [Nat.mul_add_div positive, Nat.div_eq_of_lt (Nat.div_lt_self positive (by decide)),
      Nat.add_zero]
  have exact : (unit * count + unit / 2) / unit * unit = unit * count := by
    rw [quotient, Nat.mul_comm]
  unfold nearestMultiple
  exact_mod_cast exact

/-- The multiple of a unit nearest to a value, of two the one farther from zero. -/
def nearest (unit : Nat) (value : Int) : Int :=
  if value < 0 then -nearestMultiple unit value.natAbs else nearestMultiple unit value.natAbs

private theorem nearest_one (value : Int) : nearest 1 value = value := by
  simp only [nearest, nearestMultiple]
  omega

private theorem nearest_of_dvd {unit : Nat} {value : Int} (positive : 0 < unit)
    (multiple : unit ∣ value.natAbs) : nearest unit value = value := by
  rw [nearest, nearestMultiple_of_dvd positive multiple]
  omega

/-!
## Multiples that fit
-/

private theorem tdiv_mul_eq_nearestMultiple (unit magnitude : Nat) :
    ((magnitude : Int) + (unit / 2 : Nat)).tdiv unit * unit = nearestMultiple unit magnitude := by
  rw [Int.tdiv_eq_ediv_of_nonneg (by omega), nearestMultiple]

/-- Both signs go the same way: there has to be room for half a unit more than the magnitude, and
the result is the nearest multiple. -/
theorem toMultiple?_eq_some_iff {unit : Nat} {micros rounded : Signed 64} :
    toMultiple? unit micros = some rounded ↔
      (micros.toInt.natAbs : Int) + (unit / 2 : Nat) < Signed.bound 64 ∧
        rounded.toInt = nearest unit micros.toInt := by
  have limit := Signed.bound_pos 64
  have way := tdiv_mul_eq_nearestMultiple unit micros.toInt.natAbs
  unfold toMultiple? nearest
  split
  · rename_i nonnegative
    rw [Int.natAbs_of_nonneg nonnegative] at way ⊢
    simp only [Option.bind_eq_bind, Option.bind_eq_some_iff, Signed.ofInt?_eq_some_iff,
      if_neg (Int.not_lt.mpr nonnegative), ← way]
    constructor
    · rintro ⟨shifted, moved, counted⟩
      exact ⟨moved ▸ shifted.lt_bound, moved ▸ counted⟩
    · rintro ⟨room, counted⟩
      obtain ⟨shifted, moved⟩ : ∃ shifted : Signed 64,
          shifted.toInt = micros.toInt + (unit / 2 : Nat) :=
        Signed.exists_toInt_iff.mpr ⟨by omega, room⟩
      exact ⟨shifted, moved, moved ▸ counted⟩
  · rename_i below
    have negative := Int.not_le.mp below
    rw [Int.ofNat_natAbs_of_nonpos (Int.le_of_lt negative)] at way ⊢
    simp only [Option.bind_eq_bind, Option.bind_eq_some_iff, Signed.ofInt?_eq_some_iff,
      if_pos negative, ← way]
    constructor
    · rintro ⟨magnitude, negated, shifted, moved, counted⟩
      rw [negated] at moved
      exact ⟨moved ▸ shifted.lt_bound, moved ▸ counted⟩
    · rintro ⟨room, counted⟩
      obtain ⟨magnitude, negated⟩ : ∃ magnitude : Signed 64, magnitude.toInt = -micros.toInt :=
        Signed.exists_toInt_iff.mpr ⟨by omega, by omega⟩
      obtain ⟨shifted, moved⟩ : ∃ shifted : Signed 64,
          shifted.toInt = -micros.toInt + (unit / 2 : Nat) :=
        Signed.exists_toInt_iff.mpr ⟨by omega, room⟩
      exact ⟨magnitude, negated, shifted, negated.symm ▸ moved, moved ▸ counted⟩

/-!
## Rounded timestamps
-/

theorem roundTo_of_fine {places : Nat} (fine : maxPrecision ≤ places) (micros : Signed 64) :
    roundTo (some places) micros = .ok micros := by
  unfold roundTo
  exact if_pos fine

section

variable {micros : Signed 64} {places unit : Nat} (coarse : places < maxPrecision)
  (same : Nat.pow 10 (maxPrecision - places) = unit)

include coarse same

private theorem roundTo_eq_toMultiple? : roundTo (some places) micros =
    match toMultiple? unit micros with
    | some rounded => .ok rounded
    | none => .error (.conversion (.timestampRange micros.toInt)) := by
  subst same
  exact if_neg (Nat.not_le.mpr coarse)

theorem roundTo_of_no_room
    (full : Signed.bound 64 ≤ (micros.toInt.natAbs : Int) + (unit / 2 : Nat)) :
    roundTo (some places) micros = .error (.conversion (.timestampRange micros.toInt)) := by
  have refused : toMultiple? unit micros = none := by
    rw [Option.eq_none_iff_forall_ne_some]
    intro rounded found
    exact Int.not_lt.mpr full (toMultiple?_eq_some_iff.mp found).1
  rw [roundTo_eq_toMultiple? coarse same, refused]

theorem roundTo_of_room
    (room : (micros.toInt.natAbs : Int) + (unit / 2 : Nat) < Signed.bound 64) :
    ∃ rounded, roundTo (some places) micros = .ok rounded ∧
      rounded.toInt = nearest unit micros.toInt := by
  have positive : 0 < unit := by
    rw [← same]
    exact Nat.pow_pos (by decide)
  have limit := Signed.bound_pos 64
  have range := nearestMultiple_range positive micros.toInt.natAbs
  have fits : -Signed.bound 64 ≤ nearest unit micros.toInt ∧
      nearest unit micros.toInt < Signed.bound 64 := by
    unfold nearest
    omega
  obtain ⟨rounded, counted⟩ := Signed.exists_toInt_iff.mpr fits
  refine ⟨rounded, ?_, counted⟩
  rw [roundTo_eq_toMultiple? coarse same, toMultiple?_eq_some_iff.mpr ⟨room, counted⟩]

/-- Rounding keeps a multiple of its unit, if there is room for half a unit more. -/
theorem roundTo_of_dvd (multiple : unit ∣ micros.toInt.natAbs)
    (room : (micros.toInt.natAbs : Int) + (unit / 2 : Nat) < Signed.bound 64) :
    roundTo (some places) micros = .ok micros := by
  have positive : 0 < unit := by
    rw [← same]
    exact Nat.pow_pos (by decide)
  obtain ⟨rounded, rounds, counted⟩ := roundTo_of_room coarse same room
  rw [nearest_of_dvd positive multiple] at counted
  rw [rounds, Signed.ext counted]

end

/-!
## Precisions
-/

/-- The microseconds of which a precision keeps the multiples. -/
def roundingUnit (precision : Option Nat) : Nat :=
  10 ^ (maxPrecision - precision.getD maxPrecision)

theorem roundingUnit_pos (precision : Option Nat) : 0 < roundingUnit precision :=
  Nat.pow_pos (by decide)

theorem roundingUnit_dvd (precision : Option Nat) : roundingUnit precision ∣ 1000000 :=
  Nat.pow_dvd_pow 10 (Nat.sub_le maxPrecision _)

theorem roundTo_eq_ok {precision : Option Nat} {micros rounded : Signed 64}
    (success : roundTo precision micros = .ok rounded) :
    rounded.toInt = nearest (roundingUnit precision) micros.toInt := by
  cases precision with
  | none =>
      cases success
      exact (nearest_one _).symm
  | some places =>
      rcases Nat.lt_or_ge places maxPrecision with coarse | fine
      · rcases Int.lt_or_le ((micros.toInt.natAbs : Int) +
          (Nat.pow 10 (maxPrecision - places) / 2 : Nat)) (Signed.bound 64) with room | full
        · obtain ⟨result, rounds, signed⟩ := roundTo_of_room coarse rfl room
          rw [rounds] at success
          cases success
          exact signed
        · rw [roundTo_of_no_room coarse rfl full] at success
          cases success
      · have unit : roundingUnit (some places) = 1 := by
          rw [roundingUnit, Option.getD_some, Nat.sub_eq_zero_of_le fine, Nat.pow_zero]
        rw [roundTo_of_fine fine] at success
        cases success
        rw [unit, nearest_one]

/-!
## Bounds
-/

section

variable {unit : Nat} (positive : 0 < unit)

include positive

theorem nearestMultiple_lt_iff (magnitude : Nat) (count : Int) :
    nearestMultiple unit magnitude < count * unit ↔
      (magnitude : Int) + (unit / 2 : Nat) < count * unit := by
  have scale : (0 : Int) < unit := Int.ofNat_lt.mpr positive
  rw [nearestMultiple, Int.mul_lt_mul_right scale, Int.ediv_lt_iff_lt_mul scale]

theorem nearestMultiple_le_iff (magnitude : Nat) (count : Int) :
    nearestMultiple unit magnitude ≤ count * unit ↔
      (magnitude : Int) + (unit / 2 : Nat) < count * unit + unit := by
  have scale : (0 : Int) < unit := Int.ofNat_lt.mpr positive
  rw [nearestMultiple, Int.mul_le_mul_right scale, ← Int.lt_add_one_iff,
    Int.ediv_lt_iff_lt_mul scale, Int.add_mul, Int.one_mul]

/-- Between two multiples of the unit on either side of zero, a value is rounded to one that still
lies there when it is less than half a unit below the lower and more than half a unit below the
upper one. -/
theorem nearest_inside_iff {low high : Int} (lowAligned : (unit : Int) ∣ low)
    (highAligned : (unit : Int) ∣ high) (negative : low < 0) (above : 0 < high) (value : Int) :
    (low ≤ nearest unit value ∧ nearest unit value < high) ↔
      2 * low < 2 * value + unit ∧ 2 * value + unit < 2 * high := by
  have oneUnit := Int.le_of_dvd above highAligned
  obtain ⟨lowCount, rfl⟩ := lowAligned
  obtain ⟨highCount, rfl⟩ := highAligned
  have below := nearestMultiple_le_iff positive value.natAbs (-lowCount)
  have beneath := nearestMultiple_lt_iff positive value.natAbs highCount
  have nonnegative := (nearestMultiple_range positive value.natAbs).1
  have scaled : -lowCount * (unit : Int) = -((unit : Int) * lowCount) := by
    rw [Int.neg_mul, Int.mul_comm]
  rw [scaled] at below
  rw [Int.mul_comm highCount] at beneath
  unfold nearest
  -- the bound on the other side of zero is never reached
  split <;> omega

end

end ForeignTable.Timestamp
