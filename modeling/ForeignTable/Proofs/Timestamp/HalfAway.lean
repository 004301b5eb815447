import ForeignTable.Proofs.Timestamp.Rounding

/-! Rounding half away from zero. Three facts fix what a value is rounded to: a multiple of the unit,
at most half a unit away, and of two such multiples the one farther from zero. Order, sign and
repetition follow from these facts, on both sides of zero at once. -/

set_option autoImplicit false

namespace ForeignTable.Timestamp

/-- A nearest multiple of the unit. From the middle between two it is the one farther from zero. -/
structure HalfAway (unit : Nat) (value rounded : Int) : Prop where
  multiple : (unit : Int) ∣ rounded
  near : 2 * (rounded - value).natAbs ≤ unit
  away : 2 * (rounded - value).natAbs = unit → value.natAbs < rounded.natAbs

/-!
## Nearest multiples
-/

private theorem unit_le_of_dvd {unit low high : Int} (lowMultiple : unit ∣ low)
    (highMultiple : unit ∣ high) (less : low < high) : low + unit ≤ high := by
  have apart := Int.le_of_dvd (by omega) (Int.dvd_sub highMultiple lowMultiple)
  omega

namespace HalfAway

variable {unit : Nat} {value other rounded result : Int}

private theorem le_of_le (first : HalfAway unit value rounded) (second : HalfAway unit other result)
    (ordered : value ≤ other) : rounded ≤ result := by
  by_contra greater
  have apart := unit_le_of_dvd second.multiple first.multiple (by omega)
  have firstNear := first.near
  have secondNear := second.near
  -- both start in the middle between the two results, and both move away from zero
  have firstAway := first.away (by omega)
  have secondAway := second.away (by omega)
  have negative : result < 0 := by omega
  have below := unit_le_of_dvd second.multiple (Int.dvd_zero _) negative
  omega

theorem unique (first : HalfAway unit value rounded) (second : HalfAway unit value result) :
    rounded = result :=
  Int.le_antisymm (first.le_of_le second (Int.le_refl _)) (second.le_of_le first (Int.le_refl _))

private theorem neg (half : HalfAway unit value rounded) : HalfAway unit (-value) (-rounded) := by
  obtain ⟨multiple, near, away⟩ := half
  refine ⟨Int.dvd_neg.mpr multiple, ?_, ?_⟩
  · omega
  · omega

private theorem of_dvd (positive : 0 < unit) (multiple : (unit : Int) ∣ value) :
    HalfAway unit value value := by
  refine ⟨multiple, ?_, ?_⟩
  · omega
  · omega

end HalfAway

private theorem nearest_halfAway {unit : Nat} (positive : 0 < unit) (value : Int) :
    HalfAway unit value (nearest unit value) := by
  obtain ⟨least, _, most⟩ := nearestMultiple_range positive value.natAbs
  have past := lt_nearestMultiple_add positive value.natAbs
  have multiple := dvd_nearestMultiple unit value.natAbs
  unfold nearest
  split
  · refine ⟨Int.dvd_neg.mpr multiple, ?_, ?_⟩
    · omega
    · omega
  · refine ⟨multiple, ?_, ?_⟩
    · omega
    · omega

/-!
## Rounded timestamps
-/

variable {precision finer : Option Nat} {micros opposite rounded again : Signed 64} {places : Nat}

private theorem roundTo_halfAway (success : roundTo precision micros = .ok rounded) :
    HalfAway (roundingUnit precision) micros.toInt rounded.toInt :=
  roundTo_eq_ok success ▸ nearest_halfAway (roundingUnit_pos precision) micros.toInt

/-- There is room for half a unit more than the magnitude, or there is no result. -/
theorem roundTo_eq_ok_or_error (coarse : places < maxPrecision) (micros : Signed 64) :
    (micros.toInt.natAbs + 10 ^ (maxPrecision - places) / 2 ≤ 9223372036854775807 ∧
      ∃ rounded, roundTo (some places) micros = .ok rounded) ∨
    (9223372036854775807 < micros.toInt.natAbs + 10 ^ (maxPrecision - places) / 2 ∧
      roundTo (some places) micros = .error (.conversion (.timestampRange micros.toInt))) := by
  have limit := Signed.bound_sixtyFour
  generalize same : 10 ^ (maxPrecision - places) = unit
  rcases Nat.lt_or_ge 9223372036854775807 (micros.toInt.natAbs + unit / 2) with full | room
  · exact .inr ⟨full, roundTo_of_no_room coarse same (by omega)⟩
  · have below : (micros.toInt.natAbs : Int) + (unit / 2 : Nat) < Signed.bound 64 := by omega
    obtain ⟨rounded, success, _⟩ := roundTo_of_room coarse same below
    exact .inl ⟨room, rounded, success⟩

theorem exists_roundTo_iff (coarse : places < maxPrecision) :
    (∃ rounded, roundTo (some places) micros = .ok rounded) ↔
      micros.toInt.natAbs + 10 ^ (maxPrecision - places) / 2 ≤ 9223372036854775807 := by
  rcases roundTo_eq_ok_or_error coarse micros with ⟨room, success⟩ | ⟨full, refused⟩
  · exact iff_of_true success room
  · refine iff_of_false ?_ (Nat.not_le.mpr full)
    rintro ⟨rounded, success⟩
    cases refused.symm.trans success

private theorem roundTo_opposite (mirrored : opposite.toInt = -micros.toInt)
    (success : roundTo precision micros = .ok rounded) :
    ∃ result, roundTo precision opposite = .ok result ∧ result.toInt = -rounded.toInt := by
  obtain ⟨result, found⟩ : ∃ result, roundTo precision opposite = .ok result := by
    cases precision with
    | none => exact ⟨opposite, rfl⟩
    | some places =>
        rcases Nat.lt_or_ge places maxPrecision with coarse | fine
        · have room := (exists_roundTo_iff coarse).mp ⟨rounded, success⟩
          exact (exists_roundTo_iff coarse).mpr (by omega)
        · exact ⟨opposite, roundTo_of_fine fine opposite⟩
  have here := (roundTo_halfAway success).neg
  have there := roundTo_halfAway found
  rw [mirrored] at there
  exact ⟨result, found, there.unique here⟩

private theorem roundingUnit_dvd_of_finer (finest : ∀ digits ∈ finer, places ≤ digits) :
    roundingUnit finer ∣ roundingUnit (some places) := by
  apply Nat.pow_dvd_pow
  cases finer with
  | none => simp
  | some digits =>
      have kept := finest digits rfl
      simp only [Option.getD_some]
      omega

private theorem roundTo_again (finest : ∀ digits ∈ finer, places ≤ digits)
    (success : roundTo (some places) micros = .ok rounded)
    (repeated : roundTo finer rounded = .ok again) : again = rounded := by
  have multiple := (roundTo_halfAway success).multiple
  have divides := Int.natCast_dvd_natCast.mpr (roundingUnit_dvd_of_finer finest)
  have kept := HalfAway.of_dvd (roundingUnit_pos finer) (Int.dvd_trans divides multiple)
  exact Signed.ext ((roundTo_halfAway repeated).unique kept)

/-- A precision below six digits rounds half away from zero, as long as half a unit more than the
magnitude fits into 64 bits, and refuses the timestamp otherwise. Rounding keeps the order and the
sign, and a rounded timestamp stays as it is at the same precision and at every finer one. Six digits
and more, or none asked for, keep every timestamp. -/
theorem rounds_half_away :
    (∀ places < maxPrecision, ∀ micros : Signed 64,
      ((∃ rounded, roundTo (some places) micros = .ok rounded) ↔
        micros.toInt.natAbs + 10 ^ (maxPrecision - places) / 2 ≤ 9223372036854775807) ∧
      (∀ rounded, roundTo (some places) micros = .ok rounded →
        HalfAway (10 ^ (maxPrecision - places)) micros.toInt rounded.toInt) ∧
      ∀ failure, roundTo (some places) micros = .error failure →
        failure = .conversion (.timestampRange micros.toInt)) ∧
    (∀ (precision : Option Nat) (micros later rounded laterRounded : Signed 64),
      micros.toInt ≤ later.toInt → roundTo precision micros = .ok rounded →
      roundTo precision later = .ok laterRounded → rounded.toInt ≤ laterRounded.toInt) ∧
    (∀ (precision : Option Nat) (micros opposite rounded : Signed 64),
      opposite.toInt = -micros.toInt → roundTo precision micros = .ok rounded →
      ∃ result, roundTo precision opposite = .ok result ∧ result.toInt = -rounded.toInt) ∧
    (∀ (places : Nat) (finer : Option Nat) (micros rounded again : Signed 64),
      (∀ digits ∈ finer, places ≤ digits) → roundTo (some places) micros = .ok rounded →
      roundTo finer rounded = .ok again → again = rounded) ∧
    ∀ (precision : Option Nat) (micros : Signed 64),
      (∀ places ∈ precision, maxPrecision ≤ places) → roundTo precision micros = .ok micros := by
  refine ⟨?_, ?_, ?_, ?_, ?_⟩
  · intro places coarse micros
    refine ⟨exists_roundTo_iff coarse, fun _ => roundTo_halfAway, ?_⟩
    intro failure failed
    rcases roundTo_eq_ok_or_error coarse micros with ⟨_, rounded, success⟩ | ⟨_, refused⟩
    · cases failed.symm.trans success
    · cases failed.symm.trans refused
      rfl
  · intro precision micros later rounded laterRounded ordered success laterSuccess
    exact (roundTo_halfAway success).le_of_le (roundTo_halfAway laterSuccess) ordered
  · intro precision micros opposite rounded mirrored success
    exact roundTo_opposite mirrored success
  · intro places finer micros rounded again finest success repeated
    exact roundTo_again finest success repeated
  · intro precision micros exact
    cases precision with
    | none => rfl
    | some places => exact roundTo_of_fine (exact places rfl) micros

def betweenSeconds : Signed 64 := ⟨2500000, by decide, by decide⟩

def betweenEarlierSeconds : Signed 64 := ⟨-2500000, by decide, by decide⟩

def lastMicrosecond : Signed 64 := ⟨9223372036854775807, by decide, by decide⟩

theorem rounds_half_away_betweenSeconds :
    0 < maxPrecision ∧ (∃ rounded, roundTo (some 0) betweenSeconds = .ok rounded ∧
      HalfAway (10 ^ 6) 2500000 rounded.toInt ∧
      betweenEarlierSeconds.toInt ≤ betweenSeconds.toInt ∧
      (∃ result, roundTo (some 0) betweenEarlierSeconds = .ok result ∧
        result.toInt = -rounded.toInt ∧ result.toInt ≤ rounded.toInt) ∧
      ∃ again, roundTo (some 3) rounded = .ok again ∧ again = rounded) ∧
    (¬∃ rounded, roundTo (some 0) lastMicrosecond = .ok rounded) ∧
    roundTo (some 6) lastMicrosecond = .ok lastMicrosecond := by
  obtain ⟨rounds, ordered, mirrored, repeated, kept⟩ := rounds_half_away
  have coarse : 0 < maxPrecision := by decide
  obtain ⟨possible, halfAway, _⟩ := rounds 0 coarse betweenSeconds
  obtain ⟨rounded, success⟩ := possible.mpr (by decide)
  obtain ⟨result, earlier, opposite⟩ :=
    mirrored (some 0) betweenSeconds betweenEarlierSeconds rounded rfl success
  have before : betweenEarlierSeconds.toInt ≤ betweenSeconds.toInt := by decide
  have same : roundTo (some 3) rounded = .ok rounded := by
    cases success.symm.trans
      (show roundTo (some 0) betweenSeconds = .ok ⟨3000000, by decide, by decide⟩ by decide)
    decide
  refine ⟨coarse, ⟨rounded, success, halfAway rounded success, before,
    ⟨result, earlier, opposite, ordered _ _ _ _ _ before earlier success⟩,
    ⟨rounded, same, repeated 0 (some 3) betweenSeconds rounded rounded ?_ success same⟩⟩, ?_, ?_⟩
  · rintro digits ⟨⟩
    decide
  · intro success
    exact absurd ((rounds 0 coarse lastMicrosecond).1.mp success) (by decide)
  · exact kept (some 6) lastMicrosecond (by rintro places ⟨⟩; decide)

end ForeignTable.Timestamp
