import ForeignTable.Proofs.Text.Numeral
import ForeignTable.Text.Hex

/-! Hexadecimal texts. Bytes and numbers read back from the digits they are written with, and
those digits are neither blank nor marks. -/

set_option autoImplicit false

namespace ForeignTable.Text

private theorem hexDigit?_digitChar {digit : Nat} (small : digit < 16) :
    hexDigit? (Nat.digitChar digit) = some digit := by
  have all : ∀ value < 16, hexDigit? (Nat.digitChar value) = some value := by decide
  exact all digit small

theorem hexDigit?_of_isDigit {c : Char} (digit : c.isDigit = true) :
    (hexDigit? c).isSome = true := by
  have range := toNat_of_isDigit digit
  simp [hexDigit?, range]

private theorem toNat_of_hexDigit? {c : Char} (digit : (hexDigit? c).isSome = true) :
    (48 ≤ c.toNat ∧ c.toNat ≤ 57) ∨ (97 ≤ c.toNat ∧ c.toNat ≤ 102) ∨
      (65 ≤ c.toNat ∧ c.toNat ≤ 70) := by
  simp only [hexDigit?, Bool.and_eq_true, decide_eq_true_eq] at digit
  split at digit
  · rename_i decimal
    exact .inl decimal
  · split at digit
    · rename_i small
      exact .inr (.inl small)
    · split at digit
      · rename_i capital
        exact .inr (.inr capital)
      · cases digit

theorem isBlank_of_hexDigit? {c : Char} (digit : (hexDigit? c).isSome = true) :
    isBlank c = false := by
  have range := toNat_of_hexDigit? digit
  simp only [isBlank, Bool.or_eq_false_iff, Bool.and_eq_false_iff, decide_eq_false_iff_not,
    beq_eq_false_iff_ne]
  omega

/-- The value of a hexadecimal digit is its place among the digits, with small or with capital
letters. -/
def HexDigit (c : Char) (value : Nat) : Prop :=
  "0123456789abcdef".toList[value]? = some c ∨ "0123456789ABCDEF".toList[value]? = some c

instance (c : Char) (value : Nat) : Decidable (HexDigit c value) :=
  inferInstanceAs (Decidable (_ ∨ _))

theorem hexDigit?_eq_some_iff {c : Char} {value : Nat} :
    hexDigit? c = some value ↔ HexDigit c value := by
  constructor
  · intro read
    have all : ∀ code < 103, ∀ value ∈ hexDigit? (Char.ofNat code),
        HexDigit (Char.ofNat code) value := by decide
    have range := toNat_of_hexDigit? (Option.isSome_of_eq_some read)
    have spelled := all c.toNat (by omega) value
    rw [Char.ofNat_toNat] at spelled
    exact spelled read
  · have all : ∀ place < 16, ∀ digits ∈ ["0123456789abcdef".toList, "0123456789ABCDEF".toList],
        digits[place]?.bind hexDigit? = some place := by decide
    rintro (small | capital)
    · have read := all value (List.getElem?_eq_some_iff.mp small).1 _ List.mem_cons_self
      rw [small] at read
      exact read
    · have read := all value (List.getElem?_eq_some_iff.mp capital).1 _
        (List.mem_cons_of_mem _ List.mem_cons_self)
      rw [capital] at read
      exact read

/-!
## Bytes
-/

theorem length_hexText (bytes : List UInt8) : (hexText bytes).length = 2 * bytes.length := by
  induction bytes with
  | nil => rfl
  | cons byte rest ih =>
      simp only [hexText, List.flatMap_cons, List.length_append, List.length_cons] at ih ⊢
      rw [ih]
      simp only [hexPair, List.length_cons, List.length_nil]
      omega

theorem hexText_append (front back : List UInt8) :
    hexText (front ++ back) = hexText front ++ hexText back := List.flatMap_append

theorem hexByte?_hexPair (byte : UInt8) :
    hexByte? (Nat.digitChar (byte.toNat / 16)) (Nat.digitChar (byte.toNat % 16)) = some byte := by
  have small := byte.toNat_lt
  have high : hexDigit? (Nat.digitChar (byte.toNat / 16)) = some (byte.toNat / 16) :=
    hexDigit?_digitChar (by omega)
  have low : hexDigit? (Nat.digitChar (byte.toNat % 16)) = some (byte.toNat % 16) :=
    hexDigit?_digitChar (by omega)
  unfold hexByte?
  simp only [high, low, Option.bind_eq_bind, Option.bind_some, Nat.div_add_mod,
    UInt8.ofNat_toNat]
  rfl

theorem hexBytes?_hexText (bytes : List UInt8) : hexBytes? (hexText bytes) = some bytes := by
  induction bytes with
  | nil => rfl
  | cons byte rest ih =>
      change hexBytes? (Nat.digitChar _ :: Nat.digitChar _ :: hexText rest) = _
      simp only [hexBytes?, hexByte?_hexPair, ih, Option.bind_eq_bind, Option.bind_some]
      rfl

theorem hexDigit?_of_mem_hexText {bytes : List UInt8} {c : Char} (member : c ∈ hexText bytes) :
    (hexDigit? c).isSome = true := by
  obtain ⟨byte, _, inside⟩ := List.mem_flatMap.mp member
  have small := byte.toNat_lt
  simp only [hexPair, List.mem_cons, List.not_mem_nil, or_false] at inside
  rcases inside with rfl | rfl
  · rw [hexDigit?_digitChar (by omega)]
    rfl
  · rw [hexDigit?_digitChar (by omega)]
    rfl

/-!
## Numbers
-/

private theorem hexNumber?_append {front : List Char} {value : Nat}
    (read : hexNumber? front = some value) {digit : Nat} (small : digit < 16) :
    hexNumber? (front ++ [Nat.digitChar digit]) = some (16 * value + digit) := by
  unfold hexNumber? at read ⊢
  rw [List.foldlM_append, read]
  simp [hexDigit?_digitChar small]

theorem hexNumber?_toDigits (value : Nat) : hexNumber? (Nat.toDigits 16 value) = some value := by
  induction value using Nat.strongRecOn with
  | ind value ih =>
      rcases Nat.lt_or_ge value 16 with small | large
      · rw [Nat.toDigits_of_lt_base small]
        have nothing : hexNumber? [] = some 0 := rfl
        simpa using hexNumber?_append nothing small
      · rw [Nat.toDigits_of_base_le (by decide) large,
          hexNumber?_append (ih (value / 16) (by omega)) (Nat.mod_lt _ (by decide)),
          Nat.div_add_mod]

theorem hexDigit?_of_mem_toDigits {value : Nat} {c : Char} (member : c ∈ Nat.toDigits 16 value) :
    (hexDigit? c).isSome = true := by
  induction value using Nat.strongRecOn with
  | ind value ih =>
      rcases Nat.lt_or_ge value 16 with small | large
      · rw [Nat.toDigits_of_lt_base small, List.mem_singleton] at member
        rw [member, hexDigit?_digitChar small]
        rfl
      · rw [Nat.toDigits_of_base_le (by decide) large, List.mem_append,
          List.mem_singleton] at member
        rcases member with front | rfl
        · exact ih (value / 16) (by omega) front
        · rw [hexDigit?_digitChar (Nat.mod_lt _ (by decide))]
          rfl

theorem not_mem_toDigits {mark : Char} (other : hexDigit? mark = none) (value : Nat) :
    mark ∉ Nat.toDigits 16 value := by
  intro member
  have digit := hexDigit?_of_mem_toDigits member
  rw [other] at digit
  cases digit

end ForeignTable.Text
