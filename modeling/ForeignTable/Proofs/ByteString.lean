import ForeignTable.Datum.Display
import ForeignTable.Datum.Input
import ForeignTable.Proofs.Attempt
import ForeignTable.Proofs.Text.Hex
import Mathlib.Algebra.Group.Nat.Even

/-! Input of byte strings. Behind the mark the reader takes pairs of hexadecimal digits, and by
the way it reads a pair also a plus sign before a single digit. Every other text stands for its
own bytes, and the text of a byte string is read back. -/

set_option autoImplicit false

namespace ForeignTable

open Text (HexDigit hexByte? hexDigit?_eq_some_iff)

private theorem Text.HexDigit.lt {c : Char} {value : Nat} (digit : HexDigit c value) :
    value < 16 := by
  rcases digit with small | capital
  · exact (List.getElem?_eq_some_iff.mp small).1
  · exact (List.getElem?_eq_some_iff.mp capital).1

private theorem Text.not_hexDigit_plus {value : Nat} : ¬HexDigit '+' value := by
  rw [← hexDigit?_eq_some_iff]
  exact nofun

private theorem Text.HexDigit.toNat_pair {high low : Char} {upper lower : Nat}
    (first : HexDigit high upper) (second : HexDigit low lower) :
    (UInt8.ofNat (16 * upper + lower)).toNat = 16 * upper + lower := by
  have := first.lt
  have := second.lt
  exact UInt8.toNat_ofNat_of_lt' (by unfold UInt8.size; omega)

theorem Text.hexByte?_eq_some_iff {high low : Char} {byte : UInt8} :
    hexByte? high low = some byte ↔ ∃ upper lower, HexDigit high upper ∧ HexDigit low lower ∧
      byte.toNat = 16 * upper + lower := by
  simp only [hexByte?, bind, Option.bind_eq_some_iff, hexDigit?_eq_some_iff]
  constructor
  · rintro ⟨upper, first, lower, second, ⟨⟩⟩
    exact ⟨upper, lower, first, second, first.toNat_pair second⟩
  · rintro ⟨upper, lower, first, second, value⟩
    refine ⟨upper, first, lower, second, congrArg some (UInt8.toNat_inj.mp ?_)⟩
    rw [value, first.toNat_pair second]

namespace Datum

/-!
## Pairs
-/

/-- Bytes written in pairs of characters, of which the second is a hexadecimal digit. -/
inductive BytePairs (Upper : Char → Nat → Prop) : List Char → List UInt8 → Prop where
  | nil : BytePairs Upper [] []
  | cons {first second : Char} {upper lower : Nat} {byte : UInt8} {text : List Char}
      {bytes : List UInt8} :
      Upper first upper → HexDigit second lower → byte.toNat = 16 * upper + lower →
      BytePairs Upper text bytes → BytePairs Upper (first :: second :: text) (byte :: bytes)

/-- What the reader takes for the upper half of a byte: a digit, or a plus sign for zero. -/
def UpperHalf (c : Char) (value : Nat) : Prop := HexDigit c value ∨ c = '+' ∧ value = 0

variable {text : List Char} {bytes : List UInt8}

theorem pairedByte?_eq_some_iff {high low : Char} {byte : UInt8} :
    pairedByte? high low = some byte ↔ ∃ upper lower, UpperHalf high upper ∧ HexDigit low lower ∧
      byte.toNat = 16 * upper + lower := by
  have zero : HexDigit '0' 0 := .inl rfl
  unfold pairedByte?
  by_cases plus : high = '+'
  · subst plus
    rw [if_pos rfl, Option.map_eq_some_iff]
    constructor
    · rintro ⟨lower, digit, rfl⟩
      have second := hexDigit?_eq_some_iff.mp digit
      refine ⟨0, lower, .inr ⟨rfl, rfl⟩, second, ?_⟩
      simpa using zero.toNat_pair second
    · rintro ⟨upper, lower, first | ⟨_, rfl⟩, second, value⟩
      · exact absurd first Text.not_hexDigit_plus
      · refine ⟨lower, hexDigit?_eq_some_iff.mpr second, UInt8.toNat_inj.mp ?_⟩
        rw [value, ← zero.toNat_pair second, Nat.mul_zero, Nat.zero_add]
  · rw [if_neg plus, Text.hexByte?_eq_some_iff]
    simp only [UpperHalf, plus, false_and, or_false]

theorem pairedBytes?_eq_some_iff :
    pairedBytes? text = some bytes ↔ BytePairs UpperHalf text bytes := by
  induction text using pairedBytes?.induct generalizing bytes with
  | case1 =>
      constructor
      · rintro ⟨⟩
        exact .nil
      · rintro ⟨⟩
        rfl
  | case2 high low rest ih =>
      simp only [pairedBytes?, bind, Option.bind_eq_some_iff]
      constructor
      · rintro ⟨byte, paired, others, remaining, ⟨⟩⟩
        obtain ⟨upper, lower, first, second, value⟩ := pairedByte?_eq_some_iff.mp paired
        exact .cons first second value (ih.mp remaining)
      · rintro (_ | ⟨first, second, value, remaining⟩)
        have paired := pairedByte?_eq_some_iff.mpr ⟨_, _, first, second, value⟩
        exact ⟨_, paired, _, ih.mpr remaining, rfl⟩
  | case3 single =>
      constructor
      · rintro ⟨⟩
      · rintro ⟨⟩

private theorem BytePairs.upperHalf (pairs : BytePairs HexDigit text bytes) :
    BytePairs UpperHalf text bytes := by
  induction pairs with
  | nil => exact .nil
  | cons first second value _ ih => exact .cons (.inl first) second value ih

/-- Without plus signs the pairs are pairs of digits. -/
theorem BytePairs.digits (pairs : BytePairs UpperHalf text bytes) (unsigned : '+' ∉ text) :
    BytePairs HexDigit text bytes := by
  induction pairs with
  | nil => exact .nil
  | cons first second value _ ih =>
      obtain ⟨apart, unsigned⟩ := not_or.mp (List.mem_cons.not.mp unsigned)
      obtain ⟨_, unsigned⟩ := not_or.mp (List.mem_cons.not.mp unsigned)
      have digit := first.resolve_right fun plus => apart plus.1.symm
      exact .cons digit second value (ih unsigned)

/-- Digits stand for bytes exactly when their number is even. -/
theorem exists_bytePairs_iff :
    (∃ bytes, BytePairs HexDigit text bytes) ↔
      Even text.length ∧ ∀ c ∈ text, ∃ value, HexDigit c value := by
  induction text using pairedBytes?.induct with
  | case1 => simpa using ⟨[], .nil⟩
  | case2 first second rest ih =>
      simp only [List.length_cons, Nat.even_add_one, not_not, List.forall_mem_cons]
      constructor
      · rintro ⟨_, _ | ⟨upper, lower, _, remaining⟩⟩
        obtain ⟨even, digits⟩ := ih.mp ⟨_, remaining⟩
        exact ⟨even, ⟨_, upper⟩, ⟨_, lower⟩, digits⟩
      · rintro ⟨even, ⟨upper, high⟩, ⟨lower, low⟩, digits⟩
        obtain ⟨bytes, remaining⟩ := ih.mpr ⟨even, digits⟩
        exact ⟨_ :: bytes, .cons high low (high.toNat_pair low) remaining⟩
  | case3 single =>
      constructor
      · rintro ⟨_, ⟨⟩⟩
      · rintro ⟨even, _⟩
        exact absurd even Nat.not_even_one

private theorem bytePairs_hexText (bytes : List UInt8) :
    BytePairs HexDigit (Text.hexText bytes) bytes := by
  induction bytes with
  | nil => exact .nil
  | cons byte rest ih =>
      obtain ⟨upper, lower, first, second, value⟩ :=
        Text.hexByte?_eq_some_iff.mp (Text.hexByte?_hexPair byte)
      exact .cons first second value ih

/-!
## Texts
-/

private theorem ofList_marked (pairs : List Char) :
    String.ofList ('\\' :: 'x' :: pairs) = "\\x" ++ String.ofList pairs :=
  @String.ofList_append ['\\', 'x'] pairs

private theorem bytes?_marked (rest : String) :
    bytes? ("\\x" ++ rest) = pairedBytes? rest.toList := by
  unfold bytes?
  rw [String.toList_append]
  rfl

private theorem bytes?_unmarked {text : String} (unmarked : ∀ rest, text ≠ "\\x" ++ rest) :
    bytes? text = some text.toUTF8.toList := by
  unfold bytes?
  split
  · rename_i pairs marked
    refine absurd ?_ (unmarked (String.ofList pairs))
    rw [← ofList_marked, ← marked, String.ofList_toList]
  · rfl

theorem bytea_eq_ok_iff {zone : Zone} {text : String} {datum : Datum} :
    ofText zone .bytea text = .ok datum ↔
      ∃ bytes, bytes? text = some bytes ∧ datum = .bytea bytes := by
  unfold ofText orSyntaxError
  cases bytes? text <;> simp [eq_comm]

theorem bytea_eq_error_iff {zone : Zone} {text : String} {failure : Error} :
    ofText zone .bytea text = .error failure ↔
      bytes? text = none ∧ failure = syntaxError .bytea text := by
  unfold ofText orSyntaxError
  cases bytes? text <;> simp [eq_comm]

/-- Behind the mark exactly the pairs of digits are read, except that a plus sign also passes for
the upper digit zero; without plus signs these are the digit texts of even length. Any other text
gives its own bytes, and the text of a byte string gives that byte string. -/
theorem bytea_read_iff (zone : Zone) :
    (∀ (rest : String) datum, ofText zone .bytea ("\\x" ++ rest) = .ok datum ↔
      ∃ bytes, BytePairs UpperHalf rest.toList bytes ∧ datum = .bytea bytes) ∧
    (∀ (rest : String) failure, ofText zone .bytea ("\\x" ++ rest) = .error failure ↔
      (¬∃ bytes, BytePairs UpperHalf rest.toList bytes) ∧
        failure = syntaxError .bytea ("\\x" ++ rest)) ∧
    (∀ rest : String, '+' ∉ rest.toList →
      ((∃ datum, ofText zone .bytea ("\\x" ++ rest) = .ok datum) ↔
        Even rest.length ∧ ∀ c ∈ rest.toList, ∃ value, HexDigit c value) ∧
      ∀ bytes, ofText zone .bytea ("\\x" ++ rest) = .ok (.bytea bytes) ↔
        BytePairs HexDigit rest.toList bytes) ∧
    (∀ text : String, (∀ rest, text ≠ "\\x" ++ rest) →
      ofText zone .bytea text = .ok (.bytea text.toUTF8.toList)) ∧
    ∀ bytes, ∃ shown, (bytea bytes).display? = some shown ∧
      ofText zone .bytea shown = .ok (.bytea bytes) := by
  have read : ∀ (rest : String) datum, ofText zone .bytea ("\\x" ++ rest) = .ok datum ↔
      ∃ bytes, BytePairs UpperHalf rest.toList bytes ∧ datum = .bytea bytes := by
    intro rest datum
    simp only [bytea_eq_ok_iff, bytes?_marked, pairedBytes?_eq_some_iff]
  refine ⟨read, ?_, ?_, ?_, ?_⟩
  · intro rest failure
    rw [bytea_eq_error_iff, bytes?_marked, Option.eq_none_iff_forall_ne_some]
    simp only [ne_eq, pairedBytes?_eq_some_iff, not_exists]
  · intro rest unsigned
    have digits : ∀ bytes, BytePairs UpperHalf rest.toList bytes ↔
        BytePairs HexDigit rest.toList bytes := fun bytes =>
      ⟨fun pairs => pairs.digits unsigned, BytePairs.upperHalf⟩
    simp only [read, digits]
    constructor
    · rw [← String.length_toList, ← exists_bytePairs_iff]
      constructor
      · rintro ⟨_, bytes, pairs, _⟩
        exact ⟨bytes, pairs⟩
      · rintro ⟨bytes, pairs⟩
        exact ⟨_, bytes, pairs, rfl⟩
    · intro bytes
      simp
  · intro text unmarked
    exact bytea_eq_ok_iff.mpr ⟨_, bytes?_unmarked unmarked, rfl⟩
  · intro bytes
    refine ⟨"\\x" ++ String.ofList (Text.hexText bytes), ?_, ?_⟩
    · rw [← ofList_marked]
      rfl
    · refine (read _ _).mpr ⟨bytes, ?_, rfl⟩
      rw [String.toList_ofList]
      exact (bytePairs_hexText bytes).upperHalf

theorem bytea_read_iff_mixedCase :
    '+' ∉ "00fF".toList ∧
      ofText Zone.utc .bytea ("\\x" ++ "00fF") = .ok (.bytea [0, 255]) ∧
      (∀ rest, "x00" ≠ "\\x" ++ rest) ∧
      ofText Zone.utc .bytea "x00" = .ok (.bytea "x00".toUTF8.toList) := by
  obtain ⟨_, _, digits, unmarked, _⟩ := bytea_read_iff Zone.utc
  have unsigned : '+' ∉ "00fF".toList := by decide
  have plain : ∀ rest, "x00" ≠ "\\x" ++ rest := by
    intro rest same
    have first := congrArg (fun text => text.toList.head?) same
    rw [String.toList_append] at first
    cases first
  have zero : HexDigit '0' 0 := by decide
  have small : HexDigit 'f' 15 := by decide
  have capital : HexDigit 'F' 15 := by decide
  have pairs : BytePairs HexDigit "00fF".toList [0, 255] :=
    .cons zero zero rfl (.cons small capital rfl .nil)
  exact ⟨unsigned, ((digits "00fF" unsigned).2 _).mpr pairs, plain, unmarked "x00" plain⟩

/-- A plus sign is no digit, but passes for one. -/
theorem bytea_plus_sign_read :
    ¬∀ (zone : Zone) (rest : String),
      (∃ datum, ofText zone .bytea ("\\x" ++ rest) = .ok datum) ↔
        Even rest.length ∧ ∀ c ∈ rest.toList, ∃ value, HexDigit c value := by
  intro exactly
  have accepted : ofText Zone.utc .bytea ("\\x" ++ "+f") = .ok (.bytea [15]) := by decide
  obtain ⟨_, digits⟩ := (exactly Zone.utc "+f").mp ⟨_, accepted⟩
  obtain ⟨_, plus⟩ := digits '+' (by decide)
  exact Text.not_hexDigit_plus plus

end Datum

end ForeignTable
