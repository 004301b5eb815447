import ForeignTable.Datum.Display
import ForeignTable.Proofs.Exchange.Scalar
import ForeignTable.Proofs.Text.Literal
import Mathlib.Algebra.Group.Int.Defs

/-! Input of integers. Every text is a literal that fits, a literal out of range, or no literal at
all, under the smallest type as under the largest, and the text of an integer is read back. -/

set_option autoImplicit false

namespace ForeignTable.Datum

open Text (IntegerLiteral integer?_eq_some_iff integer?_eq_none_iff)

/-- The integer types, each with its width and its values. -/
inductive IntegerType : (bits : Nat) → ColumnType → (Signed bits → Datum) → Prop where
  | smallint : IntegerType 16 .smallint .smallint
  | integer : IntegerType 32 .integer .integer
  | bigint : IntegerType 64 .bigint .bigint

/-- What a text is under an integer type, by the literal between its blanks. -/
inductive IntegerOutcome {bits : Nat} (columnType : ColumnType) (build : Signed bits → Datum)
    (text : String) : Except Error Datum → Prop where
  | fits {word : Signed bits} : IntegerLiteral (Text.trim text.toList) word.toInt →
      IntegerOutcome columnType build text (.ok (build word))
  | outOfRange {value : Int} : IntegerLiteral (Text.trim text.toList) value →
      ¬(-2 ^ (bits - 1) ≤ value ∧ value < 2 ^ (bits - 1)) →
      IntegerOutcome columnType build text (.error (.invalidArgument (.inputRange columnType text)))
  | malformed : (¬∃ value, IntegerLiteral (Text.trim text.toList) value) →
      IntegerOutcome columnType build text
        (.error (.invalidArgument (.inputSyntax columnType text)))

variable {bits : Nat} {columnType : ColumnType} {build : Signed bits → Datum}

private theorem signed_bound_eq (bits : Nat) : Signed.bound bits = 2 ^ (bits - 1) := by
  unfold Signed.bound
  exact Int.natCast_pow 2 (bits - 1)

theorem exists_signed_iff {value : Int} : (∃ word : Signed bits, word.toInt = value) ↔
    -2 ^ (bits - 1) ≤ value ∧ value < 2 ^ (bits - 1) := by
  rw [Signed.exists_toInt_iff, signed_bound_eq]

theorem IntegerType.ofText_eq (integral : IntegerType bits columnType build) (zone : Zone)
    (text : String) : ofText zone columnType text = integerOfText bits build columnType text := by
  cases integral <;> rfl

private theorem IntegerType.display?_eq (integral : IntegerType bits columnType build)
    (word : Signed bits) :
    (build word).display? = some (String.ofList (Text.integerText word.toInt)) := by
  cases integral <;> rfl

/-- Each text has one outcome, and the reader finds it. -/
theorem integerOfText_eq_iff {text : String} {outcome : Except Error Datum} :
    integerOfText bits build columnType text = outcome ↔
      IntegerOutcome columnType build text outcome := by
  constructor
  · intro found
    subst found
    unfold integerOfText
    cases read : Text.integer? (Text.trim text.toList) with
    | none => exact .malformed (integer?_eq_none_iff.mp read)
    | some value =>
        have literal := integer?_eq_some_iff.mp read
        cases range : Signed.ofInt? bits value with
        | some word =>
            simp only [range]
            apply IntegerOutcome.fits
            rw [Signed.ofInt?_eq_some_iff.mp range]
            exact literal
        | none =>
            simp only [range]
            apply IntegerOutcome.outOfRange literal
            rw [← signed_bound_eq]
            exact Signed.ofInt?_eq_none_iff.mp range
  · intro expected
    cases expected with
    | fits literal =>
        rw [integerOfText, integer?_eq_some_iff.mpr literal]
        simp only [Signed.ofInt?_toInt]
    | outOfRange literal outside =>
        rw [← signed_bound_eq] at outside
        rw [integerOfText, integer?_eq_some_iff.mpr literal]
        simp only [Signed.ofInt?_eq_none_iff.mpr outside]
    | malformed absent =>
        rw [integerOfText, integer?_eq_none_iff.mpr absent]
        rfl

/-- Under every integer type the outcome of a text is the one that its literal asks for, and every
value of the type, which are all integers in its range, is read from its own text. -/
theorem integer_input_classified (integral : IntegerType bits columnType build) (zone : Zone) :
    (∀ text outcome, ofText zone columnType text = outcome ↔
      IntegerOutcome columnType build text outcome) ∧
    (∀ word, ∃ shown, (build word).display? = some shown ∧
      ofText zone columnType shown = .ok (build word)) ∧
    ∀ value : Int, (∃ word : Signed bits, word.toInt = value) ↔
      -2 ^ (bits - 1) ≤ value ∧ value < 2 ^ (bits - 1) := by
  refine ⟨?_, ?_, ?_⟩
  · intro text outcome
    rw [integral.ofText_eq]
    exact integerOfText_eq_iff
  · intro word
    refine ⟨_, integral.display?_eq word, ?_⟩
    rw [integral.ofText_eq]
    exact integerOfText_integerText build columnType word
  · intro value
    exact exists_signed_iff

/-- The smallest value behind zeros and between blanks, its neighbour out of range, and two
signs. -/
theorem integer_input_classified_smallest :
    IntegerType 16 .smallint .smallint ∧
      ofText Zone.utc .smallint "\t-0032768 " = .ok (.smallint ⟨-32768, by decide, by decide⟩) ∧
      ofText Zone.utc .smallint "-32769" =
        .error (.invalidArgument (.inputRange .smallint "-32769")) ∧
      ofText Zone.utc .smallint "+-1" =
        .error (.invalidArgument (.inputSyntax .smallint "+-1")) ∧
      ofText Zone.utc .smallint "-32768" = .ok (.smallint ⟨-32768, by decide, by decide⟩) := by
  obtain ⟨classified, reread, _⟩ := integer_input_classified .smallint Zone.utc
  have padded : IntegerLiteral (Text.trim "\t-0032768 ".toList) (-32768) :=
    integer?_eq_some_iff.mp (by decide)
  have beyond : IntegerLiteral (Text.trim "-32769".toList) (-32769) :=
    integer?_eq_some_iff.mp (by decide)
  have twice : ¬∃ value, IntegerLiteral (Text.trim "+-1".toList) value :=
    integer?_eq_none_iff.mp (by decide)
  obtain ⟨shown, displayed, read⟩ := reread ⟨-32768, by decide, by decide⟩
  cases displayed
  exact ⟨.smallint, (classified _ _).mpr (.fits padded),
    (classified _ _).mpr (.outOfRange beyond (by decide)),
    (classified _ _).mpr (.malformed twice), read⟩

end ForeignTable.Datum
