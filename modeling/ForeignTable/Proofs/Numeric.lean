import ForeignTable.Datum.Display
import ForeignTable.Datum.Input
import ForeignTable.Proofs.Text.Literal
import ForeignTable.Proofs.Text.Letters

/-! Input of decimal numbers. The reader cuts a text at its sign, its exponent mark and its point,
and takes exactly the decimal literals. It keeps them as they are written, so a number that was read
once is read again as itself. -/

set_option autoImplicit false

namespace ForeignTable

namespace Datum

open Text (DigitRun filledDigits_iff)

/-!
## The grammar
-/

inductive OptionalSign : List Char → Prop where
  | unsigned : OptionalSign []
  | plus : OptionalSign ['+']
  | minus : OptionalSign ['-']

/-- At least one digit, with at most one point before, between or behind the digits. -/
inductive Mantissa : List Char → Prop where
  | whole {digits : List Char} : digits ≠ [] → DigitRun digits → Mantissa digits
  | pointed {before behind : List Char} : before ++ behind ≠ [] → DigitRun (before ++ behind) →
      Mantissa (before ++ '.' :: behind)

/-- Nothing, or a mark with at least one digit behind it, which may have a sign. -/
inductive Exponent : List Char → Prop where
  | absent : Exponent []
  | marked {mark : Char} {sign digits : List Char} : mark = 'e' ∨ mark = 'E' →
      OptionalSign sign → digits ≠ [] → DigitRun digits → Exponent (mark :: (sign ++ digits))

/-- The literals of decimal numbers, and the word for no number in any letter case. -/
inductive NumericLiteral : List Char → Prop where
  | nan {first second third : Char} : first = 'n' ∨ first = 'N' → second = 'a' ∨ second = 'A' →
      third = 'n' ∨ third = 'N' → NumericLiteral [first, second, third]
  | decimal {sign mantissa exponent : List Char} : OptionalSign sign → Mantissa mantissa →
      Exponent exponent → NumericLiteral (sign ++ (mantissa ++ exponent))

/-!
## Signs
-/

private theorem exists_unsigned (text : List Char) :
    ∃ sign, OptionalSign sign ∧ text = sign ++ unsigned text := by
  unfold unsigned
  split
  · exact ⟨['-'], .minus, rfl⟩
  · exact ⟨['+'], .plus, rfl⟩
  · exact ⟨[], .unsigned, rfl⟩

private theorem unsigned_append {sign body : List Char} (signed : OptionalSign sign)
    (bare : ∀ c ∈ body.head?, c ≠ '+' ∧ c ≠ '-') : unsigned (sign ++ body) = body := by
  cases signed with
  | plus => rfl
  | minus => rfl
  | unsigned =>
      rw [List.nil_append]
      unfold unsigned
      split
      · exact absurd rfl (bare '-' rfl).2
      · exact absurd rfl (bare '+' rfl).1
      · rfl

/-!
## Parts
-/

/-- What the reader asks of the part before the exponent mark. -/
def mantissaFits (mantissa : List Char) : Bool :=
  let (whole, fraction) := (Text.splitOnce '.' mantissa).getD (mantissa, [])
  !(whole.isEmpty && fraction.isEmpty) && Text.allDigits whole && Text.allDigits fraction

/-- What the reader asks of the part from the exponent mark on. -/
def exponentFits : List Char → Bool
  | [] => true
  | _ :: exponent => !(unsigned exponent).isEmpty && Text.allDigits (unsigned exponent)

def beforeExponent (c : Char) : Bool := c != 'e' && c != 'E'

private theorem isNumericLiteral_eq (text : List Char) :
    isNumericLiteral text = (Text.sameLetters text ['n', 'a', 'n'] ||
      mantissaFits ((unsigned text).takeWhile beforeExponent) &&
        exponentFits ((unsigned text).dropWhile beforeExponent)) := by
  rw [← Text.drop_takeWhile]
  unfold isNumericLiteral
  cases Text.sameLetters text ['n', 'a', 'n'] with
  | true => rfl
  | false =>
      simp only [Bool.false_eq_true, if_false, Bool.false_or]
      rfl

private theorem mantissaFits_of_absent {text : List Char} (absent : '.' ∉ text) :
    mantissaFits text = (!text.isEmpty && Text.allDigits text) := by
  rw [mantissaFits, Text.splitOnce_eq_none_iff.mpr absent]
  simp [Text.allDigits]

private theorem mantissaFits_append {before : List Char} (absent : '.' ∉ before)
    (behind : List Char) :
    mantissaFits (before ++ '.' :: behind) =
      (!(before ++ behind).isEmpty && Text.allDigits (before ++ behind)) := by
  rw [mantissaFits, Text.splitOnce_append absent]
  cases before <;> simp [Text.allDigits, Bool.and_assoc]

theorem mantissaFits_iff {text : List Char} : mantissaFits text = true ↔ Mantissa text := by
  constructor
  · intro fits
    cases found : Text.splitOnce '.' text with
    | none =>
        rw [mantissaFits_of_absent (Text.splitOnce_eq_none_iff.mp found)] at fits
        obtain ⟨filled, digits⟩ := filledDigits_iff.mp fits
        exact .whole filled digits
    | some parts =>
        obtain ⟨rfl, absent⟩ := Text.splitOnce_eq_some found
        rw [mantissaFits_append absent] at fits
        obtain ⟨filled, digits⟩ := filledDigits_iff.mp fits
        exact .pointed filled digits
  · intro mantissa
    cases mantissa with
    | whole filled digits =>
        rw [mantissaFits_of_absent (digits.not_mem rfl)]
        exact filledDigits_iff.mpr ⟨filled, digits⟩
    | pointed filled digits =>
        rw [mantissaFits_append fun inside => digits.not_mem rfl (List.mem_append_left _ inside)]
        exact filledDigits_iff.mpr ⟨filled, digits⟩

theorem beforeExponent_eq_false_iff {c : Char} :
    beforeExponent c = false ↔ c = 'e' ∨ c = 'E' := by
  unfold beforeExponent
  grind

private theorem unsigned_digits {sign digits : List Char} (signed : OptionalSign sign)
    (run : DigitRun digits) : unsigned (sign ++ digits) = digits := by
  apply unsigned_append signed
  intro c here
  have member := List.mem_of_mem_head? here
  constructor
  · intro plus
    exact run.not_mem rfl (plus ▸ member)
  · intro minus
    exact run.not_mem rfl (minus ▸ member)

theorem exponent_iff {text : List Char} : Exponent text ↔
    exponentFits text = true ∧ ∀ c ∈ text.head?, beforeExponent c = false := by
  constructor
  · intro exponent
    cases exponent with
    | absent => exact ⟨rfl, nofun⟩
    | marked letter signed filled run =>
        constructor
        · rw [exponentFits, unsigned_digits signed run]
          exact filledDigits_iff.mpr ⟨filled, run⟩
        · intro c here
          cases here
          exact beforeExponent_eq_false_iff.mpr letter
  · intro ⟨fits, marked⟩
    cases text with
    | nil => exact .absent
    | cons mark rest =>
        obtain ⟨sign, signed, shape⟩ := exists_unsigned rest
        obtain ⟨filled, run⟩ := filledDigits_iff.mp fits
        rw [shape]
        exact .marked (beforeExponent_eq_false_iff.mp (marked mark rfl)) signed filled run

private theorem Mantissa.ne_nil {text : List Char} (mantissa : Mantissa text) : text ≠ [] := by
  cases mantissa with
  | whole filled _ => exact filled
  | pointed => exact List.append_ne_nil_of_right_ne_nil _ (List.cons_ne_nil _ _)

/-- A mantissa has no mark but the point, so neither a sign nor an exponent mark. -/
theorem Mantissa.not_mem {text : List Char} (mantissa : Mantissa text) {mark : Char}
    (other : mark.isDigit = false) (apart : mark ≠ '.') : mark ∉ text := by
  cases mantissa with
  | whole _ digits => exact digits.not_mem other
  | pointed _ digits =>
      have absent := digits.not_mem other
      simp only [List.mem_append, List.mem_cons, not_or] at absent ⊢
      exact ⟨absent.1, apart, absent.2⟩

private theorem Mantissa.beforeExponent {text : List Char} (mantissa : Mantissa text) :
    ∀ c ∈ text, beforeExponent c = true := by
  intro c member
  apply Bool.of_not_eq_false
  intro stops
  cases beforeExponent_eq_false_iff.mp stops with
  | inl small => exact mantissa.not_mem rfl (by decide) (small ▸ member)
  | inr capital => exact mantissa.not_mem rfl (by decide) (capital ▸ member)

private theorem Mantissa.unsigned_append {sign text : List Char} (mantissa : Mantissa text)
    (signed : OptionalSign sign) (rest : List Char) :
    unsigned (sign ++ (text ++ rest)) = text ++ rest := by
  apply Datum.unsigned_append signed
  intro c here
  cases text with
  | nil => exact absurd rfl mantissa.ne_nil
  | cons first others =>
      cases here
      constructor
      · intro plus
        subst plus
        exact mantissa.not_mem rfl (by decide) List.mem_cons_self
      · intro minus
        subst minus
        exact mantissa.not_mem rfl (by decide) List.mem_cons_self

/-!
## Literals
-/

theorem sameLetters_nan_iff {text : List Char} :
    Text.sameLetters text ['n', 'a', 'n'] = true ↔ ∃ first second third,
      text = [first, second, third] ∧ (first = 'n' ∨ first = 'N') ∧
        (second = 'a' ∨ second = 'A') ∧ (third = 'n' ∨ third = 'N') := by
  have n : ∀ c : Char, c.toLower = 'n' ↔ c = 'n' ∨ c = 'N' := fun c =>
    Text.toLower_eq_iff (by decide) (by decide) (by decide)
  have a : ∀ c : Char, c.toLower = 'a' ↔ c = 'a' ∨ c = 'A' := fun c =>
    Text.toLower_eq_iff (by decide) (by decide) (by decide)
  simp only [← n, ← a, Text.sameLetters, beq_iff_eq]
  constructor
  · intro same
    obtain ⟨first, rest, shape, one, others⟩ := List.map_eq_cons_iff.mp same
    obtain ⟨second, last, more, two, single⟩ := List.map_eq_cons_iff.mp others
    obtain ⟨third, none, final, three, nothing⟩ := List.map_eq_cons_iff.mp single
    rw [List.map_eq_nil_iff.mp nothing] at final
    subst shape more final
    exact ⟨first, second, third, rfl, one, two, three⟩
  · intro ⟨first, second, third, shape, one, two, three⟩
    subst shape
    simp only [Text.lower, List.map_cons, List.map_nil, one, two, three]
    rfl

/-- The reader of decimal numbers takes exactly the literals. -/
theorem isNumericLiteral_iff {text : List Char} :
    isNumericLiteral text = true ↔ NumericLiteral text := by
  rw [isNumericLiteral_eq, Bool.or_eq_true, Bool.and_eq_true, sameLetters_nan_iff, mantissaFits_iff]
  constructor
  · intro accepted
    cases accepted with
    | inl word =>
        obtain ⟨first, second, third, rfl, n, a, last⟩ := word
        exact .nan n a last
    | inr parts =>
        obtain ⟨sign, signed, shape⟩ := exists_unsigned text
        have exponent : Exponent ((unsigned text).dropWhile beforeExponent) :=
          exponent_iff.mpr ⟨parts.2, Text.stops_dropWhile beforeExponent (unsigned text)⟩
        rw [shape, ← List.takeWhile_append_dropWhile (p := beforeExponent) (l := unsigned text)]
        exact .decimal signed parts.1 exponent
  · intro literal
    cases literal with
    | nan n a last => exact .inl ⟨_, _, _, rfl, n, a, last⟩
    | decimal signed mantissa exponent =>
        obtain ⟨fits, marked⟩ := exponent_iff.mp exponent
        rw [mantissa.unsigned_append signed,
          Text.takeWhile_append_of_stop mantissa.beforeExponent marked,
          Text.dropWhile_append_of_stop mantissa.beforeExponent marked]
        exact .inr ⟨mantissa, fits⟩

/-!
## Conversion
-/

variable {zone : Zone} {text : String}

theorem numeric_eq_ok_iff {datum : Datum} :
    ofText zone .numeric text = .ok datum ↔ NumericLiteral (Text.trim text.toList) ∧
      datum = .numeric (String.ofList (Text.trim text.toList)) := by
  rw [← isNumericLiteral_iff]
  cases accepted : isNumericLiteral (Text.trim text.toList) <;> simp [ofText, accepted, eq_comm]

theorem numeric_eq_error_iff {failure : Error} :
    ofText zone .numeric text = .error failure ↔ ¬NumericLiteral (Text.trim text.toList) ∧
      failure = .invalidArgument (.inputSyntax .numeric text) := by
  rw [← isNumericLiteral_iff]
  cases accepted : isNumericLiteral (Text.trim text.toList) <;>
    simp [ofText, syntaxError, accepted, eq_comm]

/-- A text is a decimal number exactly when a literal stands between its blanks. The literal is kept
as it is, and shown and read again it gives the same number. -/
theorem numeric_read_iff (zone : Zone) (text : String) :
    (∀ datum, ofText zone .numeric text = .ok datum ↔ NumericLiteral (Text.trim text.toList) ∧
      datum = .numeric (String.ofList (Text.trim text.toList))) ∧
    (∀ failure, ofText zone .numeric text = .error failure ↔
      ¬NumericLiteral (Text.trim text.toList) ∧
        failure = .invalidArgument (.inputSyntax .numeric text)) ∧
    ∀ datum, ofText zone .numeric text = .ok datum →
      ∃ shown, datum.display? = some shown ∧ ofText zone .numeric shown = .ok datum := by
  refine ⟨?_, ?_, ?_⟩
  · intro datum
    exact numeric_eq_ok_iff
  · intro failure
    exact numeric_eq_error_iff
  · intro datum read
    obtain ⟨literal, same⟩ := numeric_eq_ok_iff.mp read
    subst same
    refine ⟨_, rfl, numeric_eq_ok_iff.mpr ?_⟩
    rw [String.toList_ofList, Text.trim_trim]
    exact ⟨literal, rfl⟩

/-- A point without digits in front of it and a signed exponent, between blanks. -/
theorem numeric_read_iff_fraction :
    ofText Zone.utc .numeric " -.50E+007\n" = .ok (.numeric "-.50E+007") ∧
      ofText Zone.utc .numeric "-.50E+007" = .ok (.numeric "-.50E+007") ∧
      ofText Zone.utc .numeric "1.2.3" =
        .error (.invalidArgument (.inputSyntax .numeric "1.2.3")) := by
  obtain ⟨accepted, _, reread⟩ := numeric_read_iff Zone.utc " -.50E+007\n"
  obtain ⟨_, refused, _⟩ := numeric_read_iff Zone.utc "1.2.3"
  have literal : NumericLiteral (Text.trim " -.50E+007\n".toList) :=
    isNumericLiteral_iff.mp (by decide)
  have twice : ¬NumericLiteral (Text.trim "1.2.3".toList) :=
    mt isNumericLiteral_iff.mpr (by decide)
  have read := (accepted (.numeric "-.50E+007")).mpr ⟨literal, by decide⟩
  obtain ⟨shown, displayed, again⟩ := reread _ read
  cases displayed
  exact ⟨read, again, (refused _).mpr ⟨twice, rfl⟩⟩

end Datum

end ForeignTable
