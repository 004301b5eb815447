import Mathlib.Logic.Function.Basic
import ForeignTable.Proofs.Sql.Quoted
import ForeignTable.Proofs.Sql.Token
import ForeignTable.Proofs.Text.Split

/-! Single identifiers and literals. A reader that stops behind the first one finds the name or the
value again, and all that was written behind it, unless that goes on with what it has read. -/

set_option autoImplicit false

namespace ForeignTable.Sql

/-!
## Readers
-/

/-- True for the characters that a bare identifier goes on with. -/
def isNameCharacter (c : Char) : Bool := isSmall c || ('0' ≤ c && c ≤ '9')

/-- Reads the longest run of name characters, if it is shaped like a name and not reserved. -/
def bareIdentifier? (text : List Char) : Option (String × List Char) :=
  let letters := text.takeWhile isNameCharacter
  if isNameShaped letters && !reservedWords.contains (String.ofList letters) then
    some (String.ofList letters, text.dropWhile isNameCharacter)
  else none

def quotedText? (mark : Char) (text : List Char) : Option (String × List Char) :=
  (quoted? mark text).map fun (letters, rest) => (String.ofList letters, rest)

/-- Reads an identifier in double quotes or a bare one, and leaves what stands behind it. -/
def identifier? (text : List Char) : Option (String × List Char) :=
  if text.head? = some '"' then quotedText? '"' text else bareIdentifier? text

def literal? (text : List Char) : Option (String × List Char) := quotedText? '\'' text

/-- The text goes on with neither a bare identifier nor one in quotes. -/
def EndsIdentifier (text : List Char) : Prop :=
  ∀ c ∈ text.head?, c ≠ '"' ∧ isNameCharacter c = false

variable {mark : Char} {name value : String} {letters text rest : List Char}

/-!
## Quoted texts
-/

theorem quotedText?_eq_some_iff : quotedText? mark text = some (value, rest) ↔
    text = enclosed mark value.toList ++ rest ∧ rest.head? ≠ some mark := by
  rw [← quoted?_eq_some_iff, quotedText?, Option.map_eq_some_iff]
  constructor
  · rintro ⟨⟨letters, behind⟩, read, same⟩
    cases same
    rw [String.toList_ofList]
    exact read
  · intro read
    exact ⟨_, read, congrArg (·, rest) String.ofList_toList⟩

private theorem literal?_literal :
    literal? (literal value ++ rest) = some (value, rest) ↔ rest.head? ≠ some '\'' :=
  quotedText?_eq_some_iff.trans (and_iff_right rfl)

/-!
## Bare identifiers
-/

private theorem isNameCharacter_of_isNameShaped (shaped : isNameShaped letters = true) :
    ∀ c ∈ letters, isNameCharacter c = true := by
  cases letters with
  | nil => cases shaped
  | cons first more =>
      obtain ⟨small, others⟩ := Bool.and_eq_true_iff.mp shaped
      refine List.forall_mem_cons.mpr ⟨?_, List.all_eq_true.mp others⟩
      rw [isNameCharacter, small, Bool.true_or]

private theorem head?_of_isNameShaped (shaped : isNameShaped letters = true) :
    (letters ++ rest).head? ≠ some '"' := by
  cases letters with
  | nil => cases shaped
  | cons first more =>
      rintro ⟨⟩
      cases shaped

theorem bareIdentifier?_eq_some_iff : bareIdentifier? text = some (name, rest) ↔
    isBare name.toList = true ∧ text = name.toList ++ rest ∧
      ∀ c ∈ rest.head?, isNameCharacter c = false := by
  unfold bareIdentifier?
  constructor
  · intro read
    dsimp only at read
    split at read
    · rename_i known
      cases read
      rw [String.toList_ofList, isBare_eq]
      exact ⟨known, List.takeWhile_append_dropWhile.symm, Text.stops_dropWhile _ _⟩
    · cases read
  · rintro ⟨bare, rfl, ends⟩
    rw [isBare_eq] at bare
    have shaped := isNameCharacter_of_isNameShaped (Bool.and_eq_true_iff.mp bare).1
    dsimp only
    rw [Text.takeWhile_append_of_stop shaped ends, Text.dropWhile_append_of_stop shaped ends,
      if_pos bare, String.ofList_toList]

/-!
## Written identifiers
-/

/-- An identifier that is read stands there in quotes, or bare where it may. -/
theorem identifier?_eq_some_iff : identifier? text = some (name, rest) ↔
    (text = quotedIdentifier name ++ rest ∧ rest.head? ≠ some '"') ∨
      isBare name.toList = true ∧ text = name.toList ++ rest ∧
        ∀ c ∈ rest.head?, isNameCharacter c = false := by
  unfold identifier?
  split
  · rename_i marked
    rw [quotedText?_eq_some_iff]
    refine (or_iff_left ?_).symm
    rintro ⟨bare, rfl, _⟩
    rw [isBare_eq] at bare
    exact head?_of_isNameShaped (Bool.and_eq_true_iff.mp bare).1 marked
  · rename_i unmarked
    rw [bareIdentifier?_eq_some_iff]
    refine (or_iff_right ?_).symm
    rintro ⟨rfl, _⟩
    exact unmarked rfl

private theorem identifier?_identifier (ends : EndsIdentifier rest) :
    identifier? (identifier name ++ rest) = some (name, rest) := by
  rw [identifier?_eq_some_iff]
  unfold identifier
  split
  · rename_i bare
    exact .inr ⟨bare, rfl, fun c first => (ends c first).2⟩
  · exact .inl ⟨rfl, fun first => (ends '"' first).1 rfl⟩

private theorem identifier?_quotedIdentifier (single : rest.head? ≠ some '"') :
    identifier? (quotedIdentifier name ++ rest) = some (name, rest) :=
  identifier?_eq_some_iff.mpr (.inl ⟨rfl, single⟩)

/-- What a reader finds again in full is written for one text only. -/
theorem injective_of_reads {write : String → List Char}
    {read : List Char → Option (String × List Char)}
    (reads : ∀ value, read (write value ++ []) = some (value, [])) : Function.Injective write := by
  intro value other same
  have here := reads value
  rw [same, reads other] at here
  cases here
  rfl

/-- An identifier is read back in front of everything that cannot go on with it, and so is one that
is quoted in any case. A literal is read back in front of everything but one more quote. No two texts
are written alike. -/
theorem quoting_delimits_itself :
    (∀ (name : String) (rest : List Char), EndsIdentifier rest →
      identifier? (identifier name ++ rest) = some (name, rest)) ∧
    (∀ (name : String) (rest : List Char), rest.head? ≠ some '"' →
      identifier? (quotedIdentifier name ++ rest) = some (name, rest)) ∧
    (∀ (value : String) (rest : List Char),
      literal? (literal value ++ rest) = some (value, rest) ↔ rest.head? ≠ some '\'') ∧
    Function.Injective identifier ∧ Function.Injective quotedIdentifier ∧
    Function.Injective literal := by
  refine ⟨fun _ _ => identifier?_identifier, fun _ _ => identifier?_quotedIdentifier,
    fun _ _ => literal?_literal, ?_, ?_, ?_⟩
  · exact injective_of_reads fun _ => identifier?_identifier nofun
  · exact injective_of_reads fun _ => identifier?_quotedIdentifier nofun
  · exact injective_of_reads fun _ => literal?_literal.mpr nofun

example : identifier "\"total\"" = "\"\"\"total\"\"\"".toList ∧
    identifier "total_1" = "total_1".toList ∧ identifier "table" = "\"table\"".toList ∧
    literal "'" = "''''".toList := by decide

theorem quoting_delimits_itself_total :
    EndsIdentifier "FROM t".toList ∧
      identifier? "total_1FROM t".toList = some ("total_1", "FROM t".toList) ∧
      EndsIdentifier ", 'x'".toList ∧
      identifier? "\"\"\"total\"\"\", 'x'".toList = some ("\"total\"", ", 'x'".toList) ∧
      "a".toList.head? ≠ some '"' ∧
      identifier? "\"table\"a".toList = some ("table", "a".toList) := by
  obtain ⟨reads, quoted, _⟩ := quoting_delimits_itself
  have upper : EndsIdentifier "FROM t".toList := by
    rintro c ⟨⟩
    decide
  have comma : EndsIdentifier ", 'x'".toList := by
    rintro c ⟨⟩
    decide
  exact ⟨upper, reads "total_1" _ upper, comma, reads "\"total\"" _ comma, by decide,
    quoted "table" _ (by decide)⟩

end ForeignTable.Sql
