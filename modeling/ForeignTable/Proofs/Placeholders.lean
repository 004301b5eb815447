import ForeignTable.Remote.Statement
import ForeignTable.Sql.Statement

/-! Placeholders of statement texts. The reader of placeholders passes over everything in
quotes, so a text adds a fixed number of placeholders to whatever follows it as soon as it
leaves the reader outside quotes. Names and literals add none, whatever characters they
contain, and a statement has one placeholder for each value that it takes. -/

set_option autoImplicit false

namespace ForeignTable.Sql

open Remote (countPlaceholders)

/-- Read from outside quotes, the text ends outside quotes after `count` placeholders. -/
def Adds (count : Nat) (text : List Char) : Prop :=
  ∀ rest, countPlaceholders none (text ++ rest) = count + countPlaceholders none rest

private theorem Adds.count_eq {count : Nat} {text : List Char} (adds : Adds count text) :
    countPlaceholders none text = count := by
  simpa [countPlaceholders] using adds []

private theorem adds_nil : Adds 0 [] := by
  intro rest
  simp

theorem Adds.append {leftCount rightCount : Nat} {left right : List Char}
    (leftAdds : Adds leftCount left) (rightAdds : Adds rightCount right) :
    Adds (leftCount + rightCount) (left ++ right) := by
  intro rest
  rw [List.append_assoc, leftAdds, rightAdds, Nat.add_assoc]

/-- Text without quotes adds the placeholders that it shows. -/
theorem adds_of_unquoted {text : List Char} (unquoted : '"' ∉ text ∧ '\'' ∉ text) :
    Adds (text.count '?') text := by
  induction text with
  | nil => exact adds_nil
  | cons c text ih =>
      intro rest
      obtain ⟨double, withoutDouble⟩ := List.ne_and_not_mem_of_not_mem_cons unquoted.1
      obtain ⟨single, withoutSingle⟩ := List.ne_and_not_mem_of_not_mem_cons unquoted.2
      have tail := ih ⟨withoutDouble, withoutSingle⟩ rest
      by_cases mark : c = '?'
      · simp [countPlaceholders, mark, tail]
        omega
      · simp [countPlaceholders, double.symm, single.symm, mark, tail]

/-- Inside quotes a doubled mark closes the quotes and opens them again. -/
theorem countPlaceholders_doubled (mark : Char) (quote : mark = '"' ∨ mark = '\'')
    (name rest : List Char) :
    countPlaceholders (some mark) (doubled mark name ++ mark :: rest) =
      countPlaceholders none rest := by
  induction name with
  | nil => simp [doubled, countPlaceholders]
  | cons c name ih =>
      by_cases same : c = mark
      · simp [doubled, countPlaceholders, same, quote, ih]
      · simp [doubled, countPlaceholders, same, ih]

private theorem adds_enclosed (mark : Char) (quote : mark = '"' ∨ mark = '\'') (name : List Char) :
    Adds 0 (enclosed mark name) := by
  intro rest
  simp [enclosed, countPlaceholders, quote, countPlaceholders_doubled]

private theorem startsBare_ne {c : Char} (starts : startsBare c = true) :
    c ≠ '"' ∧ c ≠ '\'' ∧ c ≠ '?' := by
  refine ⟨?_, ?_, ?_⟩ <;> (rintro rfl; revert starts; decide)

private theorem continuesBare_ne {c : Char} (continues : continuesBare c = true) :
    c ≠ '"' ∧ c ≠ '\'' ∧ c ≠ '?' := by
  refine ⟨?_, ?_, ?_⟩ <;> (rintro rfl; revert continues; decide)

private theorem ne_of_isBare {name : List Char} (bare : isBare name = true) {c : Char}
    (member : c ∈ name) : c ≠ '"' ∧ c ≠ '\'' ∧ c ≠ '?' := by
  cases name with
  | nil => simp at member
  | cons first rest =>
      simp only [isBare, Bool.and_eq_true, List.all_eq_true] at bare
      rcases List.mem_cons.mp member with rfl | behind
      · exact startsBare_ne bare.1.1
      · exact continuesBare_ne (bare.1.2 c behind)

/-- An identifier adds no placeholder, bare or enclosed. -/
theorem adds_identifier (name : String) : Adds 0 (identifier name) := by
  unfold identifier
  split
  · rename_i bare
    have none : name.toList.count '?' = 0 := by
      rw [List.count_eq_zero]
      intro member
      exact (ne_of_isBare bare member).2.2 rfl
    rw [← none]
    exact adds_of_unquoted ⟨fun member => (ne_of_isBare bare member).1 rfl,
      fun member => (ne_of_isBare bare member).2.1 rfl⟩
  · exact adds_enclosed '"' (.inl rfl) name.toList

private theorem adds_commaSeparated {count : Nat} {parts : List (List Char)}
    (each : ∀ part ∈ parts, Adds count part) :
    Adds (parts.length * count) (commaSeparated parts) := by
  induction parts with
  | nil => simpa [commaSeparated] using adds_nil
  | cons part rest ih =>
      have first := each part List.mem_cons_self
      have others := ih fun other member => each other (List.mem_cons_of_mem part member)
      cases rest with
      | nil => simpa [commaSeparated] using first
      | cons second rest =>
          have comma : Adds 0 [',', ' '] := adds_of_unquoted (by decide)
          have total := first.append (comma.append others)
          have size : (part :: second :: rest).length * count =
              count + (0 + (second :: rest).length * count) := by
            simp only [List.length_cons, Nat.succ_mul]
            omega
          rw [size]
          exact total

private theorem adds_equation (name : String) : Adds 1 (equation name) :=
  (adds_identifier name).append (adds_of_unquoted (by decide))

private theorem adds_keyCondition (key : String) : Adds 1 (keyCondition key) := by
  have opening : Adds 0 " WHERE ".toList := adds_of_unquoted (by decide)
  exact opening.append (adds_equation key)

private theorem TableName.adds_text (table : TableName) : Adds 0 table.text := by
  have dot : Adds 0 ['.'] := adds_of_unquoted (by decide)
  exact (adds_identifier table.keyspace).append (dot.append (adds_identifier table.table))

private theorem adds_identifiers (columns : List String) :
    Adds 0 (commaSeparated (columns.map identifier)) := by
  have parts : ∀ part ∈ columns.map identifier, Adds 0 part := by
    intro part member
    obtain ⟨name, _, rfl⟩ := List.mem_map.mp member
    exact adds_identifier name
  simpa using adds_commaSeparated parts

private theorem adds_equations (columns : List String) :
    Adds columns.length (commaSeparated (columns.map equation)) := by
  have parts : ∀ part ∈ columns.map equation, Adds 1 part := by
    intro part member
    obtain ⟨name, _, rfl⟩ := List.mem_map.mp member
    exact adds_equation name
  simpa using adds_commaSeparated parts

private theorem adds_insertedValues (columns : List String) :
    Adds columns.length (insertedValues columns) := by
  unfold insertedValues
  split
  · rename_i empty
    rw [List.isEmpty_iff.mp empty]
    exact adds_of_unquoted (by decide)
  · have marks : ∀ part ∈ columns.map fun _ => placeholder.toList, Adds 1 part := by
      intro part member
      obtain ⟨_, _, rfl⟩ := List.mem_map.mp member
      exact adds_of_unquoted (by decide)
    have opening : Adds 0 " (".toList := adds_of_unquoted (by decide)
    have middle : Adds 0 ") VALUES (".toList := adds_of_unquoted (by decide)
    have closing : Adds 0 [')'] := adds_of_unquoted (by decide)
    simpa using (((opening.append (adds_identifiers columns)).append middle).append
      (adds_commaSeparated marks)).append closing

/-- The number of values that a statement takes: one for each target column, and one for
the key. -/
def Statement.valueCount : Statement → Nat
  | select .. => 0
  | insert _ columns _ => columns.length
  | update _ columns _ => columns.length + 1
  | delete .. => 1

private theorem Statement.adds_characters (statement : Statement) :
    Adds statement.valueCount statement.characters := by
  cases statement with
  | select table columns =>
      have selected : Adds 0 (if columns.isEmpty then "NULL".toList
          else commaSeparated (columns.map identifier)) := by
        split
        · exact adds_of_unquoted (by decide)
        · exact adds_identifiers columns
      have verb : Adds 0 "SELECT ".toList := adds_of_unquoted (by decide)
      have source : Adds 0 " FROM ".toList := adds_of_unquoted (by decide)
      exact ((verb.append selected).append source).append table.adds_text
  | insert table columns keepExisting =>
      have verb : Adds 0 "INSERT INTO ".toList := adds_of_unquoted (by decide)
      have conflict :
          Adds 0 (if keepExisting then " ON CONFLICT DO NOTHING".toList else []) := by
        split
        · exact adds_of_unquoted (by decide)
        · exact adds_nil
      have total := ((verb.append table.adds_text).append (adds_insertedValues columns)).append
        conflict
      rw [Nat.zero_add, Nat.add_zero] at total
      exact total
  | update table columns key =>
      have verb : Adds 0 "UPDATE ".toList := adds_of_unquoted (by decide)
      have assignment : Adds 0 " SET ".toList := adds_of_unquoted (by decide)
      have total := (((verb.append table.adds_text).append assignment).append
        (adds_equations columns)).append (adds_keyCondition key)
      rw [Nat.zero_add] at total
      exact total
  | delete table key =>
      have verb : Adds 0 "DELETE FROM ".toList := adds_of_unquoted (by decide)
      exact (verb.append table.adds_text).append (adds_keyCondition key)

/-- A prepared statement has exactly one parameter for each value that it takes. -/
theorem Statement.countPlaceholders_text (statement : Statement) :
    countPlaceholders none statement.text.toList = statement.valueCount := by
  rw [Statement.text, String.toList_ofList]
  exact statement.adds_characters.count_eq

end ForeignTable.Sql
