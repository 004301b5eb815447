import ForeignTable.Proofs.Sql.Token
import ForeignTable.Sql.Statement

/-! Statements in tokens. The text of a statement is read to its end, whatever its names are,
and its tokens show the kind of the statement, its names and their order. -/

set_option autoImplicit false

namespace ForeignTable.Sql

def listed (parts : List (List Token)) : List Token := [Token.comma].intercalate parts

def columnTokens (name : String) : List Token := [.name name]

def equationTokens (name : String) : List Token := [.name name, .equals, .placeholder]

def placeholderTokens (_name : String) : List Token := [.placeholder]

def TableName.tokens (table : TableName) : List Token :=
  [.name table.keyspace, .point, .name table.table]

def selectedTokens (columns : List String) : List Token :=
  if columns.isEmpty then [.keyword .NULL] else listed (columns.map columnTokens)

def enclosedTokens (inner : List Token) : List Token := .opening :: (inner ++ [.closing])

def insertedTokens (columns : List String) : List Token :=
  if columns.isEmpty then [.keyword .DEFAULT, .keyword .VALUES]
  else
    enclosedTokens (listed (columns.map columnTokens)) ++ .keyword .VALUES ::
      enclosedTokens (listed (columns.map placeholderTokens))

def conflictTokens (keepExisting : Bool) : List Token :=
  if keepExisting then
    [.keyword .ON, .keyword .CONFLICT, .keyword .DO, .keyword .NOTHING]
  else []

def Statement.tokens : Statement → List Token
  | select table columns =>
      .keyword .SELECT :: (selectedTokens columns ++ .keyword .FROM :: table.tokens)
  | insert table columns keepExisting =>
      .keyword .INSERT :: .keyword .INTO ::
        (table.tokens ++ insertedTokens columns ++ conflictTokens keepExisting)
  | update table columns key =>
      .keyword .UPDATE :: (table.tokens ++ .keyword .SET ::
        (listed (columns.map equationTokens) ++ .keyword .WHERE :: equationTokens key))
  | delete table key =>
      .keyword .DELETE :: .keyword .FROM ::
        (table.tokens ++ .keyword .WHERE :: equationTokens key)

private theorem reads_commaSeparated {form : String → List Char} {tokens : String → List Token}
    (each : ∀ name, Reads (form name) (tokens name)) (names : List String) :
    Reads (commaSeparated (names.map form)) (listed (names.map tokens)) := by
  induction names with
  | nil => exact rfl
  | cons name rest ih =>
      cases rest with
      | nil => simpa [commaSeparated, listed] using each name
      | cons second rest =>
          have pair := (each name).marked (c := ',') rfl ih.blank
          simpa [commaSeparated, listed] using pair

private theorem TableName.reads_text (table : TableName) : Reads table.text table.tokens :=
  (reads_identifier table.keyspace).marked rfl (reads_identifier table.table)

private theorem reads_equation (name : String) : Reads (equation name) (equationTokens name) :=
  (reads_identifier name).spaced (.mark rfl (.blank (.mark rfl rfl)))

private theorem reads_selected (columns : List String) :
    Reads (if columns.isEmpty then "NULL".toList else commaSeparated (columns.map identifier))
      (selectedTokens columns) := by
  unfold selectedTokens
  split
  · exact reads_keyword .NULL
  · exact reads_commaSeparated reads_identifier columns

private theorem reads_placeholder (name : String) :
    Reads placeholder.toList (placeholderTokens name) := rfl

private theorem reads_insertedValues (columns : List String) :
    Reads (insertedValues columns) (insertedTokens columns) := by
  unfold insertedValues insertedTokens
  split
  · exact ((reads_keyword .DEFAULT).spaced (reads_keyword .VALUES)).blank
  · have names := reads_commaSeparated reads_identifier columns
    have marks := reads_commaSeparated reads_placeholder columns
    have values := (reads_keyword .VALUES).spaced
      (.mark (c := '(') rfl (marks.marked (c := ')') rfl reads_nil))
    have shape := Reads.mark (c := '(') rfl (names.marked (c := ')') rfl values.blank)
    simp only [enclosedTokens, List.append_assoc, List.cons_append]
    exact shape.blank

private theorem reads_conflict (keepExisting : Bool) :
    Reads (if keepExisting then " ON CONFLICT DO NOTHING".toList else [])
      (conflictTokens keepExisting) := by
  cases keepExisting <;> rfl

private theorem delimits_insertedValues (columns : List String) :
    Delimits (insertedValues columns) := by
  unfold insertedValues
  split <;> (rintro c ⟨⟩; decide)

private theorem delimits_conflict (keepExisting : Bool) :
    Delimits (if keepExisting then " ON CONFLICT DO NOTHING".toList else []) := by
  cases keepExisting with
  | true =>
      rintro c ⟨⟩
      decide
  | false => exact nofun

theorem Statement.reads_characters (statement : Statement) :
    Reads statement.characters statement.tokens := by
  cases statement with
  | select table columns =>
      have shape := (reads_keyword .SELECT).spaced
        ((reads_selected columns).spaced ((reads_keyword .FROM).spaced table.reads_text))
      unfold characters
      simp only [List.append_assoc]
      exact shape
  | insert table columns keepExisting =>
      have verb := ((reads_keyword .INSERT).spaced (reads_keyword .INTO)).spaced table.reads_text
      have values := verb.append (reads_insertedValues columns) (delimits_insertedValues columns)
      exact values.append (reads_conflict keepExisting) (delimits_conflict keepExisting)
  | update table columns key =>
      have shape := (reads_keyword .UPDATE).spaced
        (table.reads_text.spaced ((reads_keyword .SET).spaced
          ((reads_commaSeparated reads_equation columns).spaced
            ((reads_keyword .WHERE).spaced (reads_equation key)))))
      unfold characters keyCondition
      simp only [List.append_assoc]
      exact shape
  | delete table key =>
      have shape := ((reads_keyword .DELETE).spaced (reads_keyword .FROM)).spaced
        (table.reads_text.spaced ((reads_keyword .WHERE).spaced (reads_equation key)))
      unfold characters keyCondition
      simp only [List.append_assoc]
      exact shape

end ForeignTable.Sql
