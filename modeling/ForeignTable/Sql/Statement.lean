import ForeignTable.Relation
import ForeignTable.Sql.Name
import ForeignTable.UsedColumns

/-!
# Statements

The four statements that a foreign table sends to the remote store, and their text. Every
value is a positional placeholder: the assigned columns in order, then the key.
-/

set_option autoImplicit false

namespace ForeignTable.Sql

structure TableName where
  keyspace : String
  table : String
deriving DecidableEq

/-- A statement about one remote table. Columns go by their remote names. -/
inductive Statement where
  | select (table : TableName) (columns : List String)
  | insert (table : TableName) (columns : List String) (keepExisting : Bool)
  | update (table : TableName) (columns : List String) (key : String)
  | delete (table : TableName) (key : String)
deriving DecidableEq

def placeholder : String := "?"

def commaSeparated : List (List Char) → List Char
  | [] => []
  | [part] => part
  | part :: rest => part ++ ',' :: ' ' :: commaSeparated rest

def TableName.text (table : TableName) : List Char :=
  identifier table.keyspace ++ '.' :: identifier table.table

def equation (name : String) : List Char := identifier name ++ " = ?".toList

def keyCondition (key : String) : List Char := " WHERE ".toList ++ equation key

/-- The columns and placeholders of an insert; a row of defaults when it has no columns. -/
def insertedValues (columns : List String) : List Char :=
  if columns.isEmpty then " DEFAULT VALUES".toList
  else
    " (".toList ++ commaSeparated (columns.map identifier) ++ ") VALUES (".toList ++
      commaSeparated (columns.map fun _ => placeholder.toList) ++ [')']

/-- The characters of a statement. A select without columns asks for a null, so that every
row still answers. -/
def Statement.characters : Statement → List Char
  | select table columns =>
      "SELECT ".toList ++
        (if columns.isEmpty then "NULL".toList else commaSeparated (columns.map identifier)) ++
        " FROM ".toList ++ table.text
  | insert table columns keepExisting =>
      "INSERT INTO ".toList ++ table.text ++ insertedValues columns ++
        (if keepExisting then " ON CONFLICT DO NOTHING".toList else [])
  | update table columns key =>
      "UPDATE ".toList ++ table.text ++ " SET ".toList ++
        commaSeparated (columns.map equation) ++ keyCondition key
  | delete table key => "DELETE FROM ".toList ++ table.text ++ keyCondition key

def Statement.text (statement : Statement) : String := String.ofList statement.characters

end ForeignTable.Sql

namespace ForeignTable.Relation

open Sql

def tableName (relation : Relation) : TableName :=
  ⟨relation.remoteKeyspace, relation.remoteTable⟩

def selectedColumns (relation : Relation) (used : UsedColumns) : List Column :=
  relation.liveColumns.filter fun column => used.contains column.ordinal

def selectStatement (relation : Relation) (used : UsedColumns) : Statement :=
  .select relation.tableName ((relation.selectedColumns used).map Column.remoteName)

def remoteNames (relation : Relation) (targets : List Nat) : Except Error (List String) :=
  targets.mapM fun ordinal => (relation.liveColumn ordinal).map Column.remoteName

def insertStatement (relation : Relation) (targets : List Nat) (keepExisting : Bool) :
    Except Error Statement :=
  (relation.remoteNames targets).map fun columns =>
    .insert relation.tableName columns keepExisting

def updateStatement (relation : Relation) (targets : List Nat) (key : Column) :
    Except Error Statement :=
  if targets.isEmpty then .error (.invalidArgument (.nothingAssigned relation.name))
  else
    (relation.remoteNames targets).map fun columns =>
      .update relation.tableName columns key.remoteName

def deleteStatement (relation : Relation) (key : Column) : Statement :=
  .delete relation.tableName key.remoteName

end ForeignTable.Relation
