import ForeignTable.Error
import ForeignTable.Options

/-!
# Relations

The catalog description of a foreign table. Columns are numbered by ordinals from one in
order; a dropped column keeps its ordinal and its slot, but no lookup by name finds it.
-/

set_option autoImplicit false

namespace ForeignTable

structure Column where
  /-- The position, from one. -/
  ordinal : Nat
  name : String
  columnType : ColumnType
  nullable : Bool := true
  dropped : Bool := false
  options : ColumnOptions := {}
deriving DecidableEq

/-- The name in remote statements: the one from the options, or else the local one. -/
def Column.remoteName (column : Column) : String := column.options.columnName.getD column.name

/-- The ordinals of the columns count up from `next` without gaps. -/
def Dense : Nat → List Column → Prop
  | _, [] => True
  | next, column :: rest => column.ordinal = next ∧ Dense (next + 1) rest

/-- The first column whose ordinal breaks the count, with the ordinal expected there. -/
def firstGap? : Nat → List Column → Option (Column × Nat)
  | _, [] => none
  | next, column :: rest =>
      if column.ordinal = next then firstGap? (next + 1) rest else some (column, next)

theorem firstGap?_eq_none_iff {next : Nat} {columns : List Column} :
    firstGap? next columns = none ↔ Dense next columns := by
  induction columns generalizing next with
  | nil => simp [firstGap?, Dense]
  | cons column rest ih =>
      by_cases same : column.ordinal = next <;> simp [firstGap?, Dense, same, ih]

theorem Dense.ordinal_of_getElem? {columns : List Column} {next index : Nat} {column : Column}
    (dense : Dense next columns) (found : columns[index]? = some column) :
    column.ordinal = next + index := by
  induction columns generalizing next index with
  | nil => simp at found
  | cons first rest ih =>
      obtain ⟨head, tail⟩ := dense
      cases index with
      | zero =>
          simp only [List.getElem?_cons_zero, Option.some.injEq] at found
          subst found
          simpa using head
      | succ index =>
          have := ih tail (by simpa using found)
          omega

structure Relation where
  schema : String
  name : String
  columns : List Column
  dense : Dense 1 columns
  options : TableOptions := {}

namespace Relation

def ofColumns (schema name : String) (columns : List Column) : Except Error Relation :=
  match gap : firstGap? 1 columns with
  | none => .ok { schema, name, columns, dense := firstGap?_eq_none_iff.mp gap }
  | some (column, expected) =>
      .error (.invalidArgument (.ordinalGap column.name name column.ordinal expected))

/-- The column with an ordinal, dropped ones included. -/
def column? (relation : Relation) : Nat → Option Column
  | 0 => none
  | index + 1 => relation.columns[index]?

theorem ordinal_of_column? {relation : Relation} {ordinal : Nat} {column : Column}
    (found : relation.column? ordinal = some column) : column.ordinal = ordinal := by
  cases ordinal with
  | zero => simp [column?] at found
  | succ index =>
      have := relation.dense.ordinal_of_getElem? found
      omega

def liveColumn (relation : Relation) (ordinal : Nat) : Except Error Column :=
  match relation.column? ordinal with
  | none => .error (.invalidArgument (.unknownOrdinal relation.name ordinal))
  | some column =>
      if column.dropped then
        .error (.invalidArgument (.droppedColumn column.name relation.name))
      else .ok column

theorem liveColumn_eq_ok_iff {relation : Relation} {ordinal : Nat} {column : Column} :
    relation.liveColumn ordinal = .ok column ↔
      relation.column? ordinal = some column ∧ column.dropped = false := by
  unfold liveColumn
  cases relation.column? ordinal with
  | none => simp
  | some found =>
      cases dropped : found.dropped <;> simp [dropped]
      · rintro rfl
        exact dropped
      · rintro rfl
        exact dropped

def liveColumns (relation : Relation) : List Column :=
  relation.columns.filter fun column => !column.dropped

/-- The first live column with exactly this local name. -/
def columnNamed? (relation : Relation) (name : String) : Option Column :=
  relation.liveColumns.find? fun column => column.name == name

def remoteKeyspace (relation : Relation) : String :=
  relation.options.schemaName.getD relation.schema

def remoteTable (relation : Relation) : String :=
  relation.options.tableName.getD relation.name

end Relation

/-- The column that updates and deletes address rows by. -/
structure KeyColumn where
  ordinal : Nat
  name : String
  columnType : ColumnType
deriving DecidableEq

def Relation.primaryKey (relation : Relation) : Except Error KeyColumn :=
  match relation.options.primaryKey with
  | none => .error (.configuration (.noPrimaryKey relation.name))
  | some name =>
      match relation.columnNamed? name with
      | none => .error (.configuration (.unknownPrimaryKey name relation.name))
      | some column => .ok ⟨column.ordinal, column.name, column.columnType⟩

end ForeignTable
