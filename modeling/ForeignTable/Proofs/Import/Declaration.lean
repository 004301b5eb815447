import ForeignTable.Import
import ForeignTable.Proofs.Attempt
import ForeignTable.Proofs.Import.Reader

/-! Declarations of imported tables. A declaration is written exactly when every column of the
table has a column type, and it reads back as what it was written for, whatever the names are. -/

set_option autoImplicit false

namespace ForeignTable.Import

open Remote (ColumnInfo TableInfo)

def typedColumn (column : ColumnInfo) : Except Error TypedColumn :=
  column.kind.columnType.map fun columnType => (column.name, columnType)

theorem typedColumn_eq_ok_iff {column : ColumnInfo} {typed : TypedColumn} :
    typedColumn column = .ok typed ↔
      typed.1 = column.name ∧ column.kind.columnType? = some typed.2 := by
  obtain ⟨name, columnType⟩ := typed
  rw [typedColumn, Attempt.map_eq_ok_iff, Remote.Kind.columnType]
  cases column.kind.columnType? <;> simp [and_comm, eq_comm]

theorem typedColumn_eq_error_iff {column : ColumnInfo} {failure : Error} :
    typedColumn column = .error failure ↔
      column.kind.columnType? = none ∧ failure = .unsupported column.kind.name := by
  rw [typedColumn, Attempt.map_eq_error_iff, Remote.Kind.columnType]
  cases column.kind.columnType? <;> simp [eq_comm]

theorem declaration_eq (keyspace server : String) (table : TableInfo) :
    declaration keyspace server table = (table.columns.mapM typedColumn).map fun columns =>
      (Declared.mk table.name columns server keyspace table.name).written := by
  have pointwise : columnDeclaration = fun column => (typedColumn column).map columnText := by
    funext column
    unfold columnDeclaration typedColumn
    cases column.kind.columnType <;> rfl
  unfold declaration
  rw [pointwise, Attempt.mapM_map]
  cases table.columns.mapM typedColumn <;> rfl

theorem exists_typedColumn_iff {column : ColumnInfo} :
    (∃ typed, typedColumn column = .ok typed) ↔ column.kind.columnType?.isSome = true := by
  rw [Option.isSome_iff_exists]
  constructor
  · intro ⟨typed, success⟩
    exact ⟨typed.2, (typedColumn_eq_ok_iff.mp success).2⟩
  · intro ⟨columnType, mapped⟩
    exact ⟨(column.name, columnType), typedColumn_eq_ok_iff.mpr ⟨rfl, mapped⟩⟩

/-- A table is declared exactly when all its columns have column types, and the first one without
names its type in the failure. The declaration reads back as the table, its columns in order with
their column types, the server, and the remote names. -/
theorem declaration_reads_back (keyspace server : String) (table : TableInfo) :
    ((∃ text, declaration keyspace server table = .ok text) ↔
        ∀ column ∈ table.columns, column.kind.columnType?.isSome = true) ∧
      (∀ failure, declaration keyspace server table = .error failure ↔
        ∃ earlier column later, table.columns = earlier ++ column :: later ∧
          (∀ other ∈ earlier, other.kind.columnType?.isSome = true) ∧
          column.kind.columnType? = none ∧ failure = .unsupported column.kind.name) ∧
      ∀ text, declaration keyspace server table = .ok text →
        ∃ columns, Declared.ofText? text =
            some ⟨table.name, columns, server, keyspace, table.name⟩ ∧
          List.Forall₂ (fun (column : ColumnInfo) typed =>
            typed.1 = column.name ∧ column.kind.columnType? = some typed.2)
            table.columns columns := by
  rw [declaration_eq]
  refine ⟨?_, ?_, ?_⟩
  · simp only [← exists_typedColumn_iff, ← Attempt.exists_mapM_eq_ok_iff, Attempt.map_eq_ok_iff]
    constructor
    · intro ⟨_, columns, typed, _⟩
      exact ⟨columns, typed⟩
    · intro ⟨columns, typed⟩
      exact ⟨_, columns, typed, rfl⟩
  · intro failure
    simp only [Attempt.map_eq_error_iff, Attempt.mapM_eq_error_iff, typedColumn_eq_error_iff,
      exists_typedColumn_iff]
  · intro text written
    obtain ⟨columns, typed, rfl⟩ := Attempt.map_eq_ok_iff.mp written
    refine ⟨columns, Declared.ofText?_written _, ?_⟩
    exact (Attempt.mapM_eq_ok_iff.mp typed).imp fun _ _ => typedColumn_eq_ok_iff.mp

/-- A table whose names have quotes, commas and parentheses, or nothing at all. -/
def visits : TableInfo where
  name := "it's \"so\""
  columns := [{ name := "a, \"b\")", kind := .varchar }, { name := "", kind := .timestamp }]

def visitsText : String :=
  "CREATE FOREIGN TABLE \"it's \"\"so\"\"\" (\"a, \"\"b\"\")\" text, \"\" " ++
    "timestamp(0) with time zone) SERVER \"far, away\" " ++
    "OPTIONS (schema_name '', table_name 'it''s \"so\"')"

theorem declaration_reads_back_visits :
    declaration "" "far, away" visits = .ok visitsText ∧
      Declared.ofText? visitsText = some
        { table := "it's \"so\""
          columns := [("a, \"b\")", .text), ("", .timestamptz (some 0))]
          server := "far, away", schemaName := "", tableName := "it's \"so\"" } ∧
      declaration "" "far, away" ⟨"t", [⟨"n", .int⟩, ⟨"d", .decimal⟩, ⟨"b", .blob⟩]⟩ =
        .error (.unsupported "decimal") := by
  obtain ⟨_, _, reads⟩ := declaration_reads_back "" "far, away" visits
  have written : declaration "" "far, away" visits = .ok visitsText := by decide +kernel
  obtain ⟨columns, read, typed⟩ := reads _ written
  refine ⟨written, ?_, ?_⟩
  · obtain ⟨⟨_, _⟩, _, ⟨named, mapped⟩, later, rfl⟩ := List.forall₂_cons_left_iff.mp typed
    obtain ⟨⟨_, _⟩, _, ⟨unnamed, timed⟩, last, rfl⟩ := List.forall₂_cons_left_iff.mp later
    cases named
    cases mapped
    cases unnamed
    cases timed
    cases last
    exact read
  · refine ((declaration_reads_back _ _ _).2.1 _).mpr ⟨[⟨"n", .int⟩], ⟨"d", .decimal⟩, _, rfl, ?_⟩
    exact ⟨by simp [Remote.Kind.columnType?], rfl, rfl⟩

end ForeignTable.Import
