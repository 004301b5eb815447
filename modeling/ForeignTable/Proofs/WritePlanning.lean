import ForeignTable.Plan.Write
import ForeignTable.Proofs.Materialize
import ForeignTable.Proofs.Placeholders

/-! Planning of writes. A plan is inverted once for each kind of write: its targets are live
columns, its key is the primary key of the relation and present exactly for updates and
deletes, and its text has one placeholder for each of them. -/

set_option autoImplicit false

namespace ForeignTable

namespace Relation

variable {relation : Relation} {targets : List Nat} {columns : List Column} {column : Column}

/-!
## Targets
-/

/-- The columns with these ordinals, each of them live. -/
def Live (relation : Relation) (targets : List Nat) (columns : List Column) : Prop :=
  List.Forall₂ (fun ordinal column => relation.liveColumn ordinal = .ok column) targets columns

theorem exists_live_iff :
    (∃ columns, relation.Live targets columns) ↔ ∀ ordinal ∈ targets, relation.IsLive ordinal := by
  simp only [isLive_iff_liveColumn, ← Attempt.exists_mapM_eq_ok_iff]
  exact exists_congr fun _ => Attempt.mapM_eq_ok_iff.symm

private theorem Live.exists_liveColumn (live : relation.Live targets columns) {ordinal : Nat}
    (member : ordinal ∈ targets) : ∃ column, relation.liveColumn ordinal = .ok column :=
  isLive_iff_liveColumn.mp (exists_live_iff.mp ⟨columns, live⟩ ordinal member)

theorem Live.remoteNames (live : relation.Live targets columns) :
    relation.remoteNames targets = .ok (columns.map Column.remoteName) := by
  refine Attempt.mapM_eq_ok_iff.mpr (List.forall₂_map_right_iff.mpr (live.imp ?_))
  intro ordinal column found
  exact Attempt.map_eq_ok_iff.mpr ⟨column, found, rfl⟩

theorem remoteNames_eq_ok_iff {names : List String} :
    relation.remoteNames targets = .ok names ↔
      ∃ columns, relation.Live targets columns ∧ columns.map Column.remoteName = names := by
  constructor
  · intro named
    obtain ⟨columns, live⟩ : ∃ columns, relation.Live targets columns := by
      refine exists_live_iff.mpr ?_
      intro ordinal member
      obtain ⟨_, success⟩ := Attempt.exists_of_mapM_eq_ok named member
      obtain ⟨column, found, _⟩ := Attempt.map_eq_ok_iff.mp success
      exact isLive_iff_liveColumn.mpr ⟨column, found⟩
    exact ⟨columns, live, Except.ok.inj (live.remoteNames.symm.trans named)⟩
  · rintro ⟨columns, live, rfl⟩
    exact live.remoteNames

theorem insertStatement_eq_ok_iff {keepExisting : Bool} {statement : Sql.Statement} :
    relation.insertStatement targets keepExisting = .ok statement ↔
      ∃ columns, relation.Live targets columns ∧
        .insert relation.tableName (columns.map Column.remoteName) keepExisting = statement := by
  simp only [insertStatement, Attempt.map_eq_ok_iff, remoteNames_eq_ok_iff]
  constructor
  · rintro ⟨_, ⟨columns, live, rfl⟩, rfl⟩
    exact ⟨columns, live, rfl⟩
  · rintro ⟨columns, live, rfl⟩
    exact ⟨_, ⟨columns, live, rfl⟩, rfl⟩

theorem updateStatement_eq_ok_iff {statement : Sql.Statement} :
    relation.updateStatement targets column = .ok statement ↔
      targets ≠ [] ∧ ∃ columns, relation.Live targets columns ∧
        .update relation.tableName (columns.map Column.remoteName) column.remoteName =
          statement := by
  simp only [updateStatement, Attempt.guard_eq_ok_iff, Attempt.map_eq_ok_iff,
    remoteNames_eq_ok_iff, List.isEmpty_iff]
  refine and_congr Iff.rfl ?_
  constructor
  · rintro ⟨_, ⟨columns, live, rfl⟩, rfl⟩
    exact ⟨columns, live, rfl⟩
  · rintro ⟨columns, live, rfl⟩
    exact ⟨_, ⟨columns, live, rfl⟩, rfl⟩

theorem Live.insertStatement (live : relation.Live targets columns) (keepExisting : Bool) :
    relation.insertStatement targets keepExisting =
      .ok (.insert relation.tableName (columns.map Column.remoteName) keepExisting) :=
  insertStatement_eq_ok_iff.mpr ⟨columns, live, rfl⟩

theorem Live.updateStatement (live : relation.Live targets columns) (assigned : targets ≠ [])
    (key : Column) :
    relation.updateStatement targets key =
      .ok (.update relation.tableName (columns.map Column.remoteName) key.remoteName) :=
  updateStatement_eq_ok_iff.mpr ⟨assigned, columns, live, rfl⟩

/-!
## The key
-/

/-- The first live column of the name that the settings give the primary key. -/
structure IsKey (relation : Relation) (column : Column) : Prop where
  named : relation.options.primaryKey = some column.name
  live : column ∈ relation.liveColumns
  first : ∀ other ∈ relation.liveColumns, other.name = column.name →
    column.ordinal ≤ other.ordinal

/-- The settings name a live column as the primary key. -/
def NamesKey (relation : Relation) : Prop :=
  ∃ column ∈ relation.columns, column.dropped = false ∧
    relation.options.primaryKey = some column.name

theorem eq_of_ordinal {other : Column} (first : column ∈ relation.liveColumns)
    (second : other ∈ relation.liveColumns) (same : column.ordinal = other.ordinal) :
    column = other := by
  have here := column?_of_mem (mem_liveColumns.mp first).1
  have there := column?_of_mem (mem_liveColumns.mp second).1
  rw [same] at here
  exact Option.some.inj (here.symm.trans there)

theorem IsKey.unique {other : Column} (first : relation.IsKey column)
    (second : relation.IsKey other) : column = other := by
  have same : other.name = column.name :=
    Option.some.inj (second.named.symm.trans first.named)
  have here := first.first other second.live same
  have there := second.first column first.live same.symm
  exact eq_of_ordinal first.live second.live (Nat.le_antisymm here there)

/-- What a look-up by name finds comes first among the live columns of that name. -/
theorem first_of_columnNamed? {name : String} (found : relation.columnNamed? name = some column) :
    column ∈ relation.liveColumns ∧ column.name = name ∧
      ∀ other ∈ relation.liveColumns, other.name = name → column.ordinal ≤ other.ordinal := by
  obtain ⟨named, front, back, split, apart⟩ := List.find?_eq_some_iff_append.mp found
  refine ⟨List.mem_of_find?_eq_some found, eq_of_beq named, ?_⟩
  intro other member same
  by_contra smaller
  have before := (mem_front_iff split).mpr ⟨member, Nat.lt_of_not_le smaller⟩
  simpa [same] using apart other before

theorem primaryKey_eq_ok_iff {key : KeyColumn} :
    relation.primaryKey = .ok key ↔
      ∃ column, relation.IsKey column ∧
        key = ⟨column.ordinal, column.name, column.columnType⟩ := by
  unfold primaryKey
  cases configured : relation.options.primaryKey with
  | none =>
      refine iff_of_false nofun ?_
      rintro ⟨column, key, _⟩
      cases configured.symm.trans key.named
  | some name =>
      cases found : relation.columnNamed? name with
      | none =>
          refine iff_of_false (by simp [found]) ?_
          rintro ⟨column, key, _⟩
          cases configured.symm.trans key.named
          exact absurd (beq_self_eq_true _) (List.find?_eq_none.mp found column key.live)
      | some column =>
          obtain ⟨live, rfl, first⟩ := first_of_columnNamed? found
          have key : relation.IsKey column := ⟨configured, live, first⟩
          simp only [found, Except.ok.injEq]
          constructor
          · rintro rfl
            exact ⟨column, key, rfl⟩
          · rintro ⟨other, named, rfl⟩
            rw [key.unique named]

theorem namesKey_iff : relation.NamesKey ↔ ∃ column, relation.IsKey column := by
  constructor
  · rintro ⟨column, member, kept, configured⟩
    have live := mem_liveColumns.mpr ⟨member, kept⟩
    obtain ⟨key, found⟩ : ∃ key, relation.columnNamed? column.name = some key :=
      Option.isSome_iff_exists.mp (List.find?_isSome.mpr ⟨column, live, beq_self_eq_true _⟩)
    obtain ⟨there, same, first⟩ := first_of_columnNamed? found
    refine ⟨key, ?_, there, ?_⟩
    · rw [same]
      exact configured
    · rw [same]
      exact first
  · rintro ⟨column, key⟩
    obtain ⟨member, kept⟩ := mem_liveColumns.mp key.live
    exact ⟨column, member, kept, key.named⟩

end Relation

namespace WritePlan

variable {relation : Relation} {plan : WritePlan}

/-!
## Plans
-/

/-- An insert is planned with live targets, unless it is to update an existing row. -/
theorem insert_eq_ok_iff {targets : List Nat} {conflict : Option ConflictAction} :
    insert relation targets conflict = .ok plan ↔ conflict ≠ some .doUpdate ∧
      ∃ columns, relation.Live targets columns ∧ plan = {
        operation := .insert
        sql := (Sql.Statement.insert relation.tableName (columns.map Column.remoteName)
          conflict.isSome).text
        targets
        key := none
        consistency := relation.options.writeConsistency } := by
  unfold insert
  rw [Attempt.guard_eq_ok_iff]
  refine and_congr Iff.rfl ?_
  constructor
  · intro planned
    obtain ⟨statement, built, shape⟩ := Attempt.bind_eq_ok_iff.mp planned
    obtain ⟨columns, live, rfl⟩ := Relation.insertStatement_eq_ok_iff.mp built
    exact ⟨columns, live, (Except.ok.inj shape).symm⟩
  · rintro ⟨columns, live, rfl⟩
    exact Attempt.bind_eq_ok_iff.mpr ⟨_, live.insertStatement _, rfl⟩

/-- An update is planned with some live targets and a key. -/
theorem update_eq_ok_iff {targets : List Nat} :
    update relation targets = .ok plan ↔ targets ≠ [] ∧
      ∃ columns key, relation.Live targets columns ∧ relation.IsKey key ∧ plan = {
        operation := .update
        sql := (Sql.Statement.update relation.tableName (columns.map Column.remoteName)
          key.remoteName).text
        targets
        key := some ⟨key.ordinal, key.name, key.columnType⟩
        consistency := relation.options.writeConsistency } := by
  unfold update
  constructor
  · intro planned
    obtain ⟨_, resolved, planned⟩ := Attempt.bind_eq_ok_iff.mp planned
    obtain ⟨key, isKey, rfl⟩ := Relation.primaryKey_eq_ok_iff.mp resolved
    obtain ⟨column, found, planned⟩ := Attempt.bind_eq_ok_iff.mp planned
    cases (Relation.liveColumn_of_mem isKey.live).symm.trans found
    obtain ⟨statement, built, shape⟩ := Attempt.bind_eq_ok_iff.mp planned
    obtain ⟨filled, columns, live, rfl⟩ := Relation.updateStatement_eq_ok_iff.mp built
    exact ⟨filled, columns, key, live, isKey, (Except.ok.inj shape).symm⟩
  · rintro ⟨filled, columns, key, live, isKey, rfl⟩
    refine Attempt.bind_eq_ok_iff.mpr ⟨_, Relation.primaryKey_eq_ok_iff.mpr ⟨key, isKey, rfl⟩, ?_⟩
    refine Attempt.bind_eq_ok_iff.mpr ⟨key, Relation.liveColumn_of_mem isKey.live, ?_⟩
    exact Attempt.bind_eq_ok_iff.mpr ⟨_, live.updateStatement filled key, rfl⟩

/-- A delete is planned with a key. -/
theorem delete_eq_ok_iff :
    delete relation = .ok plan ↔ ∃ key, relation.IsKey key ∧ plan = {
      operation := .delete
      sql := (Sql.Statement.delete relation.tableName key.remoteName).text
      targets := []
      key := some ⟨key.ordinal, key.name, key.columnType⟩
      consistency := relation.options.writeConsistency } := by
  unfold delete
  constructor
  · intro planned
    obtain ⟨_, resolved, planned⟩ := Attempt.bind_eq_ok_iff.mp planned
    obtain ⟨key, isKey, rfl⟩ := Relation.primaryKey_eq_ok_iff.mp resolved
    obtain ⟨column, found, shape⟩ := Attempt.bind_eq_ok_iff.mp planned
    cases (Relation.liveColumn_of_mem isKey.live).symm.trans found
    exact ⟨key, isKey, (Except.ok.inj shape).symm⟩
  · rintro ⟨key, isKey, rfl⟩
    refine Attempt.bind_eq_ok_iff.mpr ⟨_, Relation.primaryKey_eq_ok_iff.mpr ⟨key, isKey, rfl⟩, ?_⟩
    exact Attempt.bind_eq_ok_iff.mpr ⟨key, Relation.liveColumn_of_mem isKey.live, rfl⟩

/-!
## Layout
-/

/-- The plans that exist for a relation: of a requested write, or of one kind of write. -/
inductive Planned (relation : Relation) (plan : WritePlan) : Prop where
  | request {operation : WriteOperation} {assigned : List Nat}
      {conflict : Option ConflictAction} :
      ofRequest relation operation assigned conflict = .ok plan → Planned relation plan
  | insert {targets : List Nat} {conflict : Option ConflictAction} :
      WritePlan.insert relation targets conflict = .ok plan → Planned relation plan
  | update {targets : List Nat} :
      WritePlan.update relation targets = .ok plan → Planned relation plan
  | delete : WritePlan.delete relation = .ok plan → Planned relation plan

/-- The layout of a plan agrees with its relation and with its text. -/
structure Fits (plan : WritePlan) (relation : Relation) : Prop where
  live : ∀ ordinal ∈ plan.targets, ∃ column, relation.liveColumn ordinal = .ok column
  keyed : plan.key.isSome = plan.operation.needsKey
  primary : ∀ column ∈ plan.key, relation.primaryKey = .ok column
  placeholders : Remote.countPlaceholders none plan.sql.toList =
    plan.targets.length + plan.key.toList.length

private theorem insert_fits {targets : List Nat} {conflict : Option ConflictAction}
    (planned : insert relation targets conflict = .ok plan) : plan.Fits relation := by
  obtain ⟨_, columns, live, rfl⟩ := insert_eq_ok_iff.mp planned
  refine ⟨fun _ => live.exists_liveColumn, rfl, nofun, ?_⟩
  rw [Sql.Statement.countPlaceholders_text, List.Forall₂.length_eq live]
  exact List.length_map _

private theorem update_fits {targets : List Nat} (planned : update relation targets = .ok plan) :
    plan.Fits relation := by
  obtain ⟨_, columns, key, live, isKey, rfl⟩ := update_eq_ok_iff.mp planned
  refine ⟨fun _ => live.exists_liveColumn, rfl, ?_, ?_⟩
  · rintro _ ⟨⟩
    exact Relation.primaryKey_eq_ok_iff.mpr ⟨key, isKey, rfl⟩
  · rw [Sql.Statement.countPlaceholders_text, List.Forall₂.length_eq live]
    exact congrArg (· + 1) (List.length_map _)

private theorem delete_fits (planned : delete relation = .ok plan) : plan.Fits relation := by
  obtain ⟨key, isKey, rfl⟩ := delete_eq_ok_iff.mp planned
  refine ⟨nofun, rfl, ?_, Sql.Statement.countPlaceholders_text _⟩
  rintro _ ⟨⟩
  exact Relation.primaryKey_eq_ok_iff.mpr ⟨key, isKey, rfl⟩

private theorem ofRequest_fits {operation : WriteOperation} {assigned : List Nat}
    {conflict : Option ConflictAction}
    (planned : ofRequest relation operation assigned conflict = .ok plan) :
    plan.Fits relation := by
  unfold ofRequest at planned
  split at planned
  · cases planned
  · cases operation with
    | insert => exact insert_fits planned
    | update =>
        obtain ⟨targets, _, continuation⟩ := Attempt.bind_eq_ok_iff.mp planned
        exact update_fits continuation
    | delete => exact delete_fits planned

theorem Planned.fits (planned : Planned relation plan) : plan.Fits relation := by
  cases planned with
  | request planned => exact ofRequest_fits planned
  | insert planned => exact insert_fits planned
  | update planned => exact update_fits planned
  | delete planned => exact delete_fits planned

end WritePlan

/-- A relation whose names have placeholders, quotes, key words and nothing in them. -/
def awkward : Relation where
  schema := "?'"
  name := "\"?\" = ?"
  columns := [{ ordinal := 1, name := "?", columnType := .integer },
    { ordinal := 2, name := "null", columnType := .text },
    { ordinal := 3, name := "total", columnType := .text, options := { columnName := some "" } }]
  dense := ⟨rfl, rfl, rfl, trivial⟩
  options := { primaryKey := some "?" }

theorem awkward_live : ∃ columns, awkward.Live [3, 2] columns :=
  ⟨_, .cons rfl (.cons rfl .nil)⟩

end ForeignTable
