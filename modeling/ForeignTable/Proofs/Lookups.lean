import ForeignTable.Proofs.WritePlanning

/-! Look-ups in a relation. Ordinals count up from one, so a look-up by position and one by name see
the same live columns, and what is found as the primary key is found again by its ordinal. -/

set_option autoImplicit false

namespace ForeignTable

variable {columns : List Column} {column : Column}

/-!
## Building a relation
-/

private theorem dense_iff_ordinals {next : Nat} :
    Dense next columns ↔ columns.map Column.ordinal = List.range' next columns.length := by
  induction columns generalizing next with
  | nil => exact iff_of_true trivial rfl
  | cons column rest ih =>
      rw [Dense, ih, List.map_cons, List.length_cons, List.range'_succ, List.cons.injEq]

/-- A gap is found at the first column whose ordinal is not the next one. -/
theorem firstGap?_eq_some_iff {next expected : Nat} :
    firstGap? next columns = some (column, expected) ↔
      ∃ front back, columns = front ++ column :: back ∧ Dense next front ∧
        expected = front.length + next ∧ column.ordinal ≠ expected := by
  induction columns generalizing next with
  | nil => simp [firstGap?]
  | cons first rest ih =>
      by_cases same : first.ordinal = next
      · rw [firstGap?, if_pos same, ih]
        constructor
        · rintro ⟨front, back, rfl, dense, counted, gap⟩
          refine ⟨first :: front, back, rfl, ⟨same, dense⟩, ?_, gap⟩
          rw [counted, List.length_cons, Nat.add_right_comm, Nat.add_assoc]
        · rintro ⟨_ | ⟨head, front⟩, back, split, dense, counted, gap⟩
          · cases split
            exact absurd (same.trans (Nat.zero_add next).symm) (counted ▸ gap)
          · cases split
            refine ⟨front, back, rfl, dense.2, ?_, gap⟩
            rw [counted, List.length_cons, Nat.add_right_comm, Nat.add_assoc]
      · rw [firstGap?, if_neg same]
        constructor
        · rintro ⟨⟩
          exact ⟨[], rest, rfl, trivial, (Nat.zero_add _).symm, same⟩
        · rintro ⟨_ | ⟨head, front⟩, back, split, dense, counted, gap⟩
          · cases split
            rw [counted, List.length_nil, Nat.zero_add]
          · cases split
            exact absurd dense.1 same

namespace Relation

variable {relation : Relation}

private theorem ofColumns_columns (relation : Relation) :
    ofColumns relation.schema relation.name relation.columns =
      .ok { relation with options := {} } := by
  unfold ofColumns
  split
  · rfl
  · rename_i column expected gap
    cases gap.symm.trans (firstGap?_eq_none_iff.mpr relation.dense)

theorem exists_ofColumns_iff {schema name : String} :
    (∃ relation, ofColumns schema name columns = .ok relation) ↔
      columns.map Column.ordinal = List.range' 1 columns.length := by
  rw [← dense_iff_ordinals]
  constructor
  · rintro ⟨relation, built⟩
    unfold ofColumns at built
    split at built
    · rename_i gapless
      exact firstGap?_eq_none_iff.mp gapless
    · cases built
  · intro dense
    exact ⟨_, ofColumns_columns { schema, name, columns, dense }⟩

/-- A refused list is reported at its first column out of the count. -/
theorem ofColumns_eq_error_iff {schema name : String} {failure : Error} :
    ofColumns schema name columns = .error failure ↔
      ∃ front column back, columns = front ++ column :: back ∧
        front.map Column.ordinal = List.range' 1 front.length ∧
        column.ordinal ≠ front.length + 1 ∧
        failure = .invalidArgument
          (.ordinalGap column.name name column.ordinal (front.length + 1)) := by
  have opened : ofColumns schema name columns = .error failure ↔
      ∃ column expected, firstGap? 1 columns = some (column, expected) ∧
        failure = .invalidArgument (.ordinalGap column.name name column.ordinal expected) := by
    unfold ofColumns
    split
    · rename_i gapless
      simp [gapless]
    · rename_i column expected gap
      simp [gap, eq_comm]
  simp only [opened, firstGap?_eq_some_iff, dense_iff_ordinals]
  constructor
  · rintro ⟨column, _, ⟨front, back, split, dense, rfl, gap⟩, rfl⟩
    exact ⟨front, column, back, split, dense, gap, rfl⟩
  · rintro ⟨front, column, back, split, dense, gap, rfl⟩
    exact ⟨column, _, ⟨front, back, split, dense, rfl, gap⟩, rfl⟩

/-!
## Ordinals and names
-/

private theorem liveColumn_iff_mem {ordinal : Nat} :
    relation.liveColumn ordinal = .ok column ↔
      column ∈ relation.liveColumns ∧ column.ordinal = ordinal := by
  constructor
  · intro found
    obtain ⟨here, kept⟩ := liveColumn_eq_ok_iff.mp found
    exact ⟨mem_liveColumns.mpr ⟨mem_of_column? here, kept⟩, ordinal_of_column? here⟩
  · rintro ⟨live, rfl⟩
    exact liveColumn_of_mem live

theorem columnNamed?_eq_none_iff {name : String} :
    relation.columnNamed? name = none ↔ ∀ column ∈ relation.liveColumns, column.name ≠ name := by
  simp [columnNamed?, List.find?_eq_none]

/-- Of several live columns of a name, the one with the least ordinal is found. -/
theorem columnNamed?_eq_some_iff {name : String} :
    relation.columnNamed? name = some column ↔
      column ∈ relation.liveColumns ∧ column.name = name ∧
        ∀ other ∈ relation.liveColumns, other.name = name → column.ordinal ≤ other.ordinal := by
  constructor
  · exact first_of_columnNamed?
  · rintro ⟨live, named, least⟩
    cases found : relation.columnNamed? name with
    | none => exact absurd named (columnNamed?_eq_none_iff.mp found column live)
    | some other =>
        obtain ⟨there, same, first⟩ := first_of_columnNamed? found
        have ordinals := Nat.le_antisymm (first column live named) (least other there same)
        rw [eq_of_ordinal there live ordinals]

/-!
## The primary key
-/

variable {key : KeyColumn}

private theorem liveColumn_of_primaryKey (resolved : relation.primaryKey = .ok key) :
    ∃ column, relation.liveColumn key.ordinal = .ok column ∧ column.name = key.name ∧
      column.columnType = key.columnType := by
  obtain ⟨column, isKey, rfl⟩ := primaryKey_eq_ok_iff.mp resolved
  exact ⟨column, liveColumn_of_mem isKey.live, rfl, rfl⟩

/-- A delete is planned as soon as the key is resolved. -/
theorem exists_delete_of_primaryKey (resolved : relation.primaryKey = .ok key) :
    ∃ plan, WritePlan.delete relation = .ok plan ∧ plan.key = some key := by
  obtain ⟨column, isKey, rfl⟩ := primaryKey_eq_ok_iff.mp resolved
  exact ⟨_, WritePlan.delete_eq_ok_iff.mpr ⟨column, isKey, rfl⟩, rfl⟩

/-- An update is planned as soon as the key is resolved, if it has targets and they are live. -/
theorem exists_update_iff_of_primaryKey (resolved : relation.primaryKey = .ok key)
    {targets : List Nat} :
    (∃ plan, WritePlan.update relation targets = .ok plan ∧ plan.key = some key) ↔
      targets ≠ [] ∧ ∀ ordinal ∈ targets, ∃ column, relation.liveColumn ordinal = .ok column := by
  obtain ⟨column, isKey, rfl⟩ := primaryKey_eq_ok_iff.mp resolved
  simp only [← isLive_iff_liveColumn, ← exists_live_iff]
  constructor
  · rintro ⟨plan, planned, _⟩
    obtain ⟨filled, columns, _, live, _⟩ := WritePlan.update_eq_ok_iff.mp planned
    exact ⟨filled, columns, live⟩
  · rintro ⟨filled, columns, live⟩
    exact ⟨_, WritePlan.update_eq_ok_iff.mpr ⟨filled, columns, column, live, isKey, rfl⟩, rfl⟩

theorem remoteNames_eq_error_iff {targets : List Nat} {failure : Error} :
    relation.remoteNames targets = .error failure ↔
      ∃ earlier ordinal later, targets = earlier ++ ordinal :: later ∧
        (∀ other ∈ earlier, ∃ column, relation.liveColumn other = .ok column) ∧
        relation.liveColumn ordinal = .error failure := by
  simp [remoteNames, Attempt.mapM_eq_error_iff, Attempt.map_eq_ok_iff, Attempt.map_eq_error_iff]

/-- Once the key is resolved, an update fails for want of targets or with the first that is not
live, and never with the key. -/
theorem update_eq_error_iff_of_primaryKey (resolved : relation.primaryKey = .ok key)
    {targets : List Nat} {failure : Error} :
    WritePlan.update relation targets = .error failure ↔
      targets = [] ∧ failure = .invalidArgument (.nothingAssigned relation.name) ∨
      ∃ earlier ordinal later, targets = earlier ++ ordinal :: later ∧
        (∀ other ∈ earlier, ∃ column, relation.liveColumn other = .ok column) ∧
        relation.liveColumn ordinal = .error failure := by
  obtain ⟨column, found, _⟩ := liveColumn_of_primaryKey resolved
  have stated : WritePlan.update relation targets = .error failure ↔
      relation.updateStatement targets column = .error failure := by
    unfold WritePlan.update
    simp only [resolved, found, Attempt.bind_eq_error_iff, reduceCtorEq, false_or, Except.ok.injEq,
      exists_eq_left']
    exact or_iff_left (by simp [pure, Except.pure])
  rw [stated, ← remoteNames_eq_error_iff, updateStatement]
  cases targets with
  | nil => simp [remoteNames, pure, Except.pure, eq_comm]
  | cons ordinal rest => simp [Attempt.map_eq_error_iff]

/-!
## Agreement
-/

/-- A relation is built from exactly the columns whose ordinals count up from one. In every relation
the look-up by ordinal finds the live column of that ordinal and the look-up by name the first live
column of that name. What is found as the primary key is found again by its ordinal, so a delete
does not fail behind it and an update fails with its targets only. -/
theorem lookups_agree :
    (∀ (schema name : String) (columns : List Column),
      (∃ relation, ofColumns schema name columns = .ok relation) ↔
        columns.map Column.ordinal = List.range' 1 columns.length) ∧
    ∀ relation : Relation,
      ofColumns relation.schema relation.name relation.columns =
        .ok { relation with options := {} } ∧
      (∀ (ordinal : Nat) (column : Column), relation.liveColumn ordinal = .ok column ↔
        column ∈ relation.liveColumns ∧ column.ordinal = ordinal) ∧
      (∀ (name : String) (column : Column), relation.columnNamed? name = some column ↔
        (column ∈ relation.columns ∧ column.dropped = false ∧ column.name = name) ∧
          ∀ other ∈ relation.columns, other.dropped = false → other.name = name →
            column.ordinal ≤ other.ordinal) ∧
      (∀ name : String, relation.columnNamed? name = none ↔
        ∀ column ∈ relation.columns, column.dropped = false → column.name ≠ name) ∧
      ∀ key : KeyColumn, relation.primaryKey = .ok key →
        (∃ column, relation.liveColumn key.ordinal = .ok column ∧ column.name = key.name ∧
          column.columnType = key.columnType) ∧
        (∃ plan, WritePlan.delete relation = .ok plan ∧ plan.key = some key) ∧
        ∀ targets : List Nat,
          ((∃ plan, WritePlan.update relation targets = .ok plan ∧ plan.key = some key) ↔
            targets ≠ [] ∧ ∀ ordinal ∈ targets,
              ∃ column, relation.liveColumn ordinal = .ok column) ∧
          ∀ failure : Error, WritePlan.update relation targets = .error failure ↔
            targets = [] ∧ failure = .invalidArgument (.nothingAssigned relation.name) ∨
            ∃ earlier ordinal later, targets = earlier ++ ordinal :: later ∧
              (∀ other ∈ earlier, ∃ column, relation.liveColumn other = .ok column) ∧
              relation.liveColumn ordinal = .error failure := by
  refine ⟨fun schema name columns => exists_ofColumns_iff, fun relation => ?_⟩
  refine ⟨ofColumns_columns relation, fun ordinal column => liveColumn_iff_mem, ?_, ?_, ?_⟩
  · intro name column
    simp only [columnNamed?_eq_some_iff, mem_liveColumns, and_imp, and_assoc]
  · intro name
    simp only [columnNamed?_eq_none_iff, mem_liveColumns, and_imp]
  · intro key resolved
    refine ⟨liveColumn_of_primaryKey resolved, exists_delete_of_primaryKey resolved, ?_⟩
    intro targets
    exact ⟨exists_update_iff_of_primaryKey resolved,
      fun failure => update_eq_error_iff_of_primaryKey resolved⟩

/-- A dropped column before two live ones, all three of one name, which is the name of the key. -/
def renamed : Relation where
  schema := "shop"
  name := "orders"
  columns := [{ ordinal := 1, name := "id", columnType := .text, dropped := true },
    { ordinal := 2, name := "id", columnType := .integer },
    { ordinal := 3, name := "id", columnType := .text }]
  dense := ⟨rfl, rfl, rfl, trivial⟩
  options := { primaryKey := some "id" }

theorem lookups_agree_renamed :
    renamed.primaryKey = .ok ⟨2, "id", .integer⟩ ∧
    (∃ column, renamed.liveColumn 2 = .ok column ∧ column.name = "id" ∧
      column.columnType = .integer) ∧
    ∃ plan, WritePlan.update renamed [3, 2] = .ok plan ∧
      plan.key = some ⟨2, "id", .integer⟩ := by
  have resolved : renamed.primaryKey = .ok ⟨2, "id", .integer⟩ := by decide
  obtain ⟨_, _, _, _, keyed⟩ := lookups_agree.2 renamed
  obtain ⟨found, _, updates⟩ := keyed _ resolved
  refine ⟨resolved, found, (updates [3, 2]).1.mpr ⟨by decide, ?_⟩⟩
  intro ordinal member
  rcases List.mem_pair.mp member with rfl | rfl
  · exact ⟨_, rfl⟩
  · exact ⟨_, rfl⟩

end Relation

end ForeignTable
