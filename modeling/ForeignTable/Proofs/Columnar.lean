import ForeignTable.Plan.Scan
import ForeignTable.Proofs.Columnar.Cells

/-! Export of materialized tuples. The input conversion of a column type gives data of its own
variant only, and data of time near the calendar, so the export finds a value for each of them
and no shift to another epoch overflows. -/

set_option autoImplicit false

namespace ForeignTable

/-!
## Results of the input conversion
-/

/-- A time is near the calendar and a day is one of its days; of other data nothing is asked. -/
def Datum.NearCalendar : Datum → Prop
  | timestamp micros | timestamptz micros => Timestamp.NearCalendar micros
  | date days => ∃ date : Date, days.toInt = date.dayNumber - Timestamp.epochDays
  | _ => True

/-- The data that the input conversion of a column type gives. -/
structure ColumnType.Gives (columnType : ColumnType) (datum : Datum) : Prop where
  owned : columnType.Owns datum
  near : datum.NearCalendar

namespace Datum

variable {columnType : ColumnType} {text : String} {datum : Datum}

private theorem orSyntaxError_eq_ok {Value : Type} {value? : Option Value} {build : Value → Datum}
    (success : orSyntaxError columnType text (value?.map build) = .ok datum) :
    ∃ value, value? = some value ∧ build value = datum := by
  cases value? with
  | none => cases success
  | some value => exact ⟨value, rfl, Except.ok.inj success⟩

private theorem integerOfText_eq_ok {bits : Nat} {build : Signed bits → Datum}
    (success : integerOfText bits build columnType text = .ok datum) :
    ∃ word, build word = datum := by
  unfold integerOfText at success
  split at success
  · cases success
  · split at success
    · exact ⟨_, Except.ok.inj success⟩
    · cases success

private theorem gives_of_ofText {zone : Zone} (read : ofText zone columnType text = .ok datum) :
    columnType.Gives datum := by
  unfold ofText at read
  cases columnType with
  | smallint =>
      obtain ⟨word, rfl⟩ := integerOfText_eq_ok read
      exact ⟨.smallint word, trivial⟩
  | integer =>
      obtain ⟨word, rfl⟩ := integerOfText_eq_ok read
      exact ⟨.integer word, trivial⟩
  | bigint =>
      obtain ⟨word, rfl⟩ := integerOfText_eq_ok read
      exact ⟨.bigint word, trivial⟩
  | real =>
      obtain ⟨value, _, rfl⟩ := orSyntaxError_eq_ok read
      exact ⟨.real value, trivial⟩
  | doublePrecision =>
      obtain ⟨value, _, rfl⟩ := orSyntaxError_eq_ok read
      exact ⟨.double value, trivial⟩
  | boolean =>
      obtain ⟨value, _, rfl⟩ := orSyntaxError_eq_ok read
      exact ⟨.boolean value, trivial⟩
  | text =>
      cases read
      exact ⟨.text _, trivial⟩
  | varchar limit =>
      dsimp only at read
      split at read
      · cases read
        exact ⟨.varchar limit _, trivial⟩
      · cases read
  | bpchar limit =>
      dsimp only at read
      split at read
      · cases read
        exact ⟨.bpchar limit _, trivial⟩
      · cases read
  | timestamp precision =>
      obtain ⟨micros, success, rfl⟩ := Attempt.map_eq_ok_iff.mp read
      exact ⟨.timestamp precision micros, Timestamp.ofWallClockText_near success⟩
  | timestamptz precision =>
      obtain ⟨micros, success, rfl⟩ := Attempt.map_eq_ok_iff.mp read
      exact ⟨.timestamptz precision micros, Timestamp.ofInstantText_near success⟩
  | uuid =>
      obtain ⟨value, _, rfl⟩ := orSyntaxError_eq_ok read
      exact ⟨.uuid value, trivial⟩
  | inet =>
      obtain ⟨value, _, rfl⟩ := orSyntaxError_eq_ok read
      exact ⟨.inet value, trivial⟩
  | numeric =>
      dsimp only at read
      split at read
      · cases read
        exact ⟨.numeric _, trivial⟩
      · cases read
  | date =>
      obtain ⟨days, found, rfl⟩ := orSyntaxError_eq_ok read
      obtain ⟨date, _, counted⟩ := Option.bind_eq_some_iff.mp found
      exact ⟨.date days, date, Signed.ofInt?_eq_some_iff.mp counted⟩
  | bytea =>
      obtain ⟨bytes, _, rfl⟩ := orSyntaxError_eq_ok read
      exact ⟨.bytea bytes, trivial⟩
  | json =>
      dsimp only at read
      split at read
      · cases read
      · cases read
        exact ⟨.json _, trivial⟩

end Datum

/-!
## Exported values
-/

namespace Columnar

inductive ValueType.Holds : ValueType → Value → Prop where
  | int16 (value : Signed 16) : Holds .int16 (.int16 value)
  | int32 (value : Signed 32) : Holds .int32 (.int32 value)
  | int64 (value : Signed 64) : Holds .int64 (.int64 value)
  | float32 (value : Floating .single) : Holds .float32 (.float32 value)
  | float64 (value : Floating .double) : Holds .float64 (.float64 value)
  | boolean (value : Bool) : Holds .boolean (.boolean value)
  | utf8 (value : String) : Holds .utf8 (.utf8 value)
  | binary (bytes : List UInt8) : Holds .binary (.binary bytes)
  | date32 (days : Signed 32) : Holds .date32 (.date32 days)
  | timestamp (utc : Bool) (micros : Signed 64) : Holds (.timestamp utc) (.timestamp micros)

private theorem holds_of_shownAs {columnType : ColumnType} {datum : Datum} {value : Value}
    (owned : columnType.Owns datum) (shown : datum.ShownAs value) :
    (ValueType.ofColumnType columnType).Holds value := by
  cases owned <;> cases shown <;> constructor

private theorem shiftFits_of_nearCalendar {datum : Datum} (near : datum.NearCalendar) :
    datum.ShiftFits := by
  cases datum with
  | timestamp micros => exact Timestamp.NearCalendar.fits near
  | timestamptz micros => exact Timestamp.NearCalendar.fits near
  | date days =>
      obtain ⟨date, counted⟩ := near
      have range := date.dayNumber_range
      have limit : Signed.bound 32 = 2147483648 := rfl
      unfold Datum.ShiftFits
      omega
  | _ => trivial

private theorem ofDatum?_of_gives {columnType : ColumnType} {datum : Datum}
    (given : columnType.Gives datum) :
    ∃ value, Value.ofDatum? columnType datum = some value ∧
      (ValueType.ofColumnType columnType).Holds value := by
  obtain ⟨value, shown⟩ := Datum.exists_shownAs_iff.mpr (shiftFits_of_nearCalendar given.near)
  exact ⟨value, (ofDatum?_of_owns given.owned).mpr shown, holds_of_shownAs given.owned shown⟩

end Columnar

/-!
## Tuples of a scan
-/

/-- The value of a column, if there is one, is what its input conversion gives. -/
def Column.Fits (column : Column) (tuple : Tuple) : Prop :=
  ∀ datum ∈ column.slot? tuple, column.columnType.Gives datum

private theorem Column.gives_of_readCell {column : Column} {zone : Zone}
    {cell : Option Remote.Value}
    {slot : Option Datum} (read : column.readCell zone cell = .ok slot) :
    ∀ datum ∈ slot, column.columnType.Gives datum := by
  intro datum present
  cases cell with
  | none =>
      cases read
      cases present
  | some value =>
      obtain ⟨other, converted, rfl⟩ := Attempt.map_eq_ok_iff.mp read
      cases present
      obtain ⟨text, _, success⟩ := Attempt.bind_eq_ok_iff.mp converted
      exact Datum.gives_of_ofText success

private theorem Relation.fits_of_materialize {relation : Relation} {zone : Zone}
    {used : UsedColumns} {row : Remote.Row} {tuple : Tuple}
    (materialized : relation.materialize zone (ScanPlan.ofRelation relation used).retrieved row =
      .ok tuple) {column : Column} (member : column ∈ relation.columns) : column.Fits tuple := by
  have read := value?_of_forall₂ (slots_of_materialize materialized) member
  rw [column.value?_ordinal (relation.dense.le_ordinal member)] at read
  exact column.gives_of_readCell read

namespace Columnar

variable {column : Column} {tuple : Tuple} {tuples : List Tuple}

/-- The entry of a column for a tuple: a null for a null, and for a value one of its type. -/
structure EntryOf (column : Column) (tuple : Tuple) (value? : Option Value) : Prop where
  exported : value? = (column.slot? tuple).bind (Value.ofDatum? column.columnType)
  present : value?.isSome = (column.slot? tuple).isSome
  typed : ∀ value ∈ value?, (ValueType.ofColumnType column.columnType).Holds value

private theorem entry_of_fits (counted : 0 < column.ordinal) (fits : column.Fits tuple) :
    ∃ value?, entry column tuple = .ok value? ∧ EntryOf column tuple value? := by
  unfold entry
  rw [column.value?_ordinal counted]
  cases slot : column.slot? tuple with
  | none =>
      refine ⟨none, rfl, ?_, ?_, ?_⟩
      · rw [slot]
        rfl
      · rw [slot]
        rfl
      · intro value present
        cases present
  | some datum =>
      obtain ⟨value, exported, typed⟩ := ofDatum?_of_gives (fits datum slot)
      refine ⟨some value, ?_, ?_, ?_, ?_⟩
      · simp only [exported]
      · rw [slot]
        exact exported.symm
      · rw [slot]
        rfl
      · rintro _ ⟨⟩
        exact typed

/-- A column of the export: one entry for each tuple. -/
structure FieldOf (tuples : List Tuple) (column : Column) (field : Field) : Prop where
  name : field.name = column.name
  valueType : field.valueType = ValueType.ofColumnType column.columnType
  entries : List.Forall₂ (EntryOf column) tuples field.values

private theorem field_of_fits (counted : 0 < column.ordinal)
    (fits : ∀ tuple ∈ tuples, column.Fits tuple) :
    ∃ field, Field.ofColumn tuples column = .ok field ∧ FieldOf tuples column field := by
  obtain ⟨values, success, entries⟩ :=
    Attempt.exists_mapM_eq_ok fun tuple member =>
      entry_of_fits counted (fits tuple member)
  refine ⟨⟨column.name, ValueType.ofColumnType column.columnType, true, values⟩, ?_, rfl, rfl,
    entries⟩
  unfold Field.ofColumn
  rw [success]
  rfl

/-- Whatever an input conversion gives is exported as a value of the exported type, timestamps
and dates included. So every batch of tuples that the rows of a scan materialize to has an
export, with one column for each live column and one entry in it for each row. -/
theorem materialized_exported :
    (∀ zone columnType text datum, Datum.ofText zone columnType text = .ok datum →
      ∃ value, Value.ofDatum? columnType datum = some value ∧
        (ValueType.ofColumnType columnType).Holds value) ∧
    ∀ (relation : Relation) zone used (rows : List Remote.Row) (batch : Batch),
      rows.mapM (relation.materialize zone (ScanPlan.ofRelation relation used).retrieved) =
        .ok batch.tuples →
      ∃ table, ofBatch relation batch = .ok table ∧ table.rows = rows.length ∧
        List.Forall₂ (FieldOf batch.tuples) relation.liveColumns table.fields := by
  constructor
  · intro zone columnType text datum read
    exact ofDatum?_of_gives (Datum.gives_of_ofText read)
  · intro relation zone used rows batch materialized
    have sized := (Attempt.mapM_eq_ok_iff.mp materialized).length_eq
    have fits : ∀ column ∈ relation.liveColumns, ∀ tuple ∈ batch.tuples, column.Fits tuple := by
      intro column live tuple member
      obtain ⟨row, _, success⟩ := Attempt.exists_item_of_mapM_eq_ok materialized member
      exact Relation.fits_of_materialize success (Relation.mem_liveColumns.mp live).1
    obtain ⟨fields, success, related⟩ :=
      Attempt.exists_mapM_eq_ok fun column live =>
        field_of_fits (Relation.ordinal_pos live) (fits column live)
    refine ⟨⟨batch.size, fields⟩, ?_, sized.symm, related⟩
    unfold ofBatch
    rw [success]
    rfl

def sightings : Relation where
  schema := "sky"
  name := "sightings"
  columns := [{ ordinal := 1, name := "at", columnType := .timestamptz (some 0) },
    { ordinal := 2, name := "note", columnType := .text, dropped := true },
    { ordinal := 3, name := "day", columnType := .date }]
  dense := ⟨rfl, rfl, rfl, trivial⟩

/-- The last moment of the calendar, read far in the west, with the first day of the calendar. -/
def sightingRows : List Remote.Row :=
  [[some (.text "9999-12-31 23:59:59.9 -25:59"), some (.text "-9999-01-01")], [none, none]]

/-- A minute before two o'clock on the second day behind the calendar. -/
def lateInstant : Signed 64 := ⟨252455709540000000, by decide, by decide⟩

def sightingTuples : List Tuple :=
  [[some (.timestamptz lateInstant), none, some (.date ⟨-4382544, by decide, by decide⟩)],
    [none, none, none]]

theorem materialized_exported_sightings :
    Datum.ofText Zone.utc (.timestamptz (some 0)) "9999-12-31 23:59:59.9 -25:59" =
        .ok (.timestamptz lateInstant) ∧
      (∃ value, Value.ofDatum? (.timestamptz (some 0)) (.timestamptz lateInstant) = some value ∧
        (ValueType.timestamp true).Holds value) ∧
      sightingRows.mapM (sightings.materialize Zone.utc
        (ScanPlan.ofRelation sightings .everything).retrieved) = .ok sightingTuples ∧
      ∃ table, ofBatch sightings (.ofTuples sightingTuples) = .ok table ∧ table.rows = 2 ∧
        List.Forall₂ (FieldOf sightingTuples) sightings.liveColumns table.fields := by
  obtain ⟨converted, exported⟩ := materialized_exported
  have read : Datum.ofText Zone.utc (.timestamptz (some 0)) "9999-12-31 23:59:59.9 -25:59" =
      .ok (.timestamptz lateInstant) := by decide
  have materialized : sightingRows.mapM (sightings.materialize Zone.utc
      (ScanPlan.ofRelation sightings .everything).retrieved) = .ok sightingTuples := by decide
  exact ⟨read, converted _ _ _ _ read, materialized, exported _ _ _ _ (.ofTuples _) materialized⟩

end Columnar

end ForeignTable
