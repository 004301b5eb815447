import ForeignTable.Columnar
import ForeignTable.Proofs.Materialize
import ForeignTable.Proofs.Timestamp.Range

/-! Export cell by cell. Each entry of an exported batch shows the datum in the slot of its column
and tuple, wherever the batch was being read. An export fails only for a datum that does not
belong to its column or leaves its range, and names the first one. -/

set_option autoImplicit false

namespace ForeignTable

/-!
## Reading a batch
-/

namespace Batch

inductive Access where
  | next
  | rewind

def access (batch : Batch) : Access → Batch
  | .next => batch.next.2
  | .rewind => batch.rewind

private theorem tuples_access (batch : Batch) (call : Access) :
    (batch.access call).tuples = batch.tuples := by
  cases call with
  | next => exact batch.tuples_next
  | rewind => exact batch.tuples_rewind

/-- Reading a batch keeps its tuples. -/
theorem tuples_foldl_access (batch : Batch) (calls : List Access) :
    (calls.foldl access batch).tuples = batch.tuples := by
  induction calls generalizing batch with
  | nil => rfl
  | cons call rest ih => exact (ih (batch.access call)).trans (batch.tuples_access call)

end Batch

/-!
## Slots
-/

/-- The slot at the place of a column, counted from one. A tuple that ends before it has nothing
there. -/
def Column.slot? (column : Column) (tuple : Tuple) : Option Datum :=
  (tuple[column.ordinal - 1]?).join

theorem Column.value?_ordinal {column : Column} (counted : 0 < column.ordinal)
    (tuple : Tuple) :
    tuple.value? column.ordinal = column.slot? tuple := by
  obtain ⟨index, next⟩ := Nat.exists_eq_add_one_of_ne_zero (Nat.ne_of_gt counted)
  rw [Column.slot?, next]
  rfl

theorem Relation.ordinal_pos {relation : Relation} {column : Column}
    (live : column ∈ relation.liveColumns) : 0 < column.ordinal :=
  relation.dense.le_ordinal (Relation.mem_liveColumns.mp live).1

/-!
## Data and their exported values
-/

/-- The datum is of the variant that the column type stands for. -/
inductive ColumnType.Owns : ColumnType → Datum → Prop where
  | smallint (value : Signed 16) : Owns .smallint (.smallint value)
  | integer (value : Signed 32) : Owns .integer (.integer value)
  | bigint (value : Signed 64) : Owns .bigint (.bigint value)
  | real (value : Floating .single) : Owns .real (.real value)
  | double (value : Floating .double) : Owns .doublePrecision (.double value)
  | boolean (value : Bool) : Owns .boolean (.boolean value)
  | text (value : String) : Owns .text (.text value)
  | varchar (limit : Option Nat) (value : String) : Owns (.varchar limit) (.text value)
  | bpchar (limit : Option Nat) (value : String) : Owns (.bpchar limit) (.text value)
  | timestamp (precision : Option Nat) (micros : Signed 64) :
      Owns (.timestamp precision) (.timestamp micros)
  | timestamptz (precision : Option Nat) (micros : Signed 64) :
      Owns (.timestamptz precision) (.timestamptz micros)
  | uuid (value : Uuid) : Owns .uuid (.uuid value)
  | inet (value : Address) : Owns .inet (.inet value)
  | numeric (value : String) : Owns .numeric (.numeric value)
  | date (days : Signed 32) : Owns .date (.date days)
  | bytea (bytes : List UInt8) : Owns .bytea (.bytea bytes)
  | json (value : String) : Owns .json (.json value)

namespace Datum

open Columnar (Value)

/-- A datum of time keeps within its width when it moves to the Unix epoch. -/
def ShiftFits : Datum → Prop
  | timestamp micros | timestamptz micros =>
      -Signed.bound 64 ≤ micros.toInt + Timestamp.epochMicros ∧
        micros.toInt + Timestamp.epochMicros < Signed.bound 64
  | date days =>
      -Signed.bound 32 ≤ days.toInt + Timestamp.epochDays ∧
        days.toInt + Timestamp.epochDays < Signed.bound 32
  | _ => True

/-- The exported value of a datum: the same value, its text, or the time in the Unix epoch. -/
inductive ShownAs : Datum → Value → Prop where
  | smallint (value : Signed 16) : ShownAs (.smallint value) (.int16 value)
  | integer (value : Signed 32) : ShownAs (.integer value) (.int32 value)
  | bigint (value : Signed 64) : ShownAs (.bigint value) (.int64 value)
  | real (value : Floating .single) : ShownAs (.real value) (.float32 value)
  | double (value : Floating .double) : ShownAs (.double value) (.float64 value)
  | boolean (value : Bool) : ShownAs (.boolean value) (.boolean value)
  | text (value : String) : ShownAs (.text value) (.utf8 value)
  | timestamp (micros unix : Signed 64) :
      unix.toInt = micros.toInt + Timestamp.epochMicros →
      ShownAs (.timestamp micros) (.timestamp unix)
  | timestamptz (micros unix : Signed 64) :
      unix.toInt = micros.toInt + Timestamp.epochMicros →
      ShownAs (.timestamptz micros) (.timestamp unix)
  | uuid (value : Uuid) : ShownAs (.uuid value) (.utf8 (String.ofList value.text))
  | inet (value : Address) : ShownAs (.inet value) (.utf8 (String.ofList value.text))
  | numeric (value : String) : ShownAs (.numeric value) (.utf8 value)
  | date (days unix : Signed 32) :
      unix.toInt = days.toInt + Timestamp.epochDays → ShownAs (.date days) (.date32 unix)
  | bytea (bytes : List UInt8) : ShownAs (.bytea bytes) (.binary bytes)
  | json (value : String) : ShownAs (.json value) (.utf8 value)

theorem Counts.shownAs_iff {datum : Datum} {micros : Signed 64} (counts : datum.Counts micros)
    {value : Value} :
    datum.ShownAs value ↔
      ∃ unix : Signed 64, unix.toInt = micros.toInt + Timestamp.epochMicros ∧
        .timestamp unix = value := by
  constructor
  · intro shown
    cases counts with
    | timestamp =>
        cases shown with
        | timestamp _ unix shifted => exact ⟨unix, shifted, rfl⟩
    | timestamptz =>
        cases shown with
        | timestamptz _ unix shifted => exact ⟨unix, shifted, rfl⟩
  · rintro ⟨unix, shifted, rfl⟩
    cases counts with
    | timestamp => exact .timestamp micros unix shifted
    | timestamptz => exact .timestamptz micros unix shifted

theorem shownAs_date_iff {days : Signed 32} {value : Value} :
    (date days).ShownAs value ↔
      ∃ unix : Signed 32, unix.toInt = days.toInt + Timestamp.epochDays ∧
        .date32 unix = value := by
  constructor
  · intro shown
    cases shown with
    | date _ unix shifted => exact ⟨unix, shifted, rfl⟩
  · rintro ⟨unix, shifted, rfl⟩
    exact .date days unix shifted

/-- A time that is shifted into the Unix epoch has a value there exactly when it stays in range. -/
theorem exists_shifted_iff {width : Nat} {time : Int} {wrap : Signed width → Value} :
    (∃ value, ∃ unix : Signed width, unix.toInt = time ∧ wrap unix = value) ↔
      -Signed.bound width ≤ time ∧ time < Signed.bound width := by
  rw [exists_comm, ← Signed.exists_toInt_iff]
  exact exists_congr fun unix => by simp

theorem exists_shownAs_iff {datum : Datum} :
    (∃ value, datum.ShownAs value) ↔ datum.ShiftFits := by
  cases datum with
  | timestamp micros =>
      simp only [(Counts.timestamp micros).shownAs_iff]
      exact exists_shifted_iff
  | timestamptz micros =>
      simp only [(Counts.timestamptz micros).shownAs_iff]
      exact exists_shifted_iff
  | date days =>
      simp only [shownAs_date_iff]
      exact exists_shifted_iff
  | _ => exact iff_of_true ⟨_, by constructor⟩ trivial

end Datum

namespace Columnar

variable {columnType : ColumnType} {datum : Datum}

private theorem owns_of_ofDatum? {value : Value}
    (shown : Value.ofDatum? columnType datum = some value) :
    columnType.Owns datum := by
  unfold Value.ofDatum? at shown
  split at shown
  case h_18 => cases shown
  all_goals constructor

theorem unixMicros?_eq_some_iff {micros : Signed 64} {value : Value} :
    unixMicros? micros = some value ↔
      ∃ unix : Signed 64, unix.toInt = micros.toInt + Timestamp.epochMicros ∧
        .timestamp unix = value := by
  simp only [unixMicros?, Option.map_eq_some_iff, Signed.ofInt?_eq_some_iff]

theorem ofDatum?_of_owns {value : Value} (owned : columnType.Owns datum) :
    Value.ofDatum? columnType datum = some value ↔ datum.ShownAs value := by
  cases owned with
  | timestamp precision micros =>
      exact unixMicros?_eq_some_iff.trans (Datum.Counts.timestamp micros).shownAs_iff.symm
  | timestamptz precision micros =>
      exact unixMicros?_eq_some_iff.trans (Datum.Counts.timestamptz micros).shownAs_iff.symm
  | date days =>
      rw [Datum.shownAs_date_iff]
      simp only [Value.ofDatum?, Option.map_eq_some_iff, Signed.ofInt?_eq_some_iff]
  | _ =>
      constructor
      · rintro ⟨⟩
        constructor
      · rintro ⟨⟩
        rfl

theorem ofDatum?_eq_some_iff {value : Value} :
    Value.ofDatum? columnType datum = some value ↔
      columnType.Owns datum ∧ datum.ShownAs value := by
  constructor
  · intro shown
    have owned := owns_of_ofDatum? shown
    exact ⟨owned, (ofDatum?_of_owns owned).mp shown⟩
  · rintro ⟨owned, shown⟩
    exact (ofDatum?_of_owns owned).mpr shown

/-- The datum belongs to the column type and keeps within its width. -/
def Exportable (columnType : ColumnType) (datum : Datum) : Prop :=
  columnType.Owns datum ∧ datum.ShiftFits

theorem ofDatum?_eq_none_iff :
    Value.ofDatum? columnType datum = none ↔ ¬Exportable columnType datum := by
  rw [Option.eq_none_iff_forall_ne_some, Exportable, ← Datum.exists_shownAs_iff, ← exists_and_left,
    not_exists]
  exact forall_congr' fun value => not_congr ofDatum?_eq_some_iff

/-!
## Entries and columns
-/

variable {column : Column} {tuple : Tuple} {tuples : List Tuple} {field : Field} {failure : Error}

def mismatch (column : Column) (datum : Datum) : Error :=
  .conversion (.mismatchedColumn column.name column.columnType datum.typeName)

/-- The entry of a column for a tuple: a null for an empty slot, or else what its datum is shown
as. -/
def ExactEntry (column : Column) (tuple : Tuple) (entry : Option Value) : Prop :=
  Option.Rel (fun datum value => column.columnType.Owns datum ∧ datum.ShownAs value)
    (column.slot? tuple) entry

/-- A column of the export: it admits nulls and has one exact entry for each tuple. -/
structure ExactField (tuples : List Tuple) (column : Column) (field : Field) : Prop where
  name : field.name = column.name
  valueType : field.valueType = ValueType.ofColumnType column.columnType
  nullable : field.nullable = true
  entries : List.Forall₂ (ExactEntry column) tuples field.values

/-- The slot of the column in this row holds a datum that cannot be exported, and no row before
it does. -/
structure FirstInColumn (tuples : List Tuple) (column : Column) (row : Nat) (datum : Datum) :
    Prop where
  held : ∃ tuple, tuples[row]? = some tuple ∧ column.slot? tuple = some datum
  unfit : ¬Exportable column.columnType datum
  earlier : ∀ before < row, ∀ tuple, tuples[before]? = some tuple →
    ∀ other ∈ column.slot? tuple, Exportable column.columnType other

def ColumnFits (tuples : List Tuple) (column : Column) : Prop :=
  ∀ tuple ∈ tuples, ∀ datum ∈ column.slot? tuple, Exportable column.columnType datum

section

variable (counted : 0 < column.ordinal)

include counted

theorem entry_eq_ok_iff {shown : Option Value} :
    entry column tuple = .ok shown ↔ ExactEntry column tuple shown := by
  unfold entry ExactEntry
  rw [column.value?_ordinal counted]
  cases column.slot? tuple with
  | none =>
      constructor
      · rintro ⟨⟩
        exact .none
      · rintro ⟨⟩
        rfl
  | some datum =>
      cases found : Value.ofDatum? column.columnType datum with
      | none =>
          simp only [found]
          refine iff_of_false nofun ?_
          rintro ⟨exported⟩
          cases found.symm.trans (ofDatum?_eq_some_iff.mpr exported)
      | some value =>
          simp only [found]
          constructor
          · rintro ⟨⟩
            exact .some (ofDatum?_eq_some_iff.mp found)
          · rintro ⟨exported⟩
            cases found.symm.trans (ofDatum?_eq_some_iff.mpr exported)
            rfl

theorem entry_eq_error_iff :
    entry column tuple = .error failure ↔ ∃ datum, column.slot? tuple = some datum ∧
      ¬Exportable column.columnType datum ∧ failure = mismatch column datum := by
  unfold entry
  rw [column.value?_ordinal counted]
  cases column.slot? tuple with
  | none => simp
  | some datum =>
      cases found : Value.ofDatum? column.columnType datum with
      | none =>
          have unfit := ofDatum?_eq_none_iff.mp found
          simp only [found]
          constructor
          · rintro ⟨⟩
            exact ⟨datum, rfl, unfit, rfl⟩
          · rintro ⟨_, ⟨⟩, _, rfl⟩
            rfl
      | some value =>
          simp only [found]
          refine iff_of_false nofun ?_
          rintro ⟨_, ⟨⟩, unfit, _⟩
          cases found.symm.trans (ofDatum?_eq_none_iff.mpr unfit)

theorem exists_entry_iff :
    (∃ shown, entry column tuple = .ok shown) ↔
      ∀ datum ∈ column.slot? tuple, Exportable column.columnType datum := by
  cases result : entry column tuple with
  | ok shown =>
      refine iff_of_true ⟨shown, rfl⟩ ?_
      intro datum held
      by_contra unfit
      cases result.symm.trans ((entry_eq_error_iff counted).mpr ⟨datum, held, unfit, rfl⟩)
  | error failure =>
      obtain ⟨datum, held, unfit, _⟩ := (entry_eq_error_iff counted).mp result
      refine iff_of_false ?_ fun fits => unfit (fits datum held)
      rintro ⟨_, ⟨⟩⟩

theorem ofColumn_eq_ok_iff :
    Field.ofColumn tuples column = .ok field ↔ ExactField tuples column field := by
  unfold Field.ofColumn
  rw [Attempt.bind_eq_ok_iff]
  simp only [Attempt.mapM_eq_ok_iff, entry_eq_ok_iff counted]
  constructor
  · rintro ⟨values, entries, ⟨⟩⟩
    exact ⟨rfl, rfl, rfl, entries⟩
  · intro exported
    obtain ⟨name, valueType, nullable, values⟩ := field
    obtain ⟨rfl, rfl, rfl, entries⟩ := exported
    exact ⟨values, entries, rfl⟩

theorem ofColumn_eq_error_iff :
    Field.ofColumn tuples column = .error failure ↔
      ∃ row datum, FirstInColumn tuples column row datum ∧ failure = mismatch column datum := by
  unfold Field.ofColumn
  rw [Attempt.bind_eq_error_iff]
  simp only [Attempt.mapM_eq_error_iff_getElem?, entry_eq_error_iff counted,
    exists_entry_iff counted]
  constructor
  · rintro (⟨row, tuple, found, ⟨datum, held, unfit, rfl⟩, earlier⟩ | ⟨_, _, ⟨⟩⟩)
    exact ⟨row, datum, ⟨⟨tuple, found, held⟩, unfit, earlier⟩, rfl⟩
  · rintro ⟨row, datum, ⟨⟨tuple, found, held⟩, unfit, earlier⟩, rfl⟩
    exact .inl ⟨row, tuple, found, ⟨datum, held, unfit, rfl⟩, earlier⟩

theorem exists_ofColumn_iff :
    (∃ field, Field.ofColumn tuples column = .ok field) ↔ ColumnFits tuples column := by
  simp only [ColumnFits, ← exists_entry_iff counted, ← Attempt.exists_mapM_eq_ok_iff]
  exact Attempt.exists_bind_pure_iff

end

/-!
## Tables
-/

variable {relation : Relation} {batch : Batch}

/-- The first datum that stops an export: no column before its own has one that cannot be
exported, and no row before its own has one in this column. -/
structure FirstOffence (relation : Relation) (tuples : List Tuple) (column : Column) (row : Nat)
    (datum : Datum) : Prop where
  live : column ∈ relation.liveColumns
  here : FirstInColumn tuples column row datum
  earlier : ∀ other ∈ relation.liveColumns, other.ordinal < column.ordinal →
    ColumnFits tuples other

theorem ofBatch_eq_ok_iff {table : Table} :
    ofBatch relation batch = .ok table ↔ table.rows = batch.tuples.length ∧
      List.Forall₂ (ExactField batch.tuples) relation.liveColumns table.fields := by
  have each : ∀ column ∈ relation.liveColumns, ∀ field,
      Field.ofColumn batch.tuples column = .ok field ↔ ExactField batch.tuples column field :=
    fun _ live _ => ofColumn_eq_ok_iff (Relation.ordinal_pos live)
  unfold ofBatch
  rw [Attempt.bind_eq_ok_iff]
  simp only [Attempt.mapM_eq_ok_iff_of_mem each]
  constructor
  · rintro ⟨fields, exported, ⟨⟩⟩
    exact ⟨rfl, exported⟩
  · obtain ⟨rows, fields⟩ := table
    rintro ⟨rfl, exported⟩
    exact ⟨fields, exported, rfl⟩

theorem ofBatch_eq_error_iff :
    ofBatch relation batch = .error failure ↔ ∃ column row datum,
      FirstOffence relation batch.tuples column row datum ∧ failure = mismatch column datum := by
  unfold ofBatch
  rw [Attempt.bind_eq_error_iff, Attempt.mapM_eq_error_iff]
  constructor
  · rintro (⟨front, column, back, split, succeeded, failed⟩ | ⟨_, _, ⟨⟩⟩)
    have live : column ∈ relation.liveColumns := split ▸ List.mem_append_cons_self
    obtain ⟨row, datum, here, rfl⟩ :=
      (ofColumn_eq_error_iff (Relation.ordinal_pos live)).mp failed
    refine ⟨column, row, datum, ⟨live, here, ?_⟩, rfl⟩
    intro other member smaller
    exact (exists_ofColumn_iff (Relation.ordinal_pos member)).mp
      (succeeded other ((Relation.mem_front_iff split).mpr ⟨member, smaller⟩))
  · rintro ⟨column, row, datum, ⟨live, here, earlier⟩, rfl⟩
    obtain ⟨front, back, split⟩ := List.append_of_mem live
    refine .inl ⟨front, column, back, split, ?_,
      (ofColumn_eq_error_iff (Relation.ordinal_pos live)).mpr ⟨row, datum, here, rfl⟩⟩
    intro other before
    obtain ⟨member, smaller⟩ := (Relation.mem_front_iff split).mp before
    exact (exists_ofColumn_iff (Relation.ordinal_pos member)).mpr (earlier other member smaller)

theorem exists_ofBatch_iff :
    (∃ table, ofBatch relation batch = .ok table) ↔
      ∀ column ∈ relation.liveColumns, ColumnFits batch.tuples column := by
  have exported : (∃ table, ofBatch relation batch = .ok table) ↔
      ∃ fields, relation.liveColumns.mapM (Field.ofColumn batch.tuples) = .ok fields :=
    Attempt.exists_bind_pure_iff
  rw [exported, Attempt.exists_mapM_eq_ok_iff]
  exact forall₂_congr fun _ live => exists_ofColumn_iff (Relation.ordinal_pos live)

/-- The export of tuples does not depend on how far they have been read. It succeeds exactly when
every datum of a live column is of the type of the column and fits after its shift. Then it has one
field for each live column in ordinal order and in it one entry for each tuple, a null for an empty
slot and the exact value of any other. Otherwise it names the first offending column, and in it the
first offending row. -/
theorem export_exact (relation : Relation) (tuples : List Tuple) (calls : List Batch.Access) :
    ((∃ table, ofBatch relation (calls.foldl Batch.access (.ofTuples tuples)) = .ok table) ↔
      ∀ column ∈ relation.liveColumns, ∀ tuple ∈ tuples,
        ∀ datum ∈ (tuple[column.ordinal - 1]?).join,
          column.columnType.Owns datum ∧ datum.ShiftFits) ∧
    (∀ table, ofBatch relation (calls.foldl Batch.access (.ofTuples tuples)) = .ok table ↔
      table.rows = tuples.length ∧
        List.Forall₂ (ExactField tuples) relation.liveColumns table.fields) ∧
    (∀ failure, ofBatch relation (calls.foldl Batch.access (.ofTuples tuples)) = .error failure ↔
      ∃ column row datum, FirstOffence relation tuples column row datum ∧
        failure = .conversion
          (.mismatchedColumn column.name column.columnType datum.typeName)) ∧
    (relation.liveColumns.map Column.ordinal).Pairwise (· < ·) := by
  have kept : (calls.foldl Batch.access (.ofTuples tuples)).tuples = tuples :=
    Batch.tuples_foldl_access _ calls
  refine ⟨?_, ?_, ?_, Relation.liveOrdinals_ascending⟩
  · rw [exists_ofBatch_iff, kept]
    rfl
  · intro table
    rw [ofBatch_eq_ok_iff, kept]
  · intro failure
    rw [ofBatch_eq_error_iff, kept]
    rfl

def timeColumn : Column := { ordinal := 1, name := "at", columnType := .timestamp none }

def levelColumn : Column := { ordinal := 3, name := "level", columnType := .integer }

def dayColumn : Column := { ordinal := 4, name := "day", columnType := .date }

/-- Readings with a dropped column in the second place. -/
def readings : Relation where
  schema := "lab"
  name := "readings"
  columns := [timeColumn, { ordinal := 2, name := "unit", columnType := .text, dropped := true },
    levelColumn, dayColumn]
  dense := ⟨rfl, rfl, rfl, rfl, trivial⟩

/-- A tuple with all of its slots, and one that ends before the last two columns. -/
def readingTuples : List Tuple :=
  [[some (.timestamp ⟨0, by decide, by decide⟩), some (.text "mm"),
      some (.integer ⟨417, by decide, by decide⟩), some (.date ⟨-1, by decide, by decide⟩)],
    [none, some (.text "cm")]]

def readingTable : Table where
  rows := 2
  fields := [⟨"at", .timestamp false, true,
      [some (.timestamp ⟨946684800000000, by decide, by decide⟩), none]⟩,
    ⟨"level", .int32, true, [some (.int32 ⟨417, by decide, by decide⟩), none]⟩,
    ⟨"day", .date32, true, [some (.date32 ⟨10956, by decide, by decide⟩), none]⟩]

/-- A text for a day in the first tuple, and one for a level in the second. -/
def misplacedTuples : List Tuple :=
  [[none, none, none, some (.text "today")], [none, none, some (.text "low"), none]]

/-- A microsecond near the end of sixty-four bits, past which the shift to 1970 takes it. -/
def overflowingTuples : List Tuple :=
  [[some (.timestamp ⟨9223372036854775806, by decide, by decide⟩)]]

theorem export_exact_readings :
    ofBatch readings ([.next, .rewind, .next].foldl Batch.access (.ofTuples readingTuples)) =
        .ok readingTable ∧
      ofBatch readings ([.next].foldl Batch.access (.ofTuples misplacedTuples)) =
        .error (.conversion (.mismatchedColumn "level" .integer "text")) ∧
      ¬∃ table, ofBatch readings (.ofTuples overflowingTuples) = .ok table := by
  obtain ⟨_, exported, _, _⟩ := export_exact readings readingTuples [.next, .rewind, .next]
  obtain ⟨_, _, refused, _⟩ := export_exact readings misplacedTuples [.next]
  obtain ⟨possible, _⟩ := export_exact readings overflowingTuples []
  refine ⟨(exported _).mpr ⟨rfl, ?_⟩, (refused _).mpr ?_, ?_⟩
  · refine .cons ⟨rfl, rfl, rfl, ?times⟩ (.cons ⟨rfl, rfl, rfl, ?levels⟩
      (.cons ⟨rfl, rfl, rfl, ?days⟩ .nil))
    case times => exact .cons (.some ⟨.timestamp _ _, .timestamp _ _ rfl⟩) (.cons .none .nil)
    case levels => exact .cons (.some ⟨.integer _, .integer _⟩) (.cons .none .nil)
    case days => exact .cons (.some ⟨.date _, .date _ _ rfl⟩) (.cons .none .nil)
  · refine ⟨levelColumn, 1, .text "low",
      ⟨.tail _ (.head _), ⟨⟨_, rfl, rfl⟩, ?unfit, ?rows⟩, ?columns⟩, rfl⟩
    case unfit =>
      rintro ⟨owned, _⟩
      cases owned
    case rows =>
      intro before first tuple found datum held
      obtain rfl := Nat.lt_one_iff.mp first
      cases found
      cases held
    case columns =>
      have earlier : ∀ other ∈ readings.liveColumns, other.ordinal < 3 → other = timeColumn := by
        decide
      have empty : ∀ tuple ∈ misplacedTuples, timeColumn.slot? tuple = none := by decide
      intro other live smaller tuple listed datum held
      obtain rfl := earlier other live smaller
      cases (empty tuple listed).symm.trans held
  · intro success
    have fits := possible.mp success timeColumn (.head _) _ (.head _) _ rfl
    have below : (9223372036854775806 : Int) + Timestamp.epochMicros < Signed.bound 64 :=
      fits.2.2
    exact absurd below (by decide)

end Columnar

end ForeignTable
