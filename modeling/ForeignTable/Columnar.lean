import ForeignTable.Batch
import ForeignTable.Relation
import ForeignTable.Timestamp

/-!
# Columnar export

A batch turned on its side: one column of typed values for each live column of the
relation. Every column admits nulls, because a scan leaves columns out that it did not
retrieve. Timestamps and dates move to the Unix epoch.
-/

set_option autoImplicit false

namespace ForeignTable.Columnar

inductive ValueType where
  | int16
  | int32
  | int64
  | float32
  | float64
  | boolean
  | utf8
  | binary
  /-- Days since 1970-01-01. -/
  | date32
  /-- Microseconds since 1970-01-01, with or without the zone UTC. -/
  | timestamp (utc : Bool)
deriving DecidableEq

def ValueType.name : ValueType → String
  | int16 => "Int16"
  | int32 => "Int32"
  | int64 => "Int64"
  | float32 => "Float32"
  | float64 => "Float64"
  | boolean => "Boolean"
  | utf8 => "Utf8"
  | binary => "Binary"
  | date32 => "Date32"
  | timestamp false => "Timestamp(us)"
  | timestamp true => "Timestamp(us, UTC)"

def ValueType.ofColumnType : ColumnType → ValueType
  | .smallint => int16
  | .integer => int32
  | .bigint => int64
  | .real => float32
  | .doublePrecision => float64
  | .boolean => boolean
  | .text | .varchar _ | .bpchar _ | .uuid | .inet | .numeric | .json => utf8
  | .timestamp _ => timestamp false
  | .timestamptz _ => timestamp true
  | .date => date32
  | .bytea => binary

inductive Value where
  | int16 (value : Signed 16)
  | int32 (value : Signed 32)
  | int64 (value : Signed 64)
  | float32 (value : Floating .single)
  | float64 (value : Floating .double)
  | boolean (value : Bool)
  | utf8 (value : String)
  | binary (bytes : List UInt8)
  | date32 (days : Signed 32)
  | timestamp (micros : Signed 64)
deriving DecidableEq

/-- Microseconds moved to the Unix epoch, if they still fit. -/
def unixMicros? (micros : Signed 64) : Option Value :=
  (Signed.ofInt? 64 (micros.toInt + Timestamp.epochMicros)).map Value.timestamp

def Value.ofDatum? (columnType : ColumnType) (datum : Datum) : Option Value :=
  match columnType, datum with
  | .smallint, .smallint value => some (int16 value)
  | .integer, .integer value => some (int32 value)
  | .bigint, .bigint value => some (int64 value)
  | .real, .real value => some (float32 value)
  | .doublePrecision, .double value => some (float64 value)
  | .boolean, .boolean value => some (boolean value)
  | .text, .text value => some (utf8 value)
  | .varchar _, .text value => some (utf8 value)
  | .bpchar _, .text value => some (utf8 value)
  | .numeric, .numeric value => some (utf8 value)
  | .json, .json value => some (utf8 value)
  | .uuid, .uuid value => some (utf8 (String.ofList value.text))
  | .inet, .inet value => some (utf8 (String.ofList value.text))
  | .timestamp _, .timestamp micros => unixMicros? micros
  | .timestamptz _, .timestamptz micros => unixMicros? micros
  | .date, .date days => (Signed.ofInt? 32 (days.toInt + Timestamp.epochDays)).map date32
  | .bytea, .bytea bytes => some (binary bytes)
  | _, _ => none

/-- An exported column: one entry for each tuple, `none` for a null. -/
structure Field where
  name : String
  valueType : ValueType
  /-- True when the column admits nulls. -/
  nullable : Bool
  values : List (Option Value)
deriving DecidableEq

def Field.nullCount (field : Field) : Nat := field.values.countP Option.isNone

structure Table where
  rows : Nat
  fields : List Field
deriving DecidableEq

def entry (column : Column) (tuple : Tuple) : Except Error (Option Value) :=
  match tuple.value? column.ordinal with
  | none => .ok none
  | some datum =>
      match Value.ofDatum? column.columnType datum with
      | some value => .ok (some value)
      | none =>
          .error (.conversion (.mismatchedColumn column.name column.columnType datum.typeName))

/-- The exported form of a column. It admits nulls even where the column does not. -/
def Field.ofColumn (tuples : List Tuple) (column : Column) : Except Error Field := do
  let values ← tuples.mapM (entry column)
  return {
    name := column.name
    valueType := ValueType.ofColumnType column.columnType
    nullable := true
    values }

/-- The export of every tuple of a batch, wherever its cursor stands. -/
def ofBatch (relation : Relation) (batch : Batch) : Except Error Table := do
  let fields ← relation.liveColumns.mapM (Field.ofColumn batch.tuples)
  return ⟨batch.size, fields⟩

end ForeignTable.Columnar
