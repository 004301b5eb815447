import ForeignTable.Datum
import ForeignTable.Remote.Value

/-!
# Binding

A datum is bound to a remote parameter under its column type. The column type decides the
kind of the remote value; a datum of another type is refused, not converted.
-/

set_option autoImplicit false

namespace ForeignTable

namespace ColumnType

def remoteValue (columnType : ColumnType) (zone : Zone) (datum : Datum) :
    Except Error Remote.Value :=
  match columnType, datum with
  | .smallint, .smallint value => .ok (.smallint value)
  | .integer, .integer value => .ok (.int value)
  | .bigint, .bigint value => .ok (.bigint value)
  | .real, .real value => .ok (.float value)
  | .doublePrecision, .double value => .ok (.double value)
  | .boolean, .boolean value => .ok (.boolean value)
  | .text, .text value => .ok (.text value)
  | .varchar _, .text value => .ok (.text value)
  | .bpchar _, .text value => .ok (.text value)
  | .timestamp _, .timestamp micros => (Timestamp.toUnixMillis micros true zone).map .timestamp
  | .timestamptz _, .timestamptz micros =>
      (Timestamp.toUnixMillis micros false zone).map .timestamp
  | .uuid, .uuid value => .ok (.uuid value)
  | .inet, .inet value => .ok (.inet value)
  | _, _ => .error (.conversion (.mismatchedBinding datum.typeName columnType))

/-- The parameter of a value. A null is bound as a null, except to a smallint column: the
null of the remote smallint encoding is not trusted. -/
def bind (columnType : ColumnType) (zone : Zone) (value : Option Datum) :
    Except Error (Option Remote.Value) :=
  if !columnType.hasRemoteForm then .error (.unsupported columnType.spelling)
  else
    match value with
    | none =>
        if columnType = .smallint then .error (.dataIntegrity .nullSmallint) else .ok none
    | some datum => (columnType.remoteValue zone datum).map some

end ColumnType

end ForeignTable
