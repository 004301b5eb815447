import ForeignTable.Address
import ForeignTable.Floating
import ForeignTable.Signed
import ForeignTable.Uuid

/-!
# Datums

A datum is one relational value that is not null. Where a null is possible, the value is
an `Option Datum`, and a tuple is a list of those: slot `i` belongs to the column with
ordinal `i + 1`.
-/

set_option autoImplicit false

namespace ForeignTable

inductive Datum where
  | smallint (value : Signed 16)
  | integer (value : Signed 32)
  | bigint (value : Signed 64)
  | real (value : Floating .single)
  | double (value : Floating .double)
  | boolean (value : Bool)
  /-- Text of any character type, padding included. -/
  | text (value : String)
  /-- Microseconds since 2000-01-01 00:00:00, a wall-clock reading. -/
  | timestamp (micros : Signed 64)
  /-- Microseconds since 2000-01-01 00:00:00 UTC. -/
  | timestamptz (micros : Signed 64)
  | uuid (value : Uuid)
  | inet (value : Address)
  /-- The text of a decimal literal. -/
  | numeric (value : String)
  /-- Days since 2000-01-01. -/
  | date (days : Signed 32)
  | bytea (bytes : List UInt8)
  | json (value : String)
deriving DecidableEq

def Datum.typeName : Datum → String
  | smallint _ => "smallint"
  | integer _ => "integer"
  | bigint _ => "bigint"
  | real _ => "real"
  | double _ => "double precision"
  | boolean _ => "boolean"
  | text _ => "text"
  | timestamp _ => "timestamp without time zone"
  | timestamptz _ => "timestamp with time zone"
  | uuid _ => "uuid"
  | inet _ => "inet"
  | numeric _ => "numeric"
  | date _ => "date"
  | bytea _ => "bytea"
  | json _ => "json"

/-- One relational row: slot `i` holds the value of ordinal `i + 1`. -/
abbrev Tuple := List (Option Datum)

/-- The value of an ordinal. A missing slot is null, and ordinals count from one. -/
def Tuple.value? (tuple : Tuple) : Nat → Option Datum
  | 0 => none
  | index + 1 => (tuple[index]?).join

end ForeignTable
