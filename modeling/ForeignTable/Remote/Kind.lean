import ForeignTable.ColumnType
import ForeignTable.Error
import ForeignTable.Text.Blank
import ForeignTable.Text.Letters

/-!
# Remote types

The column types of the remote store as its schema metadata reports them, the names they
resolve from, and the column type that a remote column is declared with.
-/

set_option autoImplicit false

namespace ForeignTable.Remote

inductive Kind where
  | ascii
  | bigint
  | blob
  | boolean
  /-- A monotonic counter: read as an integer and never written. -/
  | counter
  | decimal
  | double
  | float
  | int
  | text
  | timestamp
  | uuid
  | varchar
  | varint
  | timeuuid
  | inet
  | date
  | time
  | smallint
  | tinyint
  | duration
  | list (element : Kind)
  | map (key value : Kind)
  | set (element : Kind)
  | udt (name : String)
  | tuple (members : List Kind)
  /-- A class on the server by its name. -/
  | custom (name : String)
  /-- A name that stands for no known type. -/
  | unknown (name : String)

namespace Kind

/-- The element type where metadata does not tell it. -/
def unnamed : Kind := unknown ""

def ofBaseName? : String → Option Kind
  | "ascii" => some ascii
  | "bigint" => some bigint
  | "blob" => some blob
  | "boolean" => some boolean
  | "counter" => some counter
  | "decimal" => some decimal
  | "double" => some double
  | "float" => some float
  | "int" => some int
  | "text" => some text
  | "timestamp" => some timestamp
  | "uuid" => some uuid
  | "varchar" => some varchar
  | "varint" => some varint
  | "timeuuid" => some timeuuid
  | "inet" => some inet
  | "date" => some date
  | "time" => some time
  | "smallint" => some smallint
  | "tinyint" => some tinyint
  | "duration" => some duration
  | "list" => some (list unnamed)
  | "set" => some (set unnamed)
  | "map" => some (map unnamed unnamed)
  | "tuple" => some (tuple [])
  | _ => none

def baseName (name : List Char) : List Char :=
  let lowered := Text.lower (Text.trim name)
  if lowered.contains '<' then Text.trim (lowered.takeWhile (· != '<')) else lowered

/-- Resolves a type name of the remote schema. Parameters in angle brackets only tell the
elements of a collection and are passed over. -/
def ofName (name : String) : Kind :=
  (ofBaseName? (String.ofList (baseName name.toList))).getD
    (unknown (String.ofList (Text.trim name.toList)))

def name : Kind → String
  | ascii => "ascii"
  | bigint => "bigint"
  | blob => "blob"
  | boolean => "boolean"
  | counter => "counter"
  | decimal => "decimal"
  | double => "double"
  | float => "float"
  | int => "int"
  | text => "text"
  | timestamp => "timestamp"
  | uuid => "uuid"
  | varchar => "varchar"
  | varint => "varint"
  | timeuuid => "timeuuid"
  | inet => "inet"
  | date => "date"
  | time => "time"
  | smallint => "smallint"
  | tinyint => "tinyint"
  | duration => "duration"
  | list _ => "list"
  | map _ _ => "map"
  | set _ => "set"
  | udt name => name
  | tuple _ => "tuple"
  | custom name => name
  | unknown "" => "unknown"
  | unknown name => name

def columnType? : Kind → Option ColumnType
  | smallint => some .smallint
  | int => some .integer
  | bigint | counter => some .bigint
  | boolean => some .boolean
  | double => some .doublePrecision
  | float => some .real
  | text | ascii | varchar => some .text
  | timestamp => some (.timestamptz (some 0))
  | inet => some .inet
  | uuid => some .uuid
  | _ => none

def columnType (kind : Kind) : Except Error ColumnType :=
  match kind.columnType? with
  | some columnType => .ok columnType
  | none => .error (.unsupported kind.name)

end Kind

end ForeignTable.Remote
