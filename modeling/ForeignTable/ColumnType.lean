/-!
# Column types

The scalar types a foreign column can be declared with. Some of them describe a catalog
only: `hasRemoteForm` tells which ones can be bound to and read from the remote store.
-/

set_option autoImplicit false

namespace ForeignTable

inductive ColumnType where
  | smallint
  | integer
  | bigint
  | real
  | doublePrecision
  | boolean
  | text
  /-- Text of at most `limit` characters. -/
  | varchar (limit : Option Nat)
  /-- Text padded with blanks to `limit` characters. -/
  | bpchar (limit : Option Nat)
  /-- Wall-clock reading with `precision` fractional digits of a second. -/
  | timestamp (precision : Option Nat)
  /-- Absolute instant with `precision` fractional digits of a second. -/
  | timestamptz (precision : Option Nat)
  | uuid
  | inet
  | numeric
  | date
  | bytea
  | json
deriving DecidableEq

namespace ColumnType

/-- True for the types that values of the remote store exist for. -/
def hasRemoteForm : ColumnType → Bool
  | numeric | date | bytea | json => false
  | _ => true

/-- True for the character types, which share one remote form. -/
def isCharacter : ColumnType → Bool
  | text | varchar _ | bpchar _ => true
  | _ => false

/-- The spelling of the type in statements and messages. -/
def spelling : ColumnType → String
  | smallint => "smallint"
  | integer => "integer"
  | bigint => "bigint"
  | real => "real"
  | doublePrecision => "double precision"
  | boolean => "boolean"
  | text => "text"
  | varchar none => "character varying"
  | varchar (some limit) => s!"character varying({limit})"
  | bpchar none => "character"
  | bpchar (some limit) => s!"character({limit})"
  | timestamp none => "timestamp without time zone"
  | timestamp (some precision) => s!"timestamp({precision}) without time zone"
  | timestamptz none => "timestamp with time zone"
  | timestamptz (some precision) => s!"timestamp({precision}) with time zone"
  | uuid => "uuid"
  | inet => "inet"
  | numeric => "numeric"
  | date => "date"
  | bytea => "bytea"
  | json => "json"

end ColumnType

end ForeignTable
