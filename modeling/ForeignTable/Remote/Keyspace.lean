import ForeignTable.Remote.Kind

/-!
# Keyspace metadata

What the remote store tells about its tables.
-/

set_option autoImplicit false

namespace ForeignTable.Remote

structure ColumnInfo where
  name : String
  kind : Kind

structure TableInfo where
  name : String
  columns : List ColumnInfo

structure Keyspace where
  name : String
  tables : List TableInfo

end ForeignTable.Remote
