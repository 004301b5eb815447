import ForeignTable.Remote.Session
import ForeignTable.Sql.Name
import ForeignTable.Sql.Statement

/-!
# Schema import

Turns the metadata of a remote keyspace into declarations of foreign tables. A table with a
column that no column type fits is left out with a warning; the others are not affected.
-/

set_option autoImplicit false

namespace ForeignTable.Import

inductive Filter where
  | everything
  | limitTo (names : List String)
  | except (names : List String)

def Filter.admits (table : String) : Filter → Bool
  | everything => true
  | limitTo names => names.contains table
  | except names => !names.contains table

/-- What to import, and the local server that the declarations name. -/
structure Request where
  keyspace : String
  server : String
  filter : Filter := .everything

inductive Warning where
  | missingKeyspace (keyspace : String)
  | skippedTable (keyspace table column : String) (cause : Error)

def Warning.message : Warning → String
  | missingKeyspace _ => "remote keyspace not found"
  | skippedTable .. => "skipping table with an unsupported column type"

def columnDeclaration (column : Remote.ColumnInfo) : Except Error (List Char) :=
  column.kind.columnType.map fun columnType =>
    Sql.quotedIdentifier column.name ++ ' ' :: columnType.spelling.toList

/-- The declaration of a foreign table. Fails on the first column without a column type. -/
def declaration (keyspace server : String) (table : Remote.TableInfo) :
    Except Error String := do
  let columns ← table.columns.mapM columnDeclaration
  return String.ofList <|
    "CREATE FOREIGN TABLE ".toList ++ Sql.quotedIdentifier table.name ++ " (".toList ++
      Sql.commaSeparated columns ++ ") SERVER ".toList ++ Sql.quotedIdentifier server ++
      " OPTIONS (schema_name ".toList ++ Sql.literal keyspace ++ ", table_name ".toList ++
      Sql.literal table.name ++ [')']

/-- The name of the first column without a column type. -/
def unsupportedColumn (table : Remote.TableInfo) : String :=
  ((table.columns.find? fun column => column.kind.columnType?.isNone).map (·.name)).getD ""

/-- Declarations and warnings, each in metadata order. -/
structure Outcome where
  declarations : List String := []
  warnings : List Warning := []

def Outcome.addTable (keyspace server : String) (table : Remote.TableInfo)
    (others : Outcome) : Outcome :=
  match declaration keyspace server table with
  | .ok text => { others with declarations := text :: others.declarations }
  | .error cause =>
      let warning := .skippedTable keyspace table.name (unsupportedColumn table) cause
      { others with warnings := warning :: others.warnings }

def ofKeyspace (keyspace : Remote.Keyspace) (request : Request) : Outcome :=
  (keyspace.tables.filter fun table => request.filter.admits table.name).foldr
    (Outcome.addTable keyspace.name request.server) {}

/-- Imports from a store. The session is given back before the metadata is looked at, so on
every path; a keyspace that does not exist gives a warning and nothing else. -/
def ofStore (server : ServerOptions) (request : Request) (store : Remote.Store) :
    Except Error Outcome × Remote.Store :=
  match Remote.Session.acquire server false store with
  | .error failure => (.error failure, store)
  | .ok (session, connected) =>
      let answer := connected.keyspace? request.keyspace
      let (_, after) := session.release connected
      match answer with
      | .error message => (.error (.remoteExecution .select message), after)
      | .ok none => (.ok { warnings := [.missingKeyspace request.keyspace] }, after)
      | .ok (some keyspace) => (.ok (ofKeyspace keyspace request), after)

end ForeignTable.Import
