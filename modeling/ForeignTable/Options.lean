import ForeignTable.Consistency
import ForeignTable.Text.Blank
import ForeignTable.Text.Integer
import ForeignTable.Text.Quoted

/-!
# Catalog options

Options are pairs of name and value attached to a server, a user mapping, a foreign table
or one of its columns. A list is checked as a whole against its catalog object before any
of its values is used.
-/

set_option autoImplicit false

namespace ForeignTable

inductive OptionContext where
  | server
  | userMapping
  | table
  | column
deriving DecidableEq

namespace OptionContext

def all : List OptionContext := [server, userMapping, table, column]

def validNames : OptionContext → List String
  | server => ["host", "port", "protocol"]
  | userMapping => ["username", "password"]
  | table =>
      ["query", "schema_name", "table_name", "primary_key", "read_consistency",
        "write_consistency"]
  | column => ["column_name"]

end OptionContext

abbrev OptionList := List (String × String)

/-- A port number: a positive number of sixteen bits, blank characters around it aside. -/
def port? (value : String) : Option Nat :=
  (Text.unsigned? 65536 (Text.trim value.toList)).filter (· ≠ 0)

def portOfValue (value : String) : Except Error Nat :=
  match port? value with
  | some port => .ok port
  | none => .error (.configuration (.invalidPort value))

namespace OptionContext

/-- Checks the value of an option. Most options take any text. -/
def checkValue (name value : String) : Except Error Unit :=
  match name with
  | "port" => (portOfValue value).map fun _ => ()
  | "read_consistency" => (Consistency.ofName .reading value).map fun _ => ()
  | "write_consistency" => (Consistency.ofName .writing value).map fun _ => ()
  | _ => .ok ()

/-- Checks the name of an option against the names given before it. -/
def checkName (context : OptionContext) (seen : List String) (name : String) :
    Except Error Unit :=
  if !context.validNames.contains name then
    .error (.configuration (.invalidOption name context.validNames))
  else if name == "query" && seen.contains "table_name" then
    .error (.configuration .queryWithTableName)
  else if name == "table_name" && seen.contains "query" then
    .error (.configuration .tableNameWithQuery)
  else if seen.contains name then .error (.configuration .repeatedOption)
  else .ok ()

def checkEach (context : OptionContext) : List String → OptionList → Except Error Unit
  | _, [] => .ok ()
  | seen, (name, value) :: rest => do
      context.checkName seen name
      checkValue name value
      checkEach context (name :: seen) rest

def checkRequired (context : OptionContext) (names : List String) : Except Error Unit :=
  match context with
  | server =>
      if names.contains "host" then .ok () else .error (.configuration .missingHost)
  | table =>
      if names.contains "table_name" || names.contains "query" then .ok ()
      else .error (.configuration .missingTable)
  | userMapping | column => .ok ()

/-- Checks an option list: each option in order, then the required ones. -/
def validate (context : OptionContext) (options : OptionList) : Except Error Unit := do
  context.checkEach [] options
  context.checkRequired (options.map Prod.fst)

end OptionContext

/-!
## Typed options
-/

def defaultHost : String := "127.0.0.1"

def defaultPort : Nat := 9042

structure ServerOptions where
  host : String := defaultHost
  port : Nat := defaultPort
  /-- The protocol version to ask for. -/
  protocol : Option String := none
deriving DecidableEq

def ServerOptions.ofList (options : OptionList) : Except Error ServerOptions := do
  OptionContext.server.validate options
  let port ← match options.lookup "port" with
    | some value => portOfValue value
    | none => .ok defaultPort
  return {
    host := (options.lookup "host").getD defaultHost
    port
    protocol := options.lookup "protocol" }

structure UserMapping where
  username : Option String := none
  password : Option String := none
deriving DecidableEq

def UserMapping.ofList (options : OptionList) : Except Error UserMapping := do
  OptionContext.userMapping.validate options
  return { username := options.lookup "username", password := options.lookup "password" }

/-- A description for diagnosis, which never shows the password. -/
def UserMapping.describe (mapping : UserMapping) : String :=
  let username := match mapping.username with
    | some name => "Some(" ++ Text.quoted name ++ ")"
    | none => "None"
  let password := if mapping.password.isSome then "Some(\"<redacted>\")" else "None"
  s!"UserMappingOptions \x7b username: {username}, password: {password} \x7d"

structure TableOptions where
  schemaName : Option String := none
  tableName : Option String := none
  query : Option String := none
  /-- The column that updates and deletes address rows by. -/
  primaryKey : Option String := none
  readConsistency : Consistency := Consistency.standard
  writeConsistency : Consistency := Consistency.standard
deriving DecidableEq

/-- The level that an option sets, or the standard one. -/
def levelOption (options : OptionList) (use : LevelUse) (name : String) :
    Except Error Consistency :=
  match options.lookup name with
  | some value => Consistency.ofName use value
  | none => .ok Consistency.standard

def TableOptions.ofList (options : OptionList) : Except Error TableOptions := do
  OptionContext.table.validate options
  let readConsistency ← levelOption options .reading "read_consistency"
  let writeConsistency ← levelOption options .writing "write_consistency"
  return {
    schemaName := options.lookup "schema_name"
    tableName := options.lookup "table_name"
    query := options.lookup "query"
    primaryKey := options.lookup "primary_key"
    readConsistency
    writeConsistency }

structure ColumnOptions where
  /-- The remote name, where it differs from the local one. -/
  columnName : Option String := none
deriving DecidableEq

def ColumnOptions.ofList (options : OptionList) : Except Error ColumnOptions := do
  OptionContext.column.validate options
  return { columnName := options.lookup "column_name" }

end ForeignTable
