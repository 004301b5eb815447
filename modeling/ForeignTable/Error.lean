import ForeignTable.Calendar.Zone
import ForeignTable.ColumnType
import ForeignTable.Operation
import ForeignTable.Text.Integer

/-!
# Errors

Every failure is a cause with the data that explains it. `Error.message` is the only
place that turns causes into words, and `Error.kind` sorts them into five categories.
-/

set_option autoImplicit false

namespace ForeignTable

/-- Where a consistency level is used: `general` names levels of either direction. -/
inductive LevelUse where
  | general
  | reading
  | writing
deriving DecidableEq

/-- Invalid or missing configuration. Raised before anything is sent to the store. -/
inductive ConfigurationError where
  | invalidOption (name : String) (valid : List String)
  | queryWithTableName
  | tableNameWithQuery
  | repeatedOption
  | missingHost
  | missingTable
  | invalidPort (value : String)
  | unknownLevel (use : LevelUse) (name : String)
  | readLevelAny
  | noPrimaryKey (relation : String)
  | unknownPrimaryKey (key relation : String)
  | conflictUpdate
  | conflictAction (operation : WriteOperation)
deriving DecidableEq

/-- A value that cannot pass between its relational and its remote form. -/
inductive ConversionError where
  | mismatchedBinding (valueType : String) (columnType : ColumnType)
  | timestampRange (micros : Int)
  | remoteTimestampRange (millis : Int)
  | mismatchedColumn (column : String) (columnType : ColumnType) (valueType : String)
deriving DecidableEq

/-- A write refused to protect data. Nothing is sent to the store. -/
inductive IntegrityError where
  | nullSmallint
  | nullKey (column relation : String)
deriving DecidableEq

inductive ArgumentError where
  | inputSyntax (columnType : ColumnType) (text : String)
  | inputRange (columnType : ColumnType) (text : String)
  | tooLong (columnType : ColumnType)
  | timestampSyntax (text : String)
  | timestampRange (text : String)
  | zoneOffset (hours minutes : Int) (part : OffsetPart)
  | ordinalGap (column relation : String) (ordinal expected : Nat)
  | droppedColumn (column relation : String)
  | unknownOrdinal (relation : String) (ordinal : Nat)
  | nothingAssigned (relation : String)
  | systemColumn
deriving DecidableEq

inductive LifecycleError where
  | closedScan
  | closedRescan
  | releasedSession
  | parameterIndex (index count : Nat)
  | endedWrite (operation : WriteOperation)
  | otherWrite (operation planned : WriteOperation)
deriving DecidableEq

inductive Error where
  | configuration (cause : ConfigurationError)
  /-- A type without a counterpart on the other side. -/
  | unsupported (typeName : String)
  | conversion (cause : ConversionError)
  /-- A remote row without the number of cells that the statement promised. -/
  | resultShape (expected actual : Nat)
  /-- A failure reported by the remote store, its message word for word. -/
  | remoteExecution (operation : RemoteOperation) (message : String)
  | dataIntegrity (cause : IntegrityError)
  | invalidArgument (cause : ArgumentError)
  | internal (cause : LifecycleError)
deriving DecidableEq

inductive ErrorKind where
  | configuration
  | conversion
  | remoteExecution
  | dataIntegrity
  | internal
deriving DecidableEq

def ErrorKind.label : ErrorKind → String
  | configuration => "configuration"
  | conversion => "translation"
  | remoteExecution => "remote execution"
  | dataIntegrity => "data integrity"
  | internal => "internal"

def Error.kind : Error → ErrorKind
  | configuration _ => .configuration
  | unsupported _ | conversion _ | resultShape .. | invalidArgument _ => .conversion
  | remoteExecution .. => .remoteExecution
  | dataIntegrity _ => .dataIntegrity
  | internal _ => .internal

/-!
## Wording
-/

/-- The adjective in front of "consistency level". -/
def LevelUse.adjective : LevelUse → String
  | general => ""
  | reading => "read "
  | writing => "write "

def ConfigurationError.message : ConfigurationError → String
  | invalidOption name valid =>
      let names := ", ".intercalate valid
      s!"invalid option \"{name}\"; valid options in this context are: {names}"
  | queryWithTableName =>
      "conflicting or redundant options: query cannot be used with table_name"
  | tableNameWithQuery =>
      "conflicting or redundant options: table_name cannot be used with query"
  | repeatedOption => "conflicting or redundant options"
  | missingHost => "host must be specified"
  | missingTable => "either table_name or query must be specified"
  | invalidPort value => s!"invalid port \"{value}\""
  | unknownLevel use name =>
      let adjective := use.adjective
      s!"unknown {adjective}consistency level \"{name}\""
  | readLevelAny =>
      "ANY is only supported as a write consistency level, it is not a valid read " ++
        "consistency level"
  | noPrimaryKey relation =>
      s!"foreign table \"{relation}\" has no primary_key option; UPDATE and DELETE need one"
  | unknownPrimaryKey key relation =>
      s!"primary key column \"{key}\" does not exist in foreign table \"{relation}\""
  | conflictUpdate =>
      "ON CONFLICT DO UPDATE is not supported on foreign tables; only ON " ++
        "CONFLICT DO NOTHING is"
  | conflictAction operation =>
      let keyword := operation.keyword
      s!"ON CONFLICT is not valid for {keyword}"

def ConversionError.message : ConversionError → String
  | mismatchedBinding valueType columnType =>
      let spelling := columnType.spelling
      s!"cannot bind a {valueType} value to a {spelling} column"
  | timestampRange micros =>
      let count := String.ofList (Text.integerText micros)
      s!"timestamp {count} out of range"
  | remoteTimestampRange millis =>
      let count := String.ofList (Text.integerText millis)
      s!"remote timestamp {count} out of range: timestamp was not in range"
  | mismatchedColumn column columnType valueType =>
      let spelling := columnType.spelling
      s!"column \"{column}\" of type {spelling} holds a {valueType} value"

def IntegrityError.message : IntegrityError → String
  | nullSmallint =>
      "cannot bind a NULL to a smallint column: the remote smallint null encoding " ++
        "is not supported"
  | nullKey column relation =>
      s!"primary key column \"{column}\" contains a NULL value for foreign table " ++
        s!"\"{relation}\""

/-- An offset as it was asked for: signed hours and minutes, two digits each. -/
def offsetText (hours minutes : Int) : String :=
  let sign := if hours < 0 then '-' else '+'
  String.ofList (sign :: Text.paddedDigits 2 hours.natAbs ++ ':' :: Text.paddedInteger 2 minutes)

def OffsetPart.name : OffsetPart → String
  | hour => "hour"
  | minute => "minute"

def ArgumentError.message : ArgumentError → String
  | inputSyntax columnType text =>
      let spelling := columnType.spelling
      s!"invalid input syntax for type {spelling}: \"{text}\""
  | inputRange columnType text =>
      let spelling := columnType.spelling
      s!"value \"{text}\" is out of range for type {spelling}"
  | tooLong columnType =>
      let spelling := columnType.spelling
      s!"value too long for type {spelling}"
  | timestampSyntax text => s!"invalid input syntax for type timestamp: '{text}'"
  | timestampRange text => s!"timestamp out of range: '{text}'"
  | zoneOffset hours minutes part =>
      let offset := offsetText hours minutes
      let name := part.name
      s!"invalid session time zone offset {offset}: offset {name} was not in range"
  | ordinalGap column relation ordinal expected =>
      s!"column \"{column}\" of relation \"{relation}\" has ordinal {ordinal}, " ++
        s!"expected {expected}"
  | droppedColumn column relation =>
      s!"column \"{column}\" of relation \"{relation}\" has been dropped"
  | unknownOrdinal relation ordinal =>
      s!"relation \"{relation}\" has no column with ordinal {ordinal}"
  | nothingAssigned relation => s!"UPDATE of \"{relation}\" assigns no columns"
  | systemColumn => "system columns cannot be updated on a foreign table"

def LifecycleError.message : LifecycleError → String
  | closedScan => "foreign scan used after it was closed"
  | closedRescan => "foreign scan rescanned after it was closed"
  | releasedSession => "remote session has already been released"
  | parameterIndex index count =>
      s!"parameter index {index} out of range for a statement with {count} parameters"
  | endedWrite operation =>
      let keyword := operation.keyword
      s!"{keyword} on a foreign modify that has already ended"
  | otherWrite operation planned =>
      let keyword := operation.keyword
      let begun := planned.keyword
      s!"{keyword} executed on a modify begun for {begun}"

def Error.message : Error → String
  | configuration cause => "configuration error: " ++ cause.message
  | unsupported typeName => s!"data type {typeName} not supported"
  | conversion cause => "translation error: " ++ cause.message
  | resultShape expected actual =>
      s!"remote result does not match expected shape: consumed {expected} columns, " ++
        s!"row has {actual}"
  | remoteExecution operation message =>
      let keyword := operation.keyword
      s!"failed to execute the {keyword} on the remote store: {message}"
  | dataIntegrity cause => "data integrity error: " ++ cause.message
  | invalidArgument cause => "Invalid argument: " ++ cause.message
  | internal cause => "An internal operation failed: " ++ cause.message

end ForeignTable
