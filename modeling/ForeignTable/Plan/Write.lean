import ForeignTable.Consistency
import ForeignTable.Sql.Statement

/-!
# Write plans

Planning of single-row inserts, updates and deletes. An update or delete addresses its row
by the primary key of the relation, which is bound after the target columns.
-/

set_option autoImplicit false

namespace ForeignTable

/-- What an insert does with a row that already exists. -/
inductive ConflictAction where
  | doNothing
  | doUpdate
deriving DecidableEq

structure WritePlan where
  operation : WriteOperation
  sql : String
  /-- The ordinals bound from the row, in the order of their placeholders. -/
  targets : List Nat
  /-- The column bound after the targets. -/
  key : Option KeyColumn
  consistency : Consistency
deriving DecidableEq

namespace WritePlan

def insert (relation : Relation) (targets : List Nat) (conflict : Option ConflictAction) :
    Except Error WritePlan :=
  if conflict = some .doUpdate then .error (.configuration .conflictUpdate)
  else do
    let statement ← relation.insertStatement targets conflict.isSome
    return {
      operation := .insert
      sql := statement.text
      targets
      key := none
      consistency := relation.options.writeConsistency }

def update (relation : Relation) (targets : List Nat) : Except Error WritePlan := do
  let key ← relation.primaryKey
  let column ← relation.liveColumn key.ordinal
  let statement ← relation.updateStatement targets column
  return {
    operation := .update
    sql := statement.text
    targets
    key := some key
    consistency := relation.options.writeConsistency }

def delete (relation : Relation) : Except Error WritePlan := do
  let key ← relation.primaryKey
  let column ← relation.liveColumn key.ordinal
  return {
    operation := .delete
    sql := (relation.deleteStatement column).text
    targets := []
    key := some key
    consistency := relation.options.writeConsistency }

/-- Adds the ordinals that are not yet listed, each at its first occurrence. Ordinal zero
belongs to a system column. -/
def assignedTargets (listed : List Nat) : List Nat → Except Error (List Nat)
  | [] => .ok listed
  | ordinal :: rest =>
      if ordinal = 0 then .error (.invalidArgument .systemColumn)
      else if listed.contains ordinal then assignedTargets listed rest
      else assignedTargets (listed ++ [ordinal]) rest

/-- The plan of a requested write. An insert writes every live column, an update the
assigned ones; a conflict action belongs to an insert only. -/
def ofRequest (relation : Relation) (operation : WriteOperation) (assigned : List Nat)
    (conflict : Option ConflictAction) : Except Error WritePlan :=
  if conflict.isSome && operation ≠ .insert then
    .error (.configuration (.conflictAction operation))
  else
    match operation with
    | .insert => insert relation (relation.liveColumns.map Column.ordinal) conflict
    | .update => do
        let targets ← assignedTargets [] assigned
        update relation targets
    | .delete => delete relation

end WritePlan

end ForeignTable
