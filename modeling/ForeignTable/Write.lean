import ForeignTable.Binding
import ForeignTable.Plan.Write
import ForeignTable.Remote.Session
import ForeignTable.Text.Quoted

/-!
# Writes

A write operation sends one statement per row. The statement is prepared for the first row
and reused: the target columns are bound first, in their order, then the key. A failure of
the store ends the operation; any other failure refuses the row and nothing else.
-/

set_option autoImplicit false

namespace ForeignTable

open Remote (Store Session Statement Response)

structure Write where
  relation : Relation
  plan : WritePlan
  zone : Zone
  session : Session := .held
  /-- Prepared for the first row. -/
  statement : Option Statement := none
  /-- The number of rows written. -/
  executed : Nat := 0
  closed : Bool := false

namespace Write

structure Run where
  write : Write
  store : Store

/-- Borrows a session for a write operation. Nothing is sent yet. -/
def start (server : ServerOptions) (relation : Relation) (plan : WritePlan) (zone : Zone)
    (store : Store) : Except Error Run := do
  let (session, store) ← Session.acquire server true store
  return ⟨{ relation, plan, zone, session }, store⟩

def targetParameter (write : Write) (tuple : Tuple) (ordinal : Nat) :
    Except Error (Option Remote.Value) := do
  let column ← write.relation.liveColumn ordinal
  column.columnType.bind write.zone (tuple.value? ordinal)

/-- The parameters of a row in the order of their placeholders, the key last. -/
def parameters (write : Write) (tuple : Tuple) (key : Option (KeyColumn × Datum)) :
    List (Except Error (Option Remote.Value)) :=
  write.plan.targets.map (write.targetParameter tuple) ++
    (key.toList.map fun (column, datum) => column.columnType.bind write.zone (some datum))

/-- The key that has to be bound: none for a plan without one, and a failure for a null. -/
def boundKey (write : Write) (key : Option Datum) :
    Except Error (Option (KeyColumn × Datum)) :=
  match write.plan.key, key with
  | none, _ => .ok none
  | some column, some datum => .ok (some (column, datum))
  | some column, none => .error (.dataIntegrity (.nullKey column.name write.relation.name))

/-- The statement with every parameter null: the prepared one, or a new one. -/
def freshStatement (write : Write) : Statement :=
  (write.statement.getD (Statement.prepare write.plan.sql write.plan.consistency)).clear

namespace Run

def release (run : Run) : Run :=
  let (session, store) := run.write.session.release run.store
  { write := { run.write with session, statement := none, closed := true }, store }

def send (run : Run) (operation : WriteOperation) (statement : Statement) :
    Except Error Unit × Run :=
  match run.write.session.execute statement run.store with
  | .error failure => (.error failure, run)
  | .ok (.failure message, store) =>
      (.error (.remoteExecution (.write operation) message), { run with store }.release)
  | .ok (.rows _, store) =>
      (.ok (), { write := { run.write with executed := run.write.executed + 1 }, store })

/-- Writes one row. A null key is refused before anything is bound. -/
def perform (run : Run) (operation : WriteOperation) (tuple : Tuple) (key : Option Datum) :
    Except Error Unit × Run :=
  let write := run.write
  if write.closed then (.error (.internal (.endedWrite operation)), run)
  else if write.plan.operation ≠ operation then
    (.error (.internal (.otherWrite operation write.plan.operation)), run)
  else
    match write.boundKey key with
    | .error failure => (.error failure, run)
    | .ok boundKey =>
        match write.freshStatement.bindFrom 0 (write.parameters tuple boundKey) with
        | (some failure, statement) =>
            (.error failure, { run with write.statement := some statement })
        | (none, statement) =>
            { run with write.statement := some statement }.send operation statement

def insert (run : Run) (tuple : Tuple) : Except Error Unit × Run :=
  run.perform .insert tuple none

/-- Updates the row with a key. The key travels beside the row, so that an assignment to
the key column still addresses the row by its old key. -/
def update (run : Run) (key : Option Datum) (tuple : Tuple) : Except Error Unit × Run :=
  run.perform .update tuple key

def delete (run : Run) (key : Option Datum) (tuple : Tuple) : Except Error Unit × Run :=
  run.perform .delete tuple key

/-- Ends the operation. Ending again changes nothing. -/
def finish (run : Run) : Run := if run.write.closed then run else run.release

def drop (run : Run) : Store := (run.write.session.release run.store).2

def enqueue (run : Run) (response : Response) : Run :=
  { run with store := run.store.enqueue response }

/-- Inserts several rows, one after another whatever becomes of the others. -/
def insertAll (run : Run) : List Tuple → List (Except Error Unit) × Run
  | [] => ([], run)
  | tuple :: rest =>
      let (result, after) := run.insert tuple
      let (results, final) := after.insertAll rest
      (result :: results, final)

end Run

def operationName : WriteOperation → String
  | .insert => "Insert"
  | .update => "Update"
  | .delete => "Delete"

def describe (write : Write) : String :=
  let relation := Text.quoted write.relation.name
  let operation := operationName write.plan.operation
  let sql := Text.quoted write.plan.sql
  let executed := write.executed
  let closed := if write.closed then "true" else "false"
  s!"ForeignModify \x7b relation: {relation}, operation: {operation}, sql: {sql}, " ++
    s!"executed: {executed}, closed: {closed} \x7d"

end Write

end ForeignTable
