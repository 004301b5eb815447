import ForeignTable.Batch
import ForeignTable.Materialize
import ForeignTable.Plan.Scan
import ForeignTable.Remote.Session
import ForeignTable.Text.Quoted

/-!
# Scans

A scan borrows a session when it begins, sends its statement with the first request for a
tuple, and fetches the whole result at once. The batch is then handed out tuple by tuple
and can be replayed. A run is a scan together with the store it works on; every step
returns its answer and the run afterwards, after a failure too.
-/

set_option autoImplicit false

namespace ForeignTable

open Remote (Store Session Statement Response Row)

inductive ScanPhase where
  | notStarted
  | cursorOpen
  | fetching
  | hasBatch
  | ended
  | closed
deriving DecidableEq

def ScanPhase.label : ScanPhase → String
  | notStarted => "not started"
  | cursorOpen => "cursor open"
  | fetching => "fetching"
  | hasBatch => "has batch"
  | ended => "eof"
  | closed => "closed"

def ScanPhase.name : ScanPhase → String
  | notStarted => "NotStarted"
  | cursorOpen => "CursorOpen"
  | fetching => "Fetching"
  | hasBatch => "HasBatch"
  | ended => "Eof"
  | closed => "Closed"

structure Scan where
  relation : Relation
  plan : ScanPlan
  zone : Zone
  session : Session := .held
  /-- Prepared with the first request for a tuple. -/
  statement : Option Statement := none
  batch : Batch := {}
  /-- True when nothing is left to fetch. -/
  exhausted : Bool := false
  phase : ScanPhase := .notStarted

namespace Scan

structure Run where
  scan : Scan
  store : Store

/-- Borrows a session for a scan. Nothing is sent yet. -/
def start (server : ServerOptions) (relation : Relation) (plan : ScanPlan) (zone : Zone)
    (store : Store) : Except Error Run := do
  let (session, store) ← Session.acquire server false store
  return ⟨{ relation, plan, zone, session }, store⟩

namespace Run

def openCursor (run : Run) : Run × Statement :=
  match run.scan.statement with
  | some statement => (run, statement)
  | none =>
      let statement := Statement.prepare run.scan.plan.sql run.scan.plan.consistency
      ({ run with scan.statement := some statement, scan.phase := .cursorOpen }, statement)

/-- Takes over the rows of a result. A row that does not materialize leaves the scan
without a batch and with nothing more to fetch. -/
def accept (run : Run) (rows : List Row) : Except Error Unit × Run :=
  let scan := run.scan
  match rows.mapM (scan.relation.materialize scan.zone scan.plan.retrieved) with
  | .error failure =>
      (.error failure,
        { run with scan := { scan with batch := {}, exhausted := true, phase := .ended } })
  | .ok tuples =>
      (.ok (),
        { run with
          scan := { scan with
            batch := Batch.ofTuples tuples, exhausted := true, phase := .hasBatch } })

/-- Gives up after a failure of the store: the statement is dropped and the session given
back. -/
def abandon (run : Run) (message : String) : Except Error Unit × Run :=
  let (session, store) := run.scan.session.release run.store
  (.error (.remoteExecution .select message),
    { scan := { run.scan with
        session, statement := none, batch := {}, exhausted := true, phase := .ended }
      store })

def fetch (run : Run) (statement : Statement) : Except Error Unit × Run :=
  let fetching := { run with scan.phase := .fetching }
  match run.scan.session.execute statement run.store with
  | .error failure => (.error failure, fetching)
  | .ok (.failure message, store) => { fetching with store }.abandon message
  | .ok (.rows rows, store) => { fetching with store }.accept rows

def deliver (run : Run) : Except Error (Option Tuple) × Run :=
  match run.scan.batch.next with
  | (some tuple, batch) =>
      (.ok (some tuple), { run with scan.batch := batch, scan.phase := .hasBatch })
  | (none, _) => (.ok none, { run with scan.phase := .ended })

def next (run : Run) : Except Error (Option Tuple) × Run :=
  if run.scan.phase = .closed then (.error (.internal .closedScan), run)
  else
    let (opened, statement) := run.openCursor
    if opened.scan.batch.hasRemaining || opened.scan.exhausted then opened.deliver
    else
      match opened.fetch statement with
      | (.error failure, failed) => (.error failure, failed)
      | (.ok (), fetched) => fetched.deliver

/-- Starts the scan over. With a statement the batch is replayed without asking the store
again; without one there is nothing to replay. -/
def rescan (run : Run) : Except Error Unit × Run :=
  let scan := run.scan
  if scan.phase = .closed then (.error (.internal .closedRescan), run)
  else if scan.statement.isNone then
    (.ok (), { run with scan := { scan with batch := {}, exhausted := false } })
  else
    let batch := scan.batch.rewind
    let phase := if scan.phase = .ended ∧ batch.hasRemaining then .hasBatch else scan.phase
    (.ok (), { run with scan := { scan with batch, phase } })

/-- Drops the statement and gives the session back. Ending again changes nothing. -/
def finish (run : Run) : Run :=
  if run.scan.phase = .closed then run
  else
    let (session, store) := run.scan.session.release run.store
    { scan := { run.scan with session, statement := none, phase := .closed }, store }

def drop (run : Run) : Store := (run.scan.session.release run.store).2

def enqueue (run : Run) (response : Response) : Run :=
  { run with store := run.store.enqueue response }

/-- Asks for tuples until there is none, a request fails or `limit` is reached. -/
def drainUpTo : Nat → Run → List Tuple × Option Error × Run
  | 0, run => ([], none, run)
  | limit + 1, run =>
      match run.next with
      | (.error failure, after) => ([], some failure, after)
      | (.ok none, after) => ([], none, after)
      | (.ok (some tuple), after) =>
          let (tuples, stop, final) := drainUpTo limit after
          (tuple :: tuples, stop, final)

/-- Asks for tuples until there is none or a request fails. Once the first tuple is there
the batch holds all the others, so its size bounds the rest. -/
def drain (run : Run) : List Tuple × Option Error × Run :=
  match run.next with
  | (.error failure, after) => ([], some failure, after)
  | (.ok none, after) => ([], none, after)
  | (.ok (some tuple), after) =>
      let (tuples, stop, final) := drainUpTo (after.scan.batch.size + 1) after
      (tuple :: tuples, stop, final)

end Run

def describe (scan : Scan) : String :=
  let relation := Text.quoted scan.relation.name
  let sql := Text.quoted scan.plan.sql
  let phase := scan.phase.name
  let exhausted := if scan.exhausted then "true" else "false"
  let size := scan.batch.size
  let cursor := scan.batch.cursor
  s!"ForeignScan \x7b relation: {relation}, sql: {sql}, state: {phase}, eof: {exhausted}, " ++
    s!"batch_len: {size}, next: {cursor} \x7d"

end Scan

end ForeignTable
