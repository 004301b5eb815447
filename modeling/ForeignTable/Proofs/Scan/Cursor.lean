import ForeignTable.Plan.Scan
import ForeignTable.Proofs.Attempt
import ForeignTable.Proofs.Placeholders
import ForeignTable.Proofs.Store
import ForeignTable.Scan

/-! Scans as cursors. However tuples and restarts are asked for, a scan whose only result
materializes answers like a position in the list of its tuples, and it asks the store at
most once. -/

set_option autoImplicit false

namespace ForeignTable

open Remote (Store Session Execution Row)

def ScanPlan.query (plan : ScanPlan) : Execution := ⟨plan.sql, [], plan.consistency⟩

theorem Batch.ext {first second : Batch} (tuples : first.tuples = second.tuples)
    (cursor : first.cursor = second.cursor) : first = second := by
  cases first
  cases second
  cases tuples
  cases cursor
  rfl

namespace Scan

inductive Request where
  | next
  | rescan
deriving DecidableEq

/-- The answer to a request: the next tuple, if there is one, or the word that the scan
starts over. -/
inductive Answer where
  | tuple (tuple : Option Tuple)
  | restarted

namespace Run

def request (run : Run) : Request → Except Error Answer × Run
  | .next => (run.next.1.map .tuple, run.next.2)
  | .rescan => (run.rescan.1.map fun _ => .restarted, run.rescan.2)

def requests (run : Run) : List Request → Run
  | [] => run
  | request :: rest => (run.request request).2.requests rest

def answers (run : Run) : List Request → List (Except Error Answer)
  | [] => []
  | request :: rest => (run.request request).1 :: (run.request request).2.answers rest

end Run

/-- The position after the next tuple. At the end it stays where it is. -/
def advance (tuples : List Tuple) (position : Nat) : Nat :=
  if position < tuples.length then position + 1 else position

/-- The answers of a cursor that stands at a position of a list of tuples. -/
def cursorAnswers (tuples : List Tuple) : Nat → List Request → List Answer
  | _, [] => []
  | position, .next :: rest =>
      .tuple tuples[position]? :: cursorAnswers tuples (advance tuples position) rest
  | _, .rescan :: rest => .restarted :: cursorAnswers tuples 0 rest

/-- The result has been fetched, and the batch stands at a position of its tuples. -/
structure Loaded (tuples : List Tuple) (position : Nat) (log : List Execution) (run : Run) :
    Prop where
  opened : run.scan.phase ≠ .closed
  prepared : run.scan.statement.isSome = true
  exhausted : run.scan.exhausted = true
  tuples : run.scan.batch.tuples = tuples
  position : run.scan.batch.cursor = position
  executed : run.store.executed = log

/-- Nothing has been asked of the store, whose answer will be these tuples. -/
structure Waiting (tuples : List Tuple) (run : Run) : Prop where
  opened : run.scan.phase ≠ .closed
  session : run.scan.session = .held
  unprepared : run.scan.statement = none
  empty : run.scan.batch.tuples = []
  pending : run.scan.exhausted = false
  unparameterized : Remote.countPlaceholders none run.scan.plan.sql.toList = 0
  result : ∃ rows, run.store.answer 0 = .rows rows ∧
    rows.mapM (run.scan.relation.materialize run.scan.zone run.scan.plan.retrieved) = .ok tuples

/-!
## After the result has been fetched
-/

variable {tuples : List Tuple} {position : Nat} {log : List Execution} {run : Run}

theorem Loaded.deliver (loaded : Loaded tuples position log run) :
    ∃ after, run.deliver = (.ok tuples[position]?, after) ∧
      Loaded tuples (advance tuples position) log after := by
  obtain ⟨opened, prepared, exhausted, rfl, rfl, executed⟩ := loaded
  unfold Run.deliver Batch.next advance
  by_cases inside : run.scan.batch.cursor < run.scan.batch.tuples.length
  · rw [dif_pos inside, if_pos inside, List.getElem?_eq_getElem inside]
    exact ⟨_, rfl, nofun, prepared, exhausted, rfl, rfl, executed⟩
  · rw [dif_neg inside, if_neg inside, List.getElem?_eq_none (Nat.le_of_not_lt inside)]
    exact ⟨_, rfl, nofun, prepared, exhausted, rfl, rfl, executed⟩

theorem Loaded.next (loaded : Loaded tuples position log run) :
    ∃ after, run.next = (.ok tuples[position]?, after) ∧
      Loaded tuples (advance tuples position) log after := by
  obtain ⟨statement, prepared⟩ := Option.isSome_iff_exists.mp loaded.prepared
  have cursor : run.openCursor = (run, statement) := by
    unfold Run.openCursor
    rw [prepared]
  unfold Run.next
  rw [if_neg loaded.opened, cursor]
  dsimp only
  rw [loaded.exhausted, Bool.or_true, if_pos rfl]
  exact loaded.deliver

theorem Loaded.rescan (loaded : Loaded tuples position log run) :
    ∃ after, run.rescan = (.ok (), after) ∧ Loaded tuples 0 log after := by
  obtain ⟨opened, prepared, exhausted, rfl, rfl, executed⟩ := loaded
  unfold Run.rescan
  dsimp only
  rw [if_neg opened, Option.isNone_eq_false_iff.mpr prepared, if_neg Bool.false_ne_true]
  refine ⟨_, rfl, ?_, prepared, exhausted, rfl, rfl, executed⟩
  dsimp only
  split
  · exact nofun
  · exact opened

theorem Loaded.answers (loaded : Loaded tuples position log run) (requests : List Request) :
    run.answers requests = (cursorAnswers tuples position requests).map .ok ∧
      (run.requests requests).store.executed = log := by
  induction requests generalizing run position with
  | nil => exact ⟨rfl, loaded.executed⟩
  | cons request rest ih =>
      cases request with
      | next =>
          obtain ⟨after, answer, next⟩ := loaded.next
          obtain ⟨answers, executed⟩ := ih next
          simp only [Run.answers, Run.requests, Run.request, cursorAnswers, answer]
          exact ⟨congrArg _ answers, executed⟩
      | rescan =>
          obtain ⟨after, answer, next⟩ := loaded.rescan
          obtain ⟨answers, executed⟩ := ih next
          simp only [Run.answers, Run.requests, Run.request, cursorAnswers, answer]
          exact ⟨congrArg _ answers, executed⟩

/-!
## Before anything has been asked of the store
-/

/-- A result whose rows all materialize becomes the batch. -/
theorem fetch_loaded (run : Run) {statement : Remote.Statement} {rows : List Row}
    (session : run.scan.session = .held) (prepared : run.scan.statement.isSome = true)
    (answer : run.store.answer 0 = .rows rows)
    (materialized : rows.mapM
      (run.scan.relation.materialize run.scan.zone run.scan.plan.retrieved) = .ok tuples) :
    ∃ fetched, run.fetch statement = (.ok (), fetched) ∧
      Loaded tuples 0 (run.store.executed ++ [Store.execution statement]) fetched := by
  have responds := Store.execute_fst run.store statement
  have recorded := Store.executed_execute run.store statement
  unfold Run.fetch
  dsimp only
  rw [session]
  simp only [Session.execute]
  cases execution : run.store.execute statement with
  | mk response store =>
      rw [execution] at responds recorded
      cases responds.trans answer
      unfold Run.accept
      dsimp only
      rw [materialized]
      exact ⟨_, rfl, nofun, prepared, rfl, rfl, rfl, recorded⟩

/-- The first request for a tuple sends the query and loads its result. -/
theorem Waiting.next (waiting : Waiting tuples run) :
    ∃ after, run.next = (.ok tuples[0]?, after) ∧
      Loaded tuples (advance tuples 0) (run.store.executed ++ [run.scan.plan.query]) after := by
  obtain ⟨rows, answer, materialized⟩ := waiting.result
  have query : Store.execution
      (.prepare run.scan.plan.sql run.scan.plan.consistency) = run.scan.plan.query := by
    rw [Remote.Statement.prepare, waiting.unparameterized]
    rfl
  have idle : ¬(run.scan.batch.hasRemaining || run.scan.exhausted) = true := by
    rw [waiting.pending, Batch.hasRemaining, waiting.empty]
    simp
  unfold Run.next Run.openCursor
  rw [if_neg waiting.opened, waiting.unprepared]
  dsimp only
  rw [if_neg idle]
  -- what is fetched is the run whose statement has just been prepared
  obtain ⟨fetched, success, loaded⟩ := fetch_loaded
    { run with
      scan.statement := some (.prepare run.scan.plan.sql run.scan.plan.consistency)
      scan.phase := .cursorOpen }
    waiting.session rfl answer materialized
  rw [success]
  exact query ▸ loaded.deliver

/-- With nothing fetched there is nothing to start over. -/
theorem Waiting.rescan (waiting : Waiting tuples run) : run.rescan = (.ok (), run) := by
  have unprepared : run.scan.statement.isNone = true := by
    rw [waiting.unprepared]
    rfl
  have inside := run.scan.batch.cursor_le
  rw [waiting.empty] at inside
  have empty : {} = run.scan.batch := Batch.ext waiting.empty.symm (Nat.le_zero.mp inside).symm
  unfold Run.rescan
  dsimp only
  rw [if_neg waiting.opened, if_pos unprepared, empty, ← waiting.pending]

theorem Waiting.answers (waiting : Waiting tuples run) (requests : List Request) :
    run.answers requests = (cursorAnswers tuples 0 requests).map .ok ∧
      (run.requests requests).store.executed =
        run.store.executed ++ if .next ∈ requests then [run.scan.plan.query] else [] := by
  induction requests with
  | nil => exact ⟨rfl, (List.append_nil _).symm⟩
  | cons request rest ih =>
      cases request with
      | next =>
          obtain ⟨after, answer, loaded⟩ := waiting.next
          obtain ⟨answers, executed⟩ := loaded.answers rest
          simp only [Run.answers, Run.requests, Run.request, cursorAnswers, answer]
          rw [if_pos List.mem_cons_self]
          exact ⟨congrArg _ answers, executed⟩
      | rescan =>
          obtain ⟨answers, executed⟩ := ih
          have same : Request.next ∈ Request.rescan :: rest ↔ Request.next ∈ rest := by simp
          simp only [Run.answers, Run.requests, Run.request, cursorAnswers, waiting.rescan, same]
          exact ⟨congrArg _ answers, executed⟩

theorem start_waiting {server : ServerOptions} {relation : Relation} {used : UsedColumns}
    {zone : Zone} {store : Store} {rows : List Row}
    (begun : start server relation (ScanPlan.ofRelation relation used) zone store = .ok run)
    (answer : store.answer 0 = .rows rows)
    (materialized : List.Forall₂ (fun row tuple =>
      relation.materialize zone (ScanPlan.ofRelation relation used).retrieved row = .ok tuple)
      rows tuples) :
    Waiting tuples run ∧ run.store.executed = store.executed ∧
      run.scan.plan = ScanPlan.ofRelation relation used := by
  obtain ⟨⟨session, connected⟩, acquired, shape⟩ := Attempt.bind_eq_ok_iff.mp begun
  obtain ⟨rfl, rfl⟩ := Session.acquire_eq_ok acquired
  cases shape
  refine ⟨⟨nofun, rfl, rfl, rfl, rfl, ?_, rows, answer, ?_⟩, rfl, rfl⟩
  · exact Sql.Statement.countPlaceholders_text _
  · exact Attempt.mapM_eq_ok_iff.mpr materialized

/-- Over a result whose rows all materialize, a scan answers every sequence of requests as a
cursor over its tuples, and its query is sent once if a tuple is ever asked for. -/
theorem answers_eq_cursor {server : ServerOptions} {relation : Relation} {used : UsedColumns}
    {zone : Zone} {store : Store} {rows : List Row}
    (begun : start server relation (ScanPlan.ofRelation relation used) zone store = .ok run)
    (answer : store.answer 0 = .rows rows)
    (materialized : List.Forall₂ (fun row tuple =>
      relation.materialize zone (ScanPlan.ofRelation relation used).retrieved row = .ok tuple)
      rows tuples)
    (requests : List Request) :
    run.answers requests = (cursorAnswers tuples 0 requests).map .ok ∧
      (run.requests requests).store.executed =
        store.executed ++
          if .next ∈ requests then [(ScanPlan.ofRelation relation used).query] else [] := by
  obtain ⟨waiting, executed, plan⟩ := start_waiting begun answer materialized
  rw [← executed, ← plan]
  exact waiting.answers requests

def shops : Relation where
  schema := "shop"
  name := "shops"
  columns := [{ ordinal := 1, name := "name", columnType := .text }]
  dense := ⟨rfl, trivial⟩

def shopRows : List Row := [[some (.text "north")], [none]]

theorem answers_eq_cursor_shops :
    ∃ run, start {} shops (ScanPlan.ofRelation shops .everything) Zone.utc
        { responses := [.rows shopRows] } = .ok run ∧
      run.answers [.rescan, .next, .next, .next, .rescan, .next] =
        (cursorAnswers [[some (.text "north")], [none]] 0
          [.rescan, .next, .next, .next, .rescan, .next]).map .ok ∧
      (run.requests [.rescan, .next, .next, .next, .rescan, .next]).store.executed =
        [] ++ if .next ∈ [Request.rescan, .next, .next, .next, .rescan, .next] then
          [(ScanPlan.ofRelation shops .everything).query] else [] := by
  have begun : start {} shops (ScanPlan.ofRelation shops .everything) Zone.utc
      { responses := [.rows shopRows] } = .ok ⟨_, _⟩ := rfl
  refine ⟨_, begun, answers_eq_cursor begun rfl ?_ _⟩
  exact .cons rfl (.cons rfl .nil)

end Scan

end ForeignTable
