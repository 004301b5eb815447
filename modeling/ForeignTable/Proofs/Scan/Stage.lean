import ForeignTable.Proofs.Scan.Cursor

/-! Stages of a scan. Between two calls a scan stands at one of seven stages. The stage, the
call and the first answer of the store decide the next stage, so a short table describes
every sequence of calls. Only a scan that is still waiting has anything to send. -/

set_option autoImplicit false

namespace ForeignTable

open Remote (Store Session Execution Row)

/-- What the store is sent for a plan, whatever its text is. -/
def ScanPlan.sent (plan : ScanPlan) : Execution :=
  Store.execution (.prepare plan.sql plan.consistency)

namespace Scan

inductive Call where
  | next
  | rescan
  | finish
deriving DecidableEq

namespace Run

def call (run : Run) : Call → Run
  | .next => run.next.2
  | .rescan => run.rescan.2
  | .finish => run.finish

def calls (run : Run) : List Call → Run
  | [] => run
  | call :: rest => (run.call call).calls rest

theorem calls_append (run : Run) (earlier later : List Call) :
    run.calls (earlier ++ later) = (run.calls earlier).calls later := by
  induction earlier generalizing run with
  | nil => rfl
  | cons call rest ih => exact ih (run.call call)

end Run

inductive Stage where
  /-- Nothing has been asked of the store. -/
  | waiting
  /-- The store has sent rows. -/
  | answered
  /-- The store has failed. -/
  | abandoned
  /-- A tuple has been asked for since the store failed. -/
  | spent
  /-- The scan has been started over since the store failed. -/
  | reopened
  /-- Started over after a failure of the store, the scan has been asked for a tuple. -/
  | stranded
  | closed
deriving DecidableEq

namespace Stage

/-- The stage after a call. `rows` tells whether the store answers with rows. -/
def after (rows : Bool) : Stage → Call → Stage
  | _, .finish => closed
  | closed, _ => closed
  | waiting, .next => if rows then answered else abandoned
  | waiting, .rescan => waiting
  | answered, _ => answered
  | abandoned, .next => spent
  | abandoned, .rescan => reopened
  | spent, _ => spent
  | reopened, .next => stranded
  | reopened, .rescan => reopened
  | stranded, _ => stranded

def afterAll (rows : Bool) (stage : Stage) (calls : List Call) : Stage :=
  calls.foldl (after rows) stage

def sends (plan : ScanPlan) : Stage → Call → List Execution
  | waiting, .next => [plan.sent]
  | _, _ => []

end Stage

/-- A scan of a plan that began on a store stands at a stage. -/
inductive Stands (relation : Relation) (plan : ScanPlan) (zone : Zone) (store : Store) :
    Stage → Run → Prop where
  | waiting :
      Stands relation plan zone store .waiting
        ⟨{ relation, plan, zone, batch := .ofTuples [] }, store⟩
  | answered {statement : Remote.Statement} {batch : Batch} {phase : ScanPhase}
      {later : Store} : phase = .hasBatch ∨ phase = .ended →
      Stands relation plan zone store .answered
        ⟨{ relation, plan, zone, statement := some statement, batch, exhausted := true, phase },
          later⟩
  | abandoned {later : Store} :
      Stands relation plan zone store .abandoned
        ⟨{ relation, plan, zone, session := .returned, batch := .ofTuples []
           exhausted := true, phase := .ended }, later⟩
  | spent {statement : Remote.Statement} {later : Store} :
      Stands relation plan zone store .spent
        ⟨{ relation, plan, zone, session := .returned, statement := some statement
           batch := .ofTuples [], exhausted := true, phase := .ended }, later⟩
  | reopened {later : Store} :
      Stands relation plan zone store .reopened
        ⟨{ relation, plan, zone, session := .returned, batch := .ofTuples []
           phase := .ended }, later⟩
  | stranded {statement : Remote.Statement} {later : Store} :
      Stands relation plan zone store .stranded
        ⟨{ relation, plan, zone, session := .returned, statement := some statement
           batch := .ofTuples [], phase := .fetching }, later⟩
  | closed {run : Run} : run.scan.phase = .closed → run.scan.session = .returned →
      Stands relation plan zone store .closed run

/-!
## The request that asks the store
-/

variable {relation : Relation} {plan : ScanPlan} {zone : Zone} {store : Store}
  {stage : Stage} {run : Run}

/-- What the first request for a tuple leads to: the answer and the run afterwards. -/
inductive Fetched (relation : Relation) (plan : ScanPlan) (zone : Zone) (store : Store) :
    Except Error (Option Tuple) × Run → Prop where
  | failed {message : String} {later : Store} : store.answer 0 = .failure message →
      later.executed = store.executed ++ [plan.sent] →
      Fetched relation plan zone store (.error (.remoteExecution .select message),
        ⟨{ relation, plan, zone, session := .returned, batch := .ofTuples []
           exhausted := true, phase := .ended }, later⟩)
  | refused {rows : List Row} {failure : Error} {statement : Remote.Statement}
      {later : Store} : store.answer 0 = .rows rows →
      rows.mapM (relation.materialize zone plan.retrieved) = .error failure →
      later.executed = store.executed ++ [plan.sent] →
      Fetched relation plan zone store (.error failure,
        ⟨{ relation, plan, zone, statement := some statement, batch := .ofTuples []
           exhausted := true, phase := .ended }, later⟩)
  | loaded {rows : List Row} {tuple : Option Tuple} {statement : Remote.Statement}
      {batch : Batch} {phase : ScanPhase} {later : Store} : store.answer 0 = .rows rows →
      phase = .hasBatch ∨ phase = .ended →
      later.executed = store.executed ++ [plan.sent] →
      Fetched relation plan zone store (.ok tuple,
        ⟨{ relation, plan, zone, statement := some statement, batch, exhausted := true, phase },
          later⟩)

private theorem deliver_phase (run : Run) : ∃ tuple batch phase,
    run.deliver = (.ok tuple, { run with scan.batch := batch, scan.phase := phase }) ∧
      (phase = .hasBatch ∨ phase = .ended) := by
  unfold Run.deliver
  split
  · exact ⟨_, _, _, rfl, .inl rfl⟩
  · exact ⟨_, run.scan.batch, _, rfl, .inr rfl⟩

theorem next_waiting (relation : Relation) (plan : ScanPlan) (zone : Zone) (store : Store) :
    Run.next ⟨{ relation, plan, zone, batch := .ofTuples [] }, store⟩ =
      match Run.fetch
          ⟨{ relation, plan, zone, statement := some (.prepare plan.sql plan.consistency)
             batch := .ofTuples [], phase := .cursorOpen }, store⟩ (.prepare plan.sql plan.consistency) with
      | (.error failure, failed) => (.error failure, failed)
      | (.ok (), fetched) => fetched.deliver := rfl

theorem next_fetched : Fetched relation plan zone store
    (Run.next ⟨{ relation, plan, zone, batch := .ofTuples [] }, store⟩) := by
  have answer := Store.execute_fst store (.prepare plan.sql plan.consistency)
  have recorded := Store.executed_execute store (.prepare plan.sql plan.consistency)
  rw [next_waiting]
  unfold Run.fetch
  simp only [Session.execute]
  cases execution : store.execute (.prepare plan.sql plan.consistency) with
  | mk response later =>
      rw [execution] at answer recorded
      cases response with
      | failure message =>
          exact .failed answer.symm recorded
      | rows rows =>
          unfold Run.accept
          dsimp only
          cases materialized : rows.mapM (relation.materialize zone plan.retrieved) with
          | error failure => exact .refused answer.symm materialized recorded
          | ok tuples =>
              dsimp only
              obtain ⟨tuple, batch, phase, delivered, stands⟩ := deliver_phase
                ⟨{ relation, plan, zone, statement := some (.prepare plan.sql plan.consistency)
                   batch := .ofTuples tuples, exhausted := true, phase := .hasBatch }, later⟩
              rw [delivered]
              exact .loaded answer.symm stands recorded

/-!
## One call and many
-/

private theorem next_of_exhausted {statement : Remote.Statement} (opened : run.scan.phase ≠ .closed)
    (prepared : run.scan.statement = some statement) (exhausted : run.scan.exhausted = true) :
    run.next = run.deliver := by
  have cursor : run.openCursor = (run, statement) := by
    unfold Run.openCursor
    rw [prepared]
  unfold Run.next
  rw [if_neg opened, cursor]
  dsimp only
  rw [exhausted, Bool.or_true, if_pos rfl]

theorem finish_closed (run : Run) (returned : run.scan.phase = .closed →
    run.scan.session = .returned) :
    run.finish.scan.phase = .closed ∧ run.finish.scan.session = .returned ∧
      run.finish.store.executed = run.store.executed := by
  unfold Run.finish
  split
  · rename_i closed
    exact ⟨closed, returned closed, rfl⟩
  · exact ⟨rfl, Session.release_fst _ _, Session.executed_release _ _⟩

theorem call_of_closed (closed : run.scan.phase = .closed) (call : Call) :
    run.call call = run := by
  cases call with
  | next => simp [Run.call, Run.next, closed]
  | rescan => simp [Run.call, Run.rescan, closed]
  | finish => simp [Run.call, Run.finish, closed]

/-- The table of stages describes what a call does to a scan, and what it sends. -/
theorem Stands.call (stands : Stands relation plan zone store stage run) (call : Call) :
    Stands relation plan zone store (stage.after (store.answer 0).isRows call)
        (run.call call) ∧
      (run.call call).store.executed = run.store.executed ++ stage.sends plan call := by
  have unsent : run.store.executed ++ [] = run.store.executed := List.append_nil _
  have ended : (run.scan.phase = .closed → run.scan.session = .returned) →
      Stands relation plan zone store .closed run.finish ∧
        run.finish.store.executed = run.store.executed ++ [] := by
    intro returned
    obtain ⟨closed, session, executed⟩ := finish_closed run returned
    exact ⟨.closed closed session, executed.trans unsent.symm⟩
  cases stands with
  | waiting =>
      cases call with
      | next =>
          -- the only call that reaches the store
          have fetched : Fetched relation plan zone store _ := next_fetched
          unfold Run.call
          generalize Run.next ⟨{ relation, plan, zone, batch := .ofTuples [] }, store⟩ = result at fetched ⊢
          cases fetched with
          | failed answer recorded =>
              rw [answer]
              exact ⟨.abandoned, recorded⟩
          | refused answer _ recorded =>
              rw [answer]
              exact ⟨.answered (.inr rfl), recorded⟩
          | loaded answer standing recorded =>
              rw [answer]
              exact ⟨.answered standing, recorded⟩
      | rescan => exact ⟨.waiting, unsent.symm⟩
      | finish => exact ended nofun
  | @answered statement batch phase later standing =>
      have opened : phase ≠ .closed := by
        rcases standing with rfl | rfl <;> exact nofun
      cases call with
      | next =>
          obtain ⟨_, _, _, delivered, stands⟩ := deliver_phase
            ⟨{ relation, plan, zone, statement := some statement, batch, exhausted := true,
               phase }, later⟩
          unfold Run.call
          rw [next_of_exhausted opened rfl rfl, delivered]
          exact ⟨.answered stands, unsent.symm⟩
      | rescan =>
          unfold Run.call Run.rescan
          dsimp only
          rw [if_neg opened]
          refine ⟨.answered ?_, unsent.symm⟩
          split
          · exact .inl rfl
          · exact standing
      | finish => exact ended fun closed => absurd closed opened
  | abandoned =>
      cases call with
      | next => exact ⟨.spent, unsent.symm⟩
      | rescan => exact ⟨.reopened, unsent.symm⟩
      | finish => exact ended nofun
  | spent =>
      cases call with
      | next => exact ⟨.spent, unsent.symm⟩
      | rescan => exact ⟨.spent, unsent.symm⟩
      | finish => exact ended nofun
  | reopened =>
      cases call with
      | next => exact ⟨.stranded, unsent.symm⟩
      | rescan => exact ⟨.reopened, unsent.symm⟩
      | finish => exact ended nofun
  | stranded =>
      cases call with
      | next => exact ⟨.stranded, unsent.symm⟩
      | rescan => exact ⟨.stranded, unsent.symm⟩
      | finish => exact ended nofun
  | closed closed session =>
      rw [call_of_closed closed]
      cases call <;> exact ⟨.closed closed session, unsent.symm⟩

theorem Stands.calls (stands : Stands relation plan zone store stage run)
    (calls : List Call) :
    Stands relation plan zone store (stage.afterAll (store.answer 0).isRows calls)
      (run.calls calls) := by
  induction calls generalizing stage run with
  | nil => exact stands
  | cons call rest ih => exact ih (stands.call call).1

theorem start_stands {server : ServerOptions} {before : Store}
    (begun : start server relation plan zone before = .ok run) :
    Stands relation plan zone run.store .waiting run ∧
      run.store.executed = before.executed ∧
        ∀ index, run.store.answer index = before.answer index := by
  obtain ⟨⟨session, connected⟩, acquired, shape⟩ := Attempt.bind_eq_ok_iff.mp begun
  obtain ⟨rfl, rfl⟩ := Session.acquire_eq_ok acquired
  cases shape
  exact ⟨.waiting, rfl, fun _ => rfl⟩

end Scan

end ForeignTable
