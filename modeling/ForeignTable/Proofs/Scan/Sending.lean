import ForeignTable.Proofs.Scan.Stage

/-! What a scan sends in its whole life. The first request for a tuple sends the query, if
the scan has not ended before; nothing is ever sent again, whatever came of it. A scan that
has ended refuses every request and stays as it is, and so does its store. -/

set_option autoImplicit false

namespace ForeignTable.Scan

open Remote (Store Session Execution)

variable {relation : Relation} {plan : ScanPlan} {zone : Zone} {store : Store}
  {stage : Stage} {run : Run}

/-- A call that is the first request for a tuple, with no end before it. -/
def Asks (earlier : List Call) (call : Call) : Prop :=
  call = .next ∧ .next ∉ earlier ∧ .finish ∉ earlier

instance (earlier : List Call) (call : Call) : Decidable (Asks earlier call) :=
  inferInstanceAs (Decidable (_ ∧ _))

/-!
## The table of stages
-/

namespace Stage

private theorem after_ne_waiting {rows : Bool} (moved : stage ≠ .waiting) (call : Call) :
    stage.after rows call ≠ .waiting := by
  cases stage with
  | waiting => exact absurd rfl moved
  | answered | abandoned | spent | reopened | stranded | closed => cases call <;> exact nofun

private theorem afterAll_ne_waiting {rows : Bool} (moved : stage ≠ .waiting) (calls : List Call) :
    stage.afterAll rows calls ≠ .waiting := by
  induction calls generalizing stage with
  | nil => exact moved
  | cons call rest ih => exact ih (after_ne_waiting moved call)

theorem afterAll_eq_waiting_iff (rows : Bool) (calls : List Call) :
    waiting.afterAll rows calls = .waiting ↔ .next ∉ calls ∧ .finish ∉ calls := by
  induction calls with
  | nil => exact iff_of_true rfl ⟨List.not_mem_nil, List.not_mem_nil⟩
  | cons call rest ih =>
      cases call with
      | rescan =>
          have same : waiting.afterAll rows (.rescan :: rest) = waiting.afterAll rows rest := rfl
          rw [same, ih]
          simp
      | next =>
          have moved : waiting.after rows .next ≠ .waiting := by cases rows <;> exact nofun
          refine iff_of_false (afterAll_ne_waiting moved rest) fun absent => ?_
          exact absent.1 List.mem_cons_self
      | finish =>
          have moved : waiting.after rows .finish ≠ .waiting := nofun
          refine iff_of_false (afterAll_ne_waiting moved rest) fun absent => ?_
          exact absent.2 List.mem_cons_self

private theorem afterAll_closed (rows : Bool) (calls : List Call) :
    closed.afterAll rows calls = .closed := by
  induction calls with
  | nil => rfl
  | cons call rest ih => cases call <;> exact ih

theorem afterAll_of_finish (rows : Bool) {calls : List Call} (ends : .finish ∈ calls) :
    stage.afterAll rows calls = .closed := by
  obtain ⟨earlier, later, rfl⟩ := List.append_of_mem ends
  unfold afterAll
  rw [List.foldl_append, List.foldl_cons]
  have finished : (earlier.foldl (after rows) stage).after rows .finish = .closed := by
    cases earlier.foldl (after rows) stage <;> rfl
  rw [finished]
  exact afterAll_closed rows later

theorem sends_of_ne_waiting (plan : ScanPlan) (moved : stage ≠ .waiting) (call : Call) :
    stage.sends plan call = [] := by
  cases stage with
  | waiting => exact absurd rfl moved
  | answered | abandoned | spent | reopened | stranded | closed => rfl

private theorem sends_afterAll (plan : ScanPlan) (rows : Bool) (earlier : List Call) (call : Call) :
    (waiting.afterAll rows earlier).sends plan call =
      if Asks earlier call then [plan.sent] else [] := by
  by_cases untouched : .next ∉ earlier ∧ .finish ∉ earlier
  · rw [(afterAll_eq_waiting_iff rows earlier).mpr untouched]
    cases call with
    | next => exact (if_pos ⟨rfl, untouched⟩).symm
    | rescan => exact (if_neg fun asks => nomatch asks.1).symm
    | finish => exact (if_neg fun asks => nomatch asks.1).symm
  · rw [if_neg fun asks => untouched asks.2]
    refine sends_of_ne_waiting plan (fun waits => untouched ?_) call
    exact (afterAll_eq_waiting_iff rows earlier).mp waits

end Stage

/-!
## The record of the store
-/

private theorem Stands.calls_executed (stands : Stands relation plan zone store stage run)
    (moved : stage ≠ .waiting) (calls : List Call) :
    (run.calls calls).store.executed = run.store.executed := by
  induction calls generalizing stage run with
  | nil => rfl
  | cons call rest ih =>
      obtain ⟨next, executed⟩ := stands.call call
      rw [Stage.sends_of_ne_waiting plan moved, List.append_nil] at executed
      exact (ih next (Stage.after_ne_waiting moved call)).trans executed

/-- What a whole life sends: the query once, if a tuple is asked for before the end. -/
theorem Stands.waiting_executed (stands : Stands relation plan zone store .waiting run)
    (calls : List Call) :
    (run.calls calls).store.executed = run.store.executed ++
      if .next ∈ calls.takeWhile (· ≠ .finish) then [plan.sent] else [] := by
  induction calls generalizing run with
  | nil => exact (List.append_nil _).symm
  | cons call rest ih =>
      obtain ⟨after, executed⟩ := stands.call call
      cases call with
      | next =>
          have moved : Stage.waiting.after (store.answer 0).isRows .next ≠ .waiting := by
            cases (store.answer 0).isRows <;> exact nofun
          rw [if_pos (by simp)]
          exact (after.calls_executed moved rest).trans executed
      | rescan =>
          have same : Call.next ∈ (Call.rescan :: rest).takeWhile (· ≠ .finish) ↔
              Call.next ∈ rest.takeWhile (· ≠ .finish) := by simp
          simp only [same]
          exact (ih after).trans (congrArg (· ++ _) (executed.trans (List.append_nil _)))
      | finish =>
          rw [if_neg (by simp)]
          exact (after.calls_executed nofun rest).trans executed

private theorem Stands.closed_fixed (stands : Stands relation plan zone store .closed run) :
    run.next.1 = .error (.internal .closedScan) ∧
      run.rescan.1 = .error (.internal .closedRescan) ∧
      (∀ later, run.calls later = run) ∧ run.drop = run.store := by
  cases stands with
  | closed closed session =>
      refine ⟨by simp [Run.next, closed], by simp [Run.rescan, closed], ?_, ?_⟩
      · intro later
        induction later with
        | nil => rfl
        | cons call rest ih =>
            unfold Run.calls
            rw [call_of_closed closed, ih]
      · unfold Run.drop
        rw [session]
        rfl

/-- A scan sends one statement at most in its life, with its first request for a tuple and
under its plan, and nothing moves once it has ended. -/
theorem query_sent_once {server : ServerOptions}
    (begun : start server relation plan zone store = .ok run) :
    ∃ query : Execution, query.sql = plan.sql ∧ query.consistency = plan.consistency ∧
      (∀ source used, plan = ScanPlan.ofRelation source used → query.parameters = []) ∧
      (∀ calls, (run.calls calls).store.executed = store.executed ++
        if .next ∈ calls.takeWhile (· ≠ .finish) then [query] else []) ∧
      (∀ earlier call, (run.calls (earlier ++ [call])).store.executed =
        (run.calls earlier).store.executed ++ if Asks earlier call then [query] else []) ∧
      ∀ earlier, .finish ∈ earlier →
        (run.calls earlier).next.1 = .error (.internal .closedScan) ∧
        (run.calls earlier).rescan.1 = .error (.internal .closedRescan) ∧
        (∀ later, (run.calls earlier).calls later = run.calls earlier) ∧
        (run.calls earlier).drop = (run.calls earlier).store := by
  obtain ⟨stands, executed, _⟩ := start_stands begun
  refine ⟨plan.sent, rfl, rfl, ?_, ?_, ?_, ?_⟩
  · rintro source used rfl
    have none : Remote.countPlaceholders none (ScanPlan.ofRelation source used).sql.toList = 0 :=
      Sql.Statement.countPlaceholders_text _
    unfold ScanPlan.sent Store.execution Remote.Statement.prepare
    rw [none]
    rfl
  · intro calls
    rw [← executed]
    exact stands.waiting_executed calls
  · intro earlier call
    rw [Run.calls_append, ← Stage.sends_afterAll plan (run.store.answer 0).isRows]
    exact ((stands.calls earlier).call call).2
  · intro earlier ends
    have closed := stands.calls earlier
    rw [Stage.afterAll_of_finish _ ends] at closed
    exact closed.closed_fixed

/-- A failure of the store, a restart and requests on both sides of the end. -/
def retriedCalls : List Call := [.rescan, .next, .rescan, .next, .finish, .next, .finish]

theorem query_sent_once_shops :
    ∃ run, start {} shops (ScanPlan.ofRelation shops .everything) Zone.utc
        { responses := [.failure "timeout", .rows shopRows] } = .ok run ∧
      (∃ query : Execution, query.sql = (ScanPlan.ofRelation shops .everything).sql ∧
        query.parameters = [] ∧ (run.calls retriedCalls).store.executed = [query]) ∧
      (run.calls retriedCalls).next.1 = .error (.internal .closedScan) ∧
      (run.calls retriedCalls).rescan.1 = .error (.internal .closedRescan) ∧
      ∀ later, (run.calls retriedCalls).calls later = run.calls retriedCalls := by
  have begun : start {} shops (ScanPlan.ofRelation shops .everything) Zone.utc
      { responses := [.failure "timeout", .rows shopRows] } = .ok ⟨_, _⟩ := rfl
  obtain ⟨query, text, _, unbound, sent, _, closed⟩ := query_sent_once begun
  obtain ⟨next, rescan, fixed, _⟩ := closed retriedCalls (by decide)
  exact ⟨_, begun, ⟨query, text, unbound _ _ rfl, sent retriedCalls⟩, next, rescan, fixed⟩

end ForeignTable.Scan
