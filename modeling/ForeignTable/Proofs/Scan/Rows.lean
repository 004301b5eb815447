import ForeignTable.Proofs.Scan.Failure

/-! Scans over rows of the store. Whether the rows materialize or not, what they materialize to
decides every answer: a list of tuples is handed out as by a cursor, and a failure is told once,
without any tuple. -/

set_option autoImplicit false

namespace ForeignTable.Scan

open Remote (Row Store)

/-- The answers of a scan whose rows do not materialize: the failure answers the first request
for a tuple, and after it nothing is left. -/
def failedAnswers (failure : Error) : List Request → List (Except Error Answer)
  | [] => []
  | .rescan :: rest => .ok .restarted :: failedAnswers failure rest
  | .next :: rest => .error failure :: rest.map Request.answerOfNothing

/-- The answers of a scan whose result materializes to tuples, or fails to. -/
def answersTo : Except Error (List Tuple) → List Request → List (Except Error Answer)
  | .ok tuples, requests => (cursorAnswers tuples 0 requests).map .ok
  | .error failure, requests => failedAnswers failure requests

variable {relation : Relation} {plan : ScanPlan} {zone : Zone} {store : Store} {rows : List Row}
  {failure : Error}

private theorem next_refused (answer : store.answer 0 = .rows rows)
    (refused : rows.mapM (relation.materialize zone plan.retrieved) = .error failure) :
    ∃ statement later,
      Run.next ⟨{ relation, plan, zone, batch := .ofTuples [] }, store⟩ = (.error failure,
        ⟨{ relation, plan, zone, statement := some statement, batch := .ofTuples []
           exhausted := true, phase := .ended }, later⟩) := by
  have responds := Store.execute_fst store (.prepare plan.sql plan.consistency)
  rw [next_waiting]
  unfold Run.fetch
  simp only [Remote.Session.execute]
  cases execution : store.execute (.prepare plan.sql plan.consistency) with
  | mk response later =>
      rw [execution] at responds
      cases responds.trans answer
      unfold Run.accept
      dsimp only
      rw [refused]
      exact ⟨_, _, rfl⟩

private theorem answers_of_refused (answer : store.answer 0 = .rows rows)
    (refused : rows.mapM (relation.materialize zone plan.retrieved) = .error failure)
    (requests : List Request) :
    Run.answers ⟨{ relation, plan, zone, batch := .ofTuples [] }, store⟩ requests =
      failedAnswers failure requests := by
  induction requests with
  | nil => rfl
  | cons request rest ih =>
      cases request with
      | rescan => exact congrArg _ ih
      | next =>
          obtain ⟨statement, later, failed⟩ := next_refused answer refused
          simp only [Run.answers, Run.request, failed, failedAnswers]
          exact congrArg _ (answers_of_fixed used_up_fixed rest).1

theorem answers_eq_answersTo {server : ServerOptions} {used : UsedColumns} {run : Run}
    (begun : start server relation (ScanPlan.ofRelation relation used) zone store = .ok run)
    (answer : store.answer 0 = .rows rows) (requests : List Request) :
    run.answers requests =
      answersTo (rows.mapM (relation.materialize zone
        (ScanPlan.ofRelation relation used).retrieved)) requests := by
  cases materialized : rows.mapM (relation.materialize zone
      (ScanPlan.ofRelation relation used).retrieved) with
  | ok tuples =>
      obtain ⟨waiting, _, _⟩ := start_waiting begun answer (Attempt.mapM_eq_ok_iff.mp materialized)
      exact (waiting.answers requests).1
  | error failure =>
      obtain ⟨⟨session, connected⟩, acquired, shape⟩ := Attempt.bind_eq_ok_iff.mp begun
      obtain ⟨rfl, rfl⟩ := Remote.Session.acquire_eq_ok acquired
      cases shape
      refine answers_of_refused ?_ materialized requests
      exact answer

end ForeignTable.Scan
