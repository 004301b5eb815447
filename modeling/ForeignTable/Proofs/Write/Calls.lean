import ForeignTable.Proofs.Write.Outcome

/-! Sequences of calls on a write operation. A call writes a row or ends the operation; a
planned operation is ready when it begins, and every call leaves it ready. -/

set_option autoImplicit false

namespace ForeignTable.Write

open Remote (Store Session)

inductive Call where
  | insert (tuple : Tuple)
  | update (key : Option Datum) (tuple : Tuple)
  | delete (key : Option Datum) (tuple : Tuple)
  | finish

def Call.request? : Call → Option Request
  | insert tuple => some ⟨.insert, tuple, none⟩
  | update key tuple => some ⟨.update, tuple, key⟩
  | delete key tuple => some ⟨.delete, tuple, key⟩
  | finish => none

namespace Run

def call (run : Run) : Call → Except Error Unit × Run
  | .insert tuple => run.insert tuple
  | .update key tuple => run.update key tuple
  | .delete key tuple => run.delete key tuple
  | .finish => (.ok (), run.finish)

def calls (run : Run) : List Call → Run
  | [] => run
  | call :: rest => (run.call call).2.calls rest

def answers (run : Run) : List Call → List (Except Error Unit)
  | [] => []
  | call :: rest => (run.call call).1 :: (run.call call).2.answers rest

theorem call_of_request {call : Call} {request : Request} (asks : call.request? = some request)
    (run : Run) :
    run.call call = run.perform request.operation request.tuple request.key := by
  cases call <;> cases asks <;> rfl

theorem call_of_no_request {call : Call} (asks : call.request? = none) (run : Run) :
    run.call call = (.ok (), run.finish) := by
  cases call <;> first | rfl | cases asks

end Run

theorem finish_executed (run : Run) : run.finish.store.executed = run.store.executed := by
  unfold Run.finish
  split
  · rfl
  · exact Session.executed_release run.write.session run.store

theorem finish_answer (run : Run) (index : Nat) :
    run.finish.store.answer index = run.store.answer index := by
  unfold Run.finish
  split
  · rfl
  · exact Session.answer_release run.write.session run.store index

theorem finish_closed (run : Run) : run.finish.write.closed = true := by
  unfold Run.finish
  split
  · assumption
  · rfl

private theorem finish_ready {run : Run} (ready : run.write.Ready) : run.finish.write.Ready := by
  unfold Run.finish
  split
  · exact ready
  · exact ⟨ready.fits, by simp [Run.release, Session.isHeld], by rintro _ ⟨⟩⟩

/-- What a call leads to: the end of the operation, or the outcome of the row it asks to
write. -/
inductive Called (run : Run) : Call → Except Error Unit × Run → Prop where
  | finish : Called run .finish (.ok (), run.finish)
  | request {call : Call} {request : Request} {result : Except Error Unit × Run} :
      call.request? = some request → Outcome run request result → Called run call result

theorem call_outcome {run : Run} (ready : run.write.Ready) (call : Call) :
    Called run call (run.call call) := by
  cases call with
  | insert tuple => exact .request rfl (perform_outcome ready ⟨.insert, tuple, none⟩)
  | update key tuple => exact .request rfl (perform_outcome ready ⟨.update, tuple, key⟩)
  | delete key tuple => exact .request rfl (perform_outcome ready ⟨.delete, tuple, key⟩)
  | finish => exact .finish

theorem call_ready {run : Run} (ready : run.write.Ready) (call : Call) :
    (run.call call).2.write.Ready := by
  have called := call_outcome ready call
  generalize run.call call = result at called ⊢
  cases called with
  | finish => exact finish_ready ready
  | request _ outcome => exact outcome.ready ready

theorem calls_ready {run : Run} (ready : run.write.Ready) (calls : List Call) :
    (run.calls calls).write.Ready := by
  induction calls generalizing run with
  | nil => exact ready
  | cons call rest ih => exact ih (call_ready ready call)

/-- What an operation was begun with stays as it is. -/
structure SameSetting (before after : Write) : Prop where
  relation : after.relation = before.relation
  plan : after.plan = before.plan
  zone : after.zone = before.zone

theorem call_setting {run : Run} (ready : run.write.Ready) (call : Call) :
    SameSetting run.write (run.call call).2.write := by
  have called := call_outcome ready call
  generalize run.call call = result at called ⊢
  cases called with
  | finish =>
      unfold Run.finish
      split <;> exact ⟨rfl, rfl, rfl⟩
  | request _ outcome => cases outcome <;> exact ⟨rfl, rfl, rfl⟩

theorem start_eq_ok {server : ServerOptions} {relation : Relation} {plan : WritePlan}
    {zone : Zone} {store : Store} {run : Run}
    (begun : start server relation plan zone store = .ok run) :
    run.write = { relation, plan, zone } ∧ run.store.executed = store.executed ∧
      ∀ index, run.store.answer index = store.answer index := by
  obtain ⟨⟨session, connected⟩, acquired, shape⟩ := Attempt.bind_eq_ok_iff.mp begun
  obtain ⟨rfl, rfl⟩ := Session.acquire_eq_ok acquired
  cases shape
  exact ⟨rfl, rfl, fun _ => rfl⟩

theorem start_ready {server : ServerOptions} {relation : Relation} {plan : WritePlan}
    {zone : Zone} {store : Store} {run : Run} (planned : plan.Planned relation)
    (begun : start server relation plan zone store = .ok run) : run.write.Ready := by
  obtain ⟨shape, _, _⟩ := start_eq_ok begun
  rw [shape]
  exact ⟨planned.fits, rfl, by rintro _ ⟨⟩⟩

/-!
## A relation of counters
-/

def counters : Relation where
  schema := "shop"
  name := "counters"
  columns := [{ ordinal := 1, name := "id", columnType := .integer },
    { ordinal := 2, name := "total", columnType := .smallint }]
  dense := ⟨rfl, rfl, trivial⟩
  options := { primaryKey := some "id" }

def counterKey : Datum := .integer ⟨7, by decide, by decide⟩

def counterCells (total : Option Datum) : Tuple := [some counterKey, total]

/-- A total of null, which fails after the first cell is bound, a key of null, and a row that
can be written. -/
def counterCalls : List Call :=
  [.update (some counterKey) (counterCells none), .update none (counterCells none),
    .update (some counterKey) (counterCells (some (.smallint ⟨5, by decide, by decide⟩)))]

end ForeignTable.Write
