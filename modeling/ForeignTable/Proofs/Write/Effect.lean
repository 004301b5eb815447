import ForeignTable.Proofs.Write.Calls

/-! Effects of write requests. A refused request goes unnoticed by everything that follows,
and a sent one is recorded once; a failure of the store ends the operation for good. The
number of rows written is the number of recorded statements answered with success. -/

set_option autoImplicit false

namespace ForeignTable.Write

open Remote (Store Session Execution Response)

namespace Run

/-- The run without the statement that is kept for later rows. -/
def seen (run : Run) : Run := { run with write.statement := none }

end Run

/-- The later run cannot be told from the earlier one, now or by any later calls. -/
structure Unnoticed (before after : Run) : Prop where
  now : after.seen = before.seen
  later : ∀ calls, after.answers calls = before.answers calls ∧
    (after.calls calls).seen = (before.calls calls).seen

/-- The two things that a request can come to: it is refused unnoticed, or its row is sent
once and the store's answer decides. -/
inductive Effect (before : Run) (request : Request) : Except Error Unit → Run → Prop where
  | refused {failure : Error} {after : Run} : Refused before.write request failure →
      Unnoticed before after → Effect before request (.error failure) after
  | written {parameters : List (Option Remote.Value)} {rows : List Remote.Row} {after : Run} :
      Accepted before.write request parameters → before.store.answer 0 = .rows rows →
      after.store.executed = before.store.executed ++
        [⟨before.write.plan.sql, parameters, before.write.plan.consistency⟩] →
      after.write.executed = before.write.executed + 1 → after.write.closed = false →
      Effect before request (.ok ()) after
  | failed {parameters : List (Option Remote.Value)} {message : String} {after : Run} :
      Accepted before.write request parameters →
      before.store.answer 0 = .failure message →
      after.store.executed = before.store.executed ++
        [⟨before.write.plan.sql, parameters, before.write.plan.consistency⟩] →
      after.write.executed = before.write.executed → after.write.closed = true →
      (∀ calls, after.calls calls = after) →
      Effect before request (.error (.remoteExecution (.write request.operation) message)) after

/-!
## Requests that are refused
-/

private theorem seen_ready {run : Run} (ready : run.write.Ready) : run.seen.write.Ready :=
  ⟨ready.fits, ready.session, by rintro _ ⟨⟩⟩

/-- The kept statement changes neither the answer nor anything else that can be seen. -/
theorem perform_seen {run : Run} (ready : run.write.Ready) (operation : WriteOperation)
    (tuple : Tuple) (key : Option Datum) :
    (run.perform operation tuple key).1 = (run.seen.perform operation tuple key).1 ∧
      (run.perform operation tuple key).2.seen =
        (run.seen.perform operation tuple key).2.seen := by
  -- a kept statement is read only after it has been cleared
  have kept : run.write.freshStatement = run.write.planned := ready.freshStatement_eq
  have unkept : run.seen.write.freshStatement = run.write.planned :=
    (seen_ready ready).freshStatement_eq
  unfold Run.perform
  dsimp only
  rw [kept, unkept]
  by_cases closed : run.write.closed = true
  · have same : run.seen.write.closed = true := closed
    rw [if_pos closed, if_pos same]
    exact ⟨rfl, rfl⟩
  · have same : ¬run.seen.write.closed = true := closed
    rw [if_neg closed, if_neg same]
    by_cases other : run.write.plan.operation ≠ operation
    · have same : run.seen.write.plan.operation ≠ operation := other
      rw [if_pos other, if_pos same]
      exact ⟨rfl, rfl⟩
    · have same : ¬run.seen.write.plan.operation ≠ operation := other
      rw [if_neg other, if_neg same]
      cases bound : run.write.boundKey key with
      | error failure =>
          have same : run.seen.write.boundKey key = .error failure := bound
          rw [same]
          exact ⟨rfl, rfl⟩
      | ok boundKey =>
          have same : run.seen.write.boundKey key = .ok boundKey := bound
          have row : run.seen.write.parameters tuple boundKey =
            run.write.parameters tuple boundKey := rfl
          rw [same]
          dsimp only
          rw [row]
          cases run.write.planned.bindFrom 0 (run.write.parameters tuple boundKey) with
          | mk stopped statement => cases stopped <;> exact ⟨rfl, rfl⟩

private theorem call_seen {run : Run} (ready : run.write.Ready) (call : Call) :
    (run.call call).1 = (run.seen.call call).1 ∧
      (run.call call).2.seen = (run.seen.call call).2.seen := by
  cases asks : call.request? with
  | none =>
      rw [Run.call_of_no_request asks, Run.call_of_no_request asks]
      refine ⟨rfl, ?_⟩
      unfold Run.finish
      by_cases closed : run.write.closed = true
      · have same : run.seen.write.closed = true := closed
        rw [if_pos closed, if_pos same]
        rfl
      · have same : ¬run.seen.write.closed = true := closed
        rw [if_neg closed, if_neg same]
        rfl
  | some request =>
      rw [Run.call_of_request asks, Run.call_of_request asks]
      exact perform_seen ready request.operation request.tuple request.key

/-- Runs that look the same answer the same calls alike and look the same afterwards. -/
theorem calls_alike {first second : Run} (left : first.write.Ready)
    (right : second.write.Ready) (same : first.seen = second.seen) (calls : List Call) :
    first.answers calls = second.answers calls ∧
      (first.calls calls).seen = (second.calls calls).seen := by
  induction calls generalizing first second with
  | nil => exact ⟨rfl, same⟩
  | cons call rest ih =>
      obtain ⟨firstAnswer, firstSeen⟩ := call_seen left call
      obtain ⟨secondAnswer, secondSeen⟩ := call_seen right call
      rw [same] at firstAnswer firstSeen
      obtain ⟨answers, seen⟩ := ih (call_ready left call) (call_ready right call)
        (firstSeen.trans secondSeen.symm)
      refine ⟨?_, seen⟩
      simp only [Run.answers]
      rw [firstAnswer, secondAnswer, answers]

/-!
## Requests that are sent
-/

theorem call_of_closed {run : Run} (closed : run.write.closed = true) (call : Call) :
    (run.call call).2 = run := by
  cases asks : call.request? with
  | none =>
      rw [Run.call_of_no_request asks]
      exact if_pos closed
  | some request =>
      rw [Run.call_of_request asks]
      unfold Run.perform
      dsimp only
      rw [if_pos closed]

/-- An operation that is closed stays as it is. -/
theorem calls_of_closed {run : Run} (closed : run.write.closed = true) (calls : List Call) :
    run.calls calls = run := by
  induction calls with
  | nil => rfl
  | cons call rest ih =>
      simp only [Run.calls]
      rw [call_of_closed closed call]
      exact ih

private theorem Outcome.effect {run : Run} {request : Request} {result : Except Error Unit × Run}
    (outcome : Outcome run request result) (ready : run.write.Ready) :
    Effect run request result.1 result.2 := by
  have next := outcome.ready ready
  cases outcome with
  | refused statement refused _ => exact .refused refused ⟨rfl, calls_alike next ready rfl⟩
  | written accepted answer _ =>
      exact .written accepted answer (Store.executed_execute _ _) rfl accepted.opened
  | failed accepted answer =>
      refine .failed accepted answer ?_ rfl rfl (calls_of_closed rfl)
      exact (Session.executed_release _ _).trans (Store.executed_execute _ _)

/-!
## The ledger of a run
-/

/-- The statements that a run has on record since it began, each beside its answer. Only
the last one can have failed, and nothing follows the end of the operation. -/
structure Ledger (store : Store) (history : List Call) (run : Run) (sent : List Execution) :
    Prop where
  recorded : run.store.executed = store.executed ++ sent
  script : ∀ index, run.store.answer index = store.answer (sent.length + index)
  written : run.write.executed =
    (List.range sent.length).countP fun index => (store.answer index).isRows
  succeeded : ∀ index, index + 1 < sent.length → (store.answer index).isRows = true
  closed : run.write.closed = true ↔
    .finish ∈ history ∨ ∃ index < sent.length, (store.answer index).isRows = false

variable {store : Store} {history : List Call} {run after : Run} {sent : List Execution}

theorem Ledger.finish (ledger : Ledger store history run sent) :
    Ledger store (history ++ [.finish]) run.finish sent := by
  refine ⟨?_, ?_, ?_, ledger.succeeded, ?_⟩
  · rw [finish_executed, ledger.recorded]
  · intro index
    rw [finish_answer, ledger.script]
  · rw [← ledger.written]
    unfold Run.finish
    split <;> rfl
  · have ends : Call.finish ∈ history ++ [.finish] := List.mem_append_right _ List.mem_cons_self
    exact ⟨fun _ => .inl ends, fun _ => finish_closed run⟩

private theorem finish_mem_append {call : Call} {request : Request}
    (asks : call.request? = some request) :
    Call.finish ∈ history ++ [call] ↔ Call.finish ∈ history := by
  have other : Call.finish ≠ call := by
    rintro rfl
    cases asks
  rw [List.mem_append, List.mem_singleton]
  exact or_iff_left other

private theorem Ledger.refuse (ledger : Ledger store history run sent) {call : Call}
    {request : Request} (asks : call.request? = some request) (same : after.seen = run.seen) :
    Ledger store (history ++ [call]) after sent := by
  have store := congrArg Run.store same
  have executed := congrArg (fun seen => seen.write.executed) same
  have closed := congrArg (fun seen => seen.write.closed) same
  simp only [Run.seen] at store executed closed
  refine ⟨?_, ?_, ?_, ledger.succeeded, ?_⟩
  · rw [store, ledger.recorded]
  · rw [store]
    exact ledger.script
  · rw [executed, ledger.written]
  · rw [closed, finish_mem_append asks]
    exact ledger.closed

/-- A statement is added with its answer, which decides what happens to the operation. -/
theorem Ledger.send (ledger : Ledger store history run sent) {call : Call} {request : Request}
    (asks : call.request? = some request) (opened : run.write.closed = false)
    {execution : Execution}
    (recorded : after.store.executed = run.store.executed ++ [execution])
    (script : ∀ index, after.store.answer index = run.store.answer (index + 1))
    (written : after.write.executed =
      run.write.executed + if (run.store.answer 0).isRows then 1 else 0)
    (closed : after.write.closed = !(run.store.answer 0).isRows) :
    Ledger store (history ++ [call]) after (sent ++ [execution]) := by
  have answer : run.store.answer 0 = store.answer sent.length := ledger.script 0
  have size : (sent ++ [execution]).length = sent.length + 1 := List.length_append
  -- an open operation has seen neither its end nor a failure
  have running : ¬(Call.finish ∈ history ∨
      ∃ index < sent.length, (store.answer index).isRows = false) := by
    rw [← ledger.closed, opened]
    exact Bool.false_ne_true
  obtain ⟨unfinished, succeeded⟩ := not_or.mp running
  have before : ∀ index < sent.length, (store.answer index).isRows = true := by
    intro index inside
    by_contra failed
    exact succeeded ⟨index, inside, Bool.eq_false_iff.mpr failed⟩
  constructor
  · rw [recorded, ledger.recorded, List.append_assoc]
  · intro index
    rw [script, ledger.script, size, Nat.add_assoc, Nat.add_comm 1]
  · rw [written, ledger.written, size, List.range_succ, List.countP_append,
      List.countP_singleton, answer]
  · intro index inside
    exact before index (by omega)
  · rw [closed, finish_mem_append asks, answer, Bool.not_eq_true', size]
    constructor
    · intro failed
      exact .inr ⟨sent.length, Nat.lt_succ_self _, failed⟩
    · rintro (ended | ⟨index, inside, failed⟩)
      · exact absurd ended unfinished
      · obtain earlier | rfl := Nat.lt_succ_iff_lt_or_eq.mp inside
        · rw [before index earlier] at failed
          cases failed
        · exact failed

theorem Ledger.call (ledger : Ledger store history run sent) (ready : run.write.Ready)
    (call : Call) : ∃ sent, Ledger store (history ++ [call]) (run.call call).2 sent := by
  have called := call_outcome ready call
  generalize run.call call = result at called ⊢
  cases called with
  | finish => exact ⟨sent, ledger.finish⟩
  | request asks outcome =>
      cases outcome with
      | refused statement refused _ => exact ⟨sent, ledger.refuse asks rfl⟩
      | written accepted success _ =>
          refine ⟨_, ledger.send asks accepted.opened (Store.executed_execute _ _)
            (Store.answer_execute _ _) ?_ ?_⟩
          · rw [success]
            rfl
          · rw [success]
            exact accepted.opened
      | failed accepted failure =>
          refine ⟨_, ledger.send asks accepted.opened
            ((Session.executed_release _ _).trans (Store.executed_execute _ _)) ?_ ?_ ?_⟩
          · intro index
            exact (Session.answer_release _ _ _).trans (Store.answer_execute _ _ _)
          · rw [failure]
            rfl
          · rw [failure]
            rfl

theorem Ledger.calls (ledger : Ledger store history run sent) (ready : run.write.Ready)
    (calls : List Call) : ∃ sent, Ledger store (history ++ calls) (run.calls calls) sent := by
  induction calls generalizing history run sent with
  | nil =>
      rw [List.append_nil]
      exact ⟨sent, ledger⟩
  | cons call rest ih =>
      obtain ⟨extended, next⟩ := ledger.call ready call
      obtain ⟨final, last⟩ := ih next (call_ready ready call)
      rw [List.append_cons]
      exact ⟨final, last⟩

private theorem start_ledger {server : ServerOptions} {relation : Relation} {plan : WritePlan}
    {zone : Zone} (begun : start server relation plan zone store = .ok run) :
    Ledger store [] run [] := by
  obtain ⟨shape, executed, script⟩ := start_eq_ok begun
  refine ⟨by rw [executed, List.append_nil], ?_, by rw [shape]; rfl, nofun, ?_⟩
  · intro index
    rw [script, List.length_nil, Nat.zero_add]
  · rw [shape]
    simp

/-- At every point of a run a request is refused unnoticed or sent once, and the rows written
are the recorded statements that were answered with success; what is closed stays as it is. -/
theorem requests_refused_or_sent {server : ServerOptions} {relation : Relation}
    {plan : WritePlan} {zone : Zone} (planned : plan.Planned relation)
    (begun : start server relation plan zone store = .ok run) (earlier : List Call) :
    (∀ call request, call.request? = some request →
      Effect (run.calls earlier) request ((run.calls earlier).call call).1
        ((run.calls earlier).call call).2) ∧
    (∃ sent, Ledger store earlier (run.calls earlier) sent) ∧
    ((run.calls earlier).write.closed = true →
      ∀ later, (run.calls earlier).calls later = run.calls earlier) := by
  have ready := calls_ready (start_ready planned begun) earlier
  refine ⟨?_, (start_ledger begun).calls (start_ready planned begun) earlier,
    calls_of_closed⟩
  intro call request asks
  rw [Run.call_of_request asks]
  exact (perform_outcome ready request).effect ready

/-- A store that takes one row and then fails. -/
def counterStore : Store := { responses := [.rows [], .failure "timeout"] }

theorem requests_refused_or_sent_counters :
    ∃ plan run, WritePlan.update counters [1, 2] = .ok plan ∧
      start {} counters plan Zone.utc counterStore = .ok run ∧
      (run.calls counterCalls).write.executed = 1 ∧
      (∀ call request, call.request? = some request →
        Effect (run.calls counterCalls) request ((run.calls counterCalls).call call).1
          ((run.calls counterCalls).call call).2) ∧
      (∃ sent, Ledger counterStore counterCalls (run.calls counterCalls) sent) ∧
      ((run.calls counterCalls).write.closed = true →
        ∀ later, (run.calls counterCalls).calls later = run.calls counterCalls) := by
  have planned : ∃ plan, WritePlan.update counters [1, 2] = .ok plan := ⟨_, rfl⟩
  obtain ⟨plan, updates⟩ := planned
  have begun : start {} counters plan Zone.utc counterStore = .ok ⟨_, _⟩ := rfl
  refine ⟨plan, _, updates, begun, ?_, requests_refused_or_sent (.update updates) begun _⟩
  cases updates
  rfl

end ForeignTable.Write
