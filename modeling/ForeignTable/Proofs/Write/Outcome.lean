import ForeignTable.Proofs.Binding
import ForeignTable.Proofs.LocalFailure
import ForeignTable.Proofs.Store
import ForeignTable.Proofs.WritePlanning
import ForeignTable.Write

/-! Outcomes of write requests. A request is refused without the store, or its row is sent
and the store answers with success or failure. The three outcomes describe everything that
a request does to an operation that is ready; what a kept statement carries from earlier
rows does not appear in them. -/

set_option autoImplicit false

namespace ForeignTable.Write

open Remote (Store Session Statement Response Execution)

/-- A row to be written, with its key beside the tuple. -/
structure Request where
  operation : WriteOperation
  tuple : Tuple
  key : Option Datum

/-- The parameters of a row: the cells of the target columns in their order, then the key.
The first conversion that fails decides. -/
def rowParameters (write : Write) (request : Request) :
    Except Error (List (Option Remote.Value)) := do
  let cells ← write.plan.targets.mapM (write.targetParameter request.tuple)
  match write.plan.key, request.key with
  | some column, some datum => do
      let value ← column.columnType.bind write.zone (some datum)
      return cells ++ [value]
  | _, _ => return cells

/-- The first conversion of a row that fails: of a target after others that succeed, or of
the key after every target. -/
inductive FirstFailure (write : Write) (request : Request) (failure : Error) : Prop where
  | target {earlier later : List Nat} {ordinal : Nat} :
      write.plan.targets = earlier ++ ordinal :: later →
      (∀ other ∈ earlier, ∃ parameter,
        write.targetParameter request.tuple other = .ok parameter) →
      write.targetParameter request.tuple ordinal = .error failure →
      FirstFailure write request failure
  | key {column : KeyColumn} {datum : Datum} :
      (∀ ordinal ∈ write.plan.targets, ∃ parameter,
        write.targetParameter request.tuple ordinal = .ok parameter) →
      write.plan.key = some column → request.key = some datum →
      column.columnType.bind write.zone (some datum) = .error failure →
      FirstFailure write request failure

/-- A request that never reaches the store, with the failure that answers it. -/
inductive Refused (write : Write) (request : Request) : Error → Prop where
  | closed : write.closed = true →
      Refused write request (.internal (.endedWrite request.operation))
  | otherOperation : write.closed = false → write.plan.operation ≠ request.operation →
      Refused write request (.internal (.otherWrite request.operation write.plan.operation))
  | nullKey {column : KeyColumn} : write.closed = false →
      write.plan.operation = request.operation → write.plan.key = some column →
      request.key = none →
      Refused write request (.dataIntegrity (.nullKey column.name write.relation.name))
  | conversion {failure : Error} : write.closed = false →
      write.plan.operation = request.operation →
      (write.plan.key.isSome = true → request.key.isSome = true) →
      FirstFailure write request failure → Refused write request failure

structure Accepted (write : Write) (request : Request)
    (parameters : List (Option Remote.Value)) : Prop where
  opened : write.closed = false
  operation : write.plan.operation = request.operation
  keyed : write.plan.key.isSome = true → request.key.isSome = true
  converted : write.rowParameters request = .ok parameters

def planned (write : Write) : Statement :=
  Statement.prepare write.plan.sql write.plan.consistency

/-- The session is held exactly while the operation is open, and a kept statement is that
of the plan, whatever is bound to it. -/
structure Ready (write : Write) : Prop where
  fits : write.plan.Fits write.relation
  session : write.session.isHeld = !write.closed
  prepared : ∀ statement ∈ write.statement, statement.clear = write.planned

def boundPlan (write : Write) (parameters : List (Option Remote.Value)) : Statement :=
  ⟨write.plan.sql, parameters, write.plan.consistency⟩

/-- What a request leads to: the answer and the run afterwards. -/
inductive Outcome (run : Run) (request : Request) : Except Error Unit × Run → Prop where
  | refused {failure : Error} (statement : Option Statement) :
      Refused run.write request failure →
      (∀ kept ∈ statement, kept.clear = run.write.planned) →
      Outcome run request (.error failure, { run with write.statement := statement })
  | written {parameters : List (Option Remote.Value)} {rows : List Remote.Row}
      {statement : Option Statement} :
      Accepted run.write request parameters → run.store.answer 0 = .rows rows →
      (∀ kept ∈ statement, kept.clear = run.write.planned) →
      Outcome run request (.ok (),
        { write := { run.write with statement, executed := run.write.executed + 1 }
          store := (run.store.execute (run.write.boundPlan parameters)).2 })
  | failed {parameters : List (Option Remote.Value)} {message : String} :
      Accepted run.write request parameters → run.store.answer 0 = .failure message →
      Outcome run request (.error (.remoteExecution (.write request.operation) message),
        { write := { run.write with session := .returned, statement := none, closed := true }
          store := (run.write.session.release
            (run.store.execute (run.write.boundPlan parameters)).2).2 })

/-!
## The row that is bound
-/

theorem Ready.freshStatement_eq {write : Write} (ready : write.Ready) :
    write.freshStatement = write.planned := by
  unfold freshStatement
  cases kept : write.statement with
  | none => exact Remote.Statement.clear_prepare _ _
  | some statement => exact ready.prepared statement kept

private theorem mapM_parameters {write : Write} {request : Request}
    {key : Option (KeyColumn × Datum)} (bound : write.boundKey request.key = .ok key) :
    (write.parameters request.tuple key).mapM id = write.rowParameters request := by
  unfold boundKey at bound
  unfold parameters rowParameters
  rw [List.mapM_append, List.mapM_map]
  change (write.plan.targets.mapM (write.targetParameter request.tuple) >>= _) = _
  cases planKey : write.plan.key with
  | none =>
      rw [planKey] at bound
      cases bound
      simp
  | some column =>
      cases requestKey : request.key with
      | none =>
          rw [planKey, requestKey] at bound
          cases bound
      | some datum =>
          rw [planKey, requestKey] at bound
          cases bound
          simp

theorem length_parameters {write : Write} (tuple : Tuple) {key : Option Datum}
    {bound : Option (KeyColumn × Datum)} (success : write.boundKey key = .ok bound) :
    (write.parameters tuple bound).length =
      write.plan.targets.length + write.plan.key.toList.length := by
  have same : bound.toList.length = write.plan.key.toList.length := by
    unfold boundKey at success
    split at success <;> cases success <;> simp_all
  simp [parameters, same]

/-- A plan that fits leaves room for every parameter of a row. -/
theorem Ready.length_planned {write : Write} (ready : write.Ready) :
    write.planned.parameters.length =
      write.plan.targets.length + write.plan.key.toList.length := by
  rw [planned, Remote.Statement.length_parameters_prepare, ready.fits.placeholders]

private theorem clear_planned (write : Write) : write.planned.clear = write.planned :=
  Remote.Statement.clear_prepare _ _

theorem Ready.bindFrom_of_ok {write : Write} (ready : write.Ready)
    {attempts : List (Except Error (Option Remote.Value))}
    {values : List (Option Remote.Value)}
    (size : attempts.length = write.plan.targets.length + write.plan.key.toList.length)
    (converted : attempts.mapM id = .ok values) :
    write.planned.bindFrom 0 attempts = (none, write.boundPlan values) ∧
      (write.boundPlan values).clear = write.planned := by
  have room : attempts.length = write.planned.parameters.length := by
    rw [size, ready.length_planned]
  have same : values.length = attempts.length :=
    (Attempt.mapM_eq_ok_iff.mp converted).length_eq.symm
  have total := Remote.Statement.bindFrom_of_ok [] write.planned.parameters write.plan.sql
    write.plan.consistency (Nat.le_of_eq room) converted
  -- the row fills every placeholder, so nothing bound earlier can remain
  have nothing : write.planned.parameters.drop values.length = [] := by
    rw [same, room, List.drop_length]
  rw [nothing, List.append_nil] at total
  have complete : write.planned.bindFrom 0 attempts = (none, write.boundPlan values) := total
  have cleared := Remote.Statement.clear_bindFrom write.planned 0 attempts
  rw [complete, clear_planned] at cleared
  exact ⟨complete, cleared⟩

theorem Ready.bindFrom_of_error {write : Write} (ready : write.Ready)
    {attempts : List (Except Error (Option Remote.Value))} {failure : Error}
    (size : attempts.length = write.plan.targets.length + write.plan.key.toList.length)
    (failed : attempts.mapM id = .error failure) :
    ∃ statement, write.planned.bindFrom 0 attempts = (some failure, statement) ∧
      statement.clear = write.planned := by
  have room : 0 + attempts.length ≤ write.planned.parameters.length := by
    rw [size, ready.length_planned]
    omega
  have first := Remote.Statement.bindFrom_of_error room failed
  have cleared := Remote.Statement.clear_bindFrom write.planned 0 attempts
  rw [clear_planned] at cleared
  exact ⟨_, Prod.ext first rfl, cleared⟩

private theorem firstFailure_of_error {write : Write} {request : Request} {failure : Error}
    (failed : write.rowParameters request = .error failure) :
    FirstFailure write request failure := by
  obtain target | ⟨cells, targets, continuation⟩ := Attempt.bind_eq_error_iff.mp failed
  · obtain ⟨earlier, ordinal, later, shape, succeeded, failing⟩ :=
      Attempt.mapM_eq_error_iff.mp target
    exact .target shape succeeded failing
  · split at continuation
    · rename_i column datum planKey requestKey
      obtain keyFailed | ⟨_, _, impossible⟩ := Attempt.bind_eq_error_iff.mp continuation
      · refine .key (fun ordinal member => ?_) planKey requestKey keyFailed
        exact Attempt.exists_of_mapM_eq_ok targets member
      · cases impossible
    · cases continuation

/-!
## The outcome of a request
-/

private theorem boundKey_eq_error {write : Write} {key : Option Datum} {failure : Error}
    (failed : write.boundKey key = .error failure) :
    ∃ column, write.plan.key = some column ∧ key = none ∧
      failure = .dataIntegrity (.nullKey column.name write.relation.name) := by
  unfold boundKey at failed
  split at failed
  · cases failed
  · cases failed
  · rename_i column planKey
    cases failed
    exact ⟨column, planKey, rfl, rfl⟩

private theorem keyed_of_boundKey {write : Write} {key : Option Datum}
    {bound : Option (KeyColumn × Datum)} (success : write.boundKey key = .ok bound) :
    write.plan.key.isSome = true → key.isSome = true := by
  intro present
  unfold boundKey at success
  split at success
  · simp_all
  · rfl
  · cases success

private theorem send_outcome {run : Run} {request : Request}
    {parameters : List (Option Remote.Value)} (ready : run.write.Ready)
    (accepted : Accepted run.write request parameters)
    (kept : (run.write.boundPlan parameters).clear = run.write.planned) :
    Outcome run request
      (Run.send { run with write.statement := some (run.write.boundPlan parameters) }
        request.operation (run.write.boundPlan parameters)) := by
  have sends : run.write.session.execute (run.write.boundPlan parameters) run.store =
      .ok (run.store.execute (run.write.boundPlan parameters)) := by
    have isHeld := ready.session
    rw [accepted.opened] at isHeld
    cases session : run.write.session with
    | held => rfl
    | returned => simp [session, Session.isHeld] at isHeld
  have answered := Store.execute_fst run.store (run.write.boundPlan parameters)
  unfold Run.send
  dsimp only
  rw [sends]
  cases executed : run.store.execute (run.write.boundPlan parameters) with
  | mk response store =>
      rw [executed] at answered
      have after : store = (run.store.execute (run.write.boundPlan parameters)).2 := by
        rw [executed]
      subst after
      cases response with
      | rows rows => exact .written accepted answered.symm (by rintro _ ⟨⟩; exact kept)
      | failure message =>
          have outcome := Outcome.failed accepted answered.symm
          simpa [Run.release] using outcome

/-- Every request on a ready operation has one of the three outcomes. -/
theorem perform_outcome {run : Run} (ready : run.write.Ready) (request : Request) :
    Outcome run request (run.perform request.operation request.tuple request.key) := by
  unfold Run.perform
  dsimp only
  by_cases closed : run.write.closed = true
  · rw [if_pos closed]
    exact .refused _ (.closed closed) ready.prepared
  · have opened : run.write.closed = false := Bool.eq_false_iff.mpr closed
    rw [if_neg closed]
    by_cases operation : run.write.plan.operation = request.operation
    · rw [if_neg (not_not_intro operation)]
      cases bound : run.write.boundKey request.key with
      | error failure =>
          obtain ⟨column, planKey, missing, rfl⟩ := boundKey_eq_error bound
          exact .refused _ (.nullKey opened operation planKey missing) ready.prepared
      | ok key =>
          have keyed := keyed_of_boundKey bound
          have size := length_parameters request.tuple bound
          have conversions := mapM_parameters bound
          dsimp only
          rw [ready.freshStatement_eq]
          cases row : run.write.rowParameters request with
          | error failure =>
              obtain ⟨statement, stopped, cleared⟩ :=
                ready.bindFrom_of_error size (conversions.trans row)
              rw [stopped]
              have first := firstFailure_of_error row
              refine .refused (some statement) (.conversion opened operation keyed first) ?_
              rintro _ ⟨⟩
              exact cleared
          | ok values =>
              obtain ⟨complete, cleared⟩ := ready.bindFrom_of_ok size (conversions.trans row)
              rw [complete]
              exact send_outcome ready ⟨opened, operation, keyed, row⟩ cleared
    · rw [if_pos operation]
      exact .refused _ (.otherOperation opened operation) ready.prepared

/-- What follows a request is ready for the next one. -/
theorem Outcome.ready {run : Run} {request : Request} {result : Except Error Unit × Run}
    (outcome : Outcome run request result) (ready : run.write.Ready) :
    result.2.write.Ready := by
  cases outcome with
  | refused _ _ prepared => exact ⟨ready.fits, ready.session, prepared⟩
  | written _ _ prepared => exact ⟨ready.fits, ready.session, prepared⟩
  | failed _ _ => exact ⟨ready.fits, rfl, by rintro _ ⟨⟩⟩

theorem Refused.not_remote {write : Write} {request : Request} {failure : Error}
    (refused : Refused write request failure) : failure.kind ≠ .remoteExecution := by
  cases refused with
  | closed _ => exact nofun
  | otherOperation _ _ => exact nofun
  | nullKey _ _ _ _ => exact nofun
  | conversion _ _ _ first =>
      cases first with
      | target _ _ failed => exact write.local_targetParameter request.tuple _ _ failed
      | key _ _ _ failed => exact ColumnType.local_bind _ _ _ _ failed

end ForeignTable.Write
