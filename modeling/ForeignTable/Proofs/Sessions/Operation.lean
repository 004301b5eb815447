import ForeignTable.Proofs.LocalFailure
import ForeignTable.Proofs.Store
import ForeignTable.Scan
import ForeignTable.Write

/-! Operations and the sessions they hold. Whatever an operation is asked to do, it borrows
no further session, gives back the one it no longer holds, and no longer holds one when it
fails in the words of the store. -/

set_option autoImplicit false

namespace ForeignTable.Sessions

open Remote (Store Session Statement Response)

def failure? {Output : Type} : Except Error Output → Option Error
  | .ok _ => none
  | .error failure => some failure

/-- An operation on the store, or what is left when it has been dropped. -/
inductive Operation where
  | scan (scan : Scan)
  | write (write : Write)
  | bare (session : Session)
  | dropped

inductive Request where
  | next
  | rescan
  | finish
  | insert (tuple : Tuple)
  | update (key : Option Datum) (tuple : Tuple)
  | delete (key : Option Datum) (tuple : Tuple)
  | execute (statement : Statement)
  | release
  | drop

namespace Operation

def isHeld : Operation → Bool
  | scan running => running.session.isHeld
  | write running => running.session.isHeld
  | bare session => session.isHeld
  | dropped => false

end Operation

/-- What follows a call: its failure, if there is one, the operation and the store. -/
structure Result where
  failure : Option Error := none
  operation : Operation
  store : Store

def Result.ofScan {Output : Type} (result : Except Error Output × Scan.Run) : Result :=
  ⟨failure? result.1, .scan result.2.scan, result.2.store⟩

def Result.ofWrite {Output : Type} (result : Except Error Output × Write.Run) : Result :=
  ⟨failure? result.1, .write result.2.write, result.2.store⟩

/-- Calls an operation. A statement executed on a bare session hands on the answer of the
store as it is, so a failure of the store is no failure of the call. Calls that an operation
does not have change nothing. -/
def Operation.handle (store : Store) : Operation → Request → Result
  | scan running, .next => .ofScan (Scan.Run.next ⟨running, store⟩)
  | scan running, .rescan => .ofScan (Scan.Run.rescan ⟨running, store⟩)
  | scan running, .finish => .ofScan (.ok (), Scan.Run.finish ⟨running, store⟩)
  | scan running, .drop => { operation := dropped, store := Scan.Run.drop ⟨running, store⟩ }
  | write running, .insert tuple => .ofWrite (Write.Run.insert ⟨running, store⟩ tuple)
  | write running, .update key tuple =>
      .ofWrite (Write.Run.update ⟨running, store⟩ key tuple)
  | write running, .delete key tuple =>
      .ofWrite (Write.Run.delete ⟨running, store⟩ key tuple)
  | write running, .finish => .ofWrite (.ok (), Write.Run.finish ⟨running, store⟩)
  | write running, .drop => { operation := dropped, store := Write.Run.drop ⟨running, store⟩ }
  | bare session, .execute statement =>
      match session.execute statement store with
      | .error failure => ⟨some failure, bare session, store⟩
      | .ok (_, after) => { operation := bare session, store := after }
  | bare session, .release =>
      let (session, after) := session.release store
      { operation := bare session, store := after }
  | bare session, .drop => { operation := dropped, store := (session.release store).2 }
  | operation, _ => { operation, store }

/-- No session is handed out, the one given back is no longer held and none is held again,
and after a failure in the words of the store none is held. -/
structure Settles (before : Bool) (store : Store) (failure : Option Error) (after : Bool)
    (later : Store) : Prop where
  acquired : later.acquired = store.acquired
  kept : after = true → before = true
  released : later.released + after.toNat = store.released + before.toNat
  remote : ∀ error ∈ failure, error.kind = .remoteExecution → after = false

/-!
## Steps that keep or return the session
-/

variable {store later : Store} {failure : Option Error}

theorem Settles.toNat_le {before after : Bool}
    (settles : Settles before store failure after later) : after.toNat ≤ before.toNat := by
  cases still : after with
  | false => exact Nat.zero_le _
  | true => exact Nat.le_of_eq (by rw [settles.kept still])

private theorem settles_none (held : Bool) (store : Store) : Settles held store none held store :=
  ⟨rfl, id, rfl, nofun⟩

private theorem settles_failure (held : Bool) (store : Store) {error : Error}
    (own : error.kind ≠ .remoteExecution) : Settles held store (some error) held store := by
  refine ⟨rfl, id, rfl, ?_⟩
  rintro _ ⟨⟩ remote
  exact absurd remote own

private theorem settles_internal (held : Bool) (store : Store) (cause : LifecycleError) :
    Settles held store (some (.internal cause)) held store :=
  settles_failure held store nofun

private theorem settles_execute (held : Bool) (store : Store) (statement : Statement)
    (own : ∀ error ∈ failure, error.kind ≠ .remoteExecution) :
    Settles held store failure held (store.execute statement).2 := by
  refine ⟨congrArg List.length (Store.preparing_execute store statement), id, ?_, ?_⟩
  · rw [Store.released_execute]
  · intro error member remote
    exact absurd remote (own error member)

private theorem settles_answered (held : Bool) (store : Store) (statement : Statement) :
    Settles held store none held (store.execute statement).2 :=
  settles_execute held store statement (by rintro _ ⟨⟩)

private theorem settles_release (session : Session) (store : Store) (failure : Option Error) :
    Settles session.isHeld store failure false (session.release store).2 := by
  refine ⟨congrArg List.length (Session.preparing_release session store), nofun, ?_,
    fun _ _ _ => rfl⟩
  rw [Session.released_release]
  rfl

private theorem settles_execute_release (session : Session) (store : Store) (statement : Statement)
    (failure : Option Error) :
    Settles session.isHeld store failure false
      (session.release (store.execute statement).2).2 := by
  obtain ⟨acquired, kept, released, remote⟩ :=
    settles_release session (store.execute statement).2 failure
  have same := congrArg List.length (Store.preparing_execute store statement)
  refine ⟨acquired.trans same, kept, ?_, remote⟩
  rw [released, Store.released_execute]

/-!
## Scans
-/

abbrev ScanSettles {Output : Type} (run : Scan.Run) (result : Except Error Output × Scan.Run) :
    Prop :=
  Settles run.scan.session.isHeld run.store (failure? result.1)
    result.2.scan.session.isHeld result.2.store

private theorem accept_own (run : Scan.Run) (rows : List Remote.Row) :
    ∀ error ∈ failure? (run.accept rows).1, error.kind ≠ .remoteExecution := by
  intro error member
  have materializes : Local (rows.mapM
      (run.scan.relation.materialize run.scan.zone run.scan.plan.retrieved)) :=
    local_mapM fun row _ => Relation.local_materialize _ _ _ row
  unfold Scan.Run.accept at member
  dsimp only at member
  split at member
  · rename_i failed
    cases member
    exact materializes _ failed
  · cases member

private theorem accept_keeps (run : Scan.Run) (rows : List Remote.Row) :
    (run.accept rows).2.scan.session = run.scan.session ∧
      (run.accept rows).2.store = run.store := by
  unfold Scan.Run.accept
  dsimp only
  split <;> exact ⟨rfl, rfl⟩

private theorem fetch_settles (run : Scan.Run) (statement : Statement) :
    ScanSettles run (run.fetch statement) := by
  unfold Scan.Run.fetch ScanSettles
  dsimp only
  cases session : run.scan.session with
  | returned => exact settles_internal _ _ _
  | held =>
      simp only [Session.execute]
      cases execution : run.store.execute statement with
      | mk response after =>
          have store : (run.store.execute statement).2 = after := by rw [execution]
          cases response with
          | rows rows =>
              dsimp only
              obtain ⟨session, same⟩ := accept_keeps
                { scan := { run.scan with session := .held, phase := .fetching }
                  store := after } rows
              rw [session, same, ← store]
              exact settles_execute _ _ _ (accept_own _ rows)
          | failure message =>
              -- the only failure in the words of the store, and the session goes back first
              have returned := settles_execute_release .held run.store statement
                (some (.remoteExecution .select message))
              rw [store] at returned
              exact returned

private theorem deliver_keeps (run : Scan.Run) :
    failure? run.deliver.1 = none ∧ run.deliver.2.scan.session = run.scan.session ∧
      run.deliver.2.store = run.store := by
  unfold Scan.Run.deliver
  split <;> exact ⟨rfl, rfl, rfl⟩

private theorem deliver_settles (run : Scan.Run) : ScanSettles run run.deliver := by
  obtain ⟨answer, session, store⟩ := deliver_keeps run
  unfold ScanSettles
  rw [answer, session, store]
  exact settles_none _ _

private theorem next_settles (run : Scan.Run) : ScanSettles run run.next := by
  unfold Scan.Run.next
  split
  · exact settles_internal _ _ _
  · have cursor : run.openCursor.1.scan.session = run.scan.session ∧
        run.openCursor.1.store = run.store := by
      unfold Scan.Run.openCursor
      split <;> exact ⟨rfl, rfl⟩
    obtain ⟨session, store⟩ := cursor
    have delivered := deliver_settles run.openCursor.1
    have fetched := fetch_settles run.openCursor.1 run.openCursor.2
    unfold ScanSettles at delivered fetched ⊢
    rw [session, store] at delivered fetched
    dsimp only
    split
    · exact delivered
    · cases fetch : run.openCursor.1.fetch run.openCursor.2 with
      | mk answer after =>
          rw [fetch] at fetched
          cases answer with
          | error failure => exact fetched
          | ok _ =>
              obtain ⟨delivery, session, store⟩ := deliver_keeps after
              dsimp only
              rw [delivery, session, store]
              exact fetched

private theorem rescan_settles (run : Scan.Run) : ScanSettles run run.rescan := by
  unfold Scan.Run.rescan
  dsimp only
  split
  · exact settles_internal _ _ _
  · split <;> exact settles_none _ _

private theorem scan_finish_settles (run : Scan.Run) :
    ScanSettles run ((.ok (), run.finish) : Except Error Unit × Scan.Run) := by
  unfold Scan.Run.finish ScanSettles
  dsimp only
  split
  · exact settles_none _ _
  · have returned := settles_release run.scan.session run.store none
    dsimp only
    rw [Session.release_fst]
    exact returned

/-!
## Writes
-/

abbrev WriteSettles {Output : Type} (run : Write.Run)
    (result : Except Error Output × Write.Run) : Prop :=
  Settles run.write.session.isHeld run.store (failure? result.1)
    result.2.write.session.isHeld result.2.store

private theorem send_settles (run : Write.Run) (operation : WriteOperation)
    (statement : Statement) :
    WriteSettles run (run.send operation statement) := by
  unfold Write.Run.send WriteSettles
  cases session : run.write.session with
  | returned =>
      simp only [Session.execute, session]
      exact settles_internal _ _ _
  | held =>
      simp only [Session.execute]
      cases execution : run.store.execute statement with
      | mk response after =>
          have store : (run.store.execute statement).2 = after := by rw [execution]
          cases response with
          | rows rows =>
              have kept := settles_answered true run.store statement
              rw [store] at kept
              simp only [session]
              exact kept
          | failure message =>
              have returned := settles_execute_release .held run.store statement
                (some (.remoteExecution (.write operation) message))
              rw [store] at returned
              simp only [Write.Run.release, session]
              exact returned

private theorem parameters_local (write : Write) (tuple : Tuple)
    (key : Option (KeyColumn × Datum)) :
    ∀ attempt ∈ write.parameters tuple key, Local attempt := by
  intro attempt member
  unfold Write.parameters at member
  obtain target | bound := List.mem_append.mp member
  · obtain ⟨ordinal, _, rfl⟩ := List.mem_map.mp target
    exact write.local_targetParameter tuple ordinal
  · obtain ⟨⟨column, datum⟩, _, rfl⟩ := List.mem_map.mp bound
    exact column.columnType.local_bind write.zone (some datum)

private theorem perform_settles (run : Write.Run) (operation : WriteOperation) (tuple : Tuple)
    (key : Option Datum) : WriteSettles run (run.perform operation tuple key) := by
  unfold Write.Run.perform
  dsimp only
  split
  · exact settles_internal _ _ _
  · split
    · exact settles_internal _ _ _
    · split
      · rename_i failure refused
        have own : failure.kind ≠ .remoteExecution := by
          unfold Write.boundKey at refused
          split at refused <;> cases refused
          exact nofun
        exact settles_failure _ _ own
      · rename_i boundKey _
        have locals := parameters_local run.write tuple boundKey
        cases binding : run.write.freshStatement.bindFrom 0
            (run.write.parameters tuple boundKey) with
        | mk stopped statement =>
            cases stopped with
            | some failure =>
                have own : failure.kind ≠ .remoteExecution :=
                  Statement.bindFrom_local locals (by rw [binding])
                exact settles_failure _ _ own
            | none =>
                exact send_settles { run with write.statement := some statement } operation
                  statement

private theorem write_finish_settles (run : Write.Run) :
    WriteSettles run ((.ok (), run.finish) : Except Error Unit × Write.Run) := by
  unfold Write.Run.finish Write.Run.release WriteSettles
  dsimp only
  split
  · exact settles_none _ _
  · have returned := settles_release run.write.session run.store none
    dsimp only
    rw [Session.release_fst]
    exact returned

/-!
## Every operation
-/

/-- Whatever an operation is asked to do settles its session. -/
theorem handle_settles (store : Store) (operation : Operation) (request : Request) :
    Settles operation.isHeld store (operation.handle store request).failure
      (operation.handle store request).operation.isHeld
      (operation.handle store request).store := by
  cases operation with
  | scan running =>
      cases request with
      | next => exact next_settles ⟨running, store⟩
      | rescan => exact rescan_settles ⟨running, store⟩
      | finish => exact scan_finish_settles ⟨running, store⟩
      | drop => exact settles_release running.session store none
      | insert | update | delete | execute | release => exact settles_none _ _
  | write running =>
      cases request with
      | insert tuple => exact perform_settles ⟨running, store⟩ .insert tuple none
      | update key tuple => exact perform_settles ⟨running, store⟩ .update tuple key
      | delete key tuple => exact perform_settles ⟨running, store⟩ .delete tuple key
      | finish => exact write_finish_settles ⟨running, store⟩
      | drop => exact settles_release running.session store none
      | next | rescan | execute | release => exact settles_none _ _
  | bare session =>
      cases request with
      | execute statement =>
          cases session with
          | held =>
              exact settles_answered true store statement
          | returned => exact settles_internal _ _ _
      | release =>
          have returned := settles_release session store none
          simp only [Operation.handle, Operation.isHeld, Session.release_fst]
          exact returned
      | drop => exact settles_release session store none
      | next | rescan | finish | insert | update | delete => exact settles_none _ _
  | dropped => cases request <;> exact settles_none _ _

theorem handle_dropped (store : Store) (request : Request) :
    Operation.dropped.handle store request = { operation := .dropped, store } := by
  cases request <;> rfl

end ForeignTable.Sessions
