import ForeignTable.Import
import ForeignTable.Proofs.Attempt
import ForeignTable.Proofs.Sessions.Operation

/-! Any number of operations on one store, driven in any order. The ledger has one entry for
each attempt to open an operation and puts down to it the sessions that were handed out and
given back while it was driven. -/

set_option autoImplicit false

namespace ForeignTable.Sessions

open Remote (Store Session Response Keyspace)

/-- An attempt to open an operation. An import is over when it has been opened. -/
inductive Opening where
  | scan (server : ServerOptions) (relation : Relation) (plan : ScanPlan) (zone : Zone)
  | write (server : ServerOptions) (relation : Relation) (plan : WritePlan) (zone : Zone)
  | bare (server : ServerOptions) (preparing : Bool)
  | importing (server : ServerOptions) (request : Import.Request)

def Opening.attempt (store : Store) : Opening → Result
  | scan server relation plan zone =>
      match Scan.start server relation plan zone store with
      | .error failure => ⟨some failure, .dropped, store⟩
      | .ok run => { operation := .scan run.scan, store := run.store }
  | write server relation plan zone =>
      match Write.start server relation plan zone store with
      | .error failure => ⟨some failure, .dropped, store⟩
      | .ok run => { operation := .write run.write, store := run.store }
  | bare server preparing =>
      match Session.acquire server preparing store with
      | .error failure => ⟨some failure, .dropped, store⟩
      | .ok (session, after) => { operation := .bare session, store := after }
  | importing server request =>
      let (answer, after) := Import.ofStore server request store
      ⟨failure? answer, .dropped, after⟩

/-- The part of a store that only its script decides. -/
structure Script where
  keyspaces : List Keyspace
  responses : List Response
  metadataFailure : Option String
  connectFailure : Option String

def Script.apply (script : Script) (store : Store) : Store :=
  { store with
    keyspaces := script.keyspaces
    responses := script.responses
    metadataFailure := script.metadataFailure
    connectFailure := script.connectFailure }

/-- An operation with the number of sessions that were handed out and given back for it. -/
structure Entry where
  operation : Operation := .dropped
  borrowed : Nat := 0
  returned : Nat := 0

def Entry.charge (entry : Entry) (before : Store) (result : Result) : Entry where
  operation := result.operation
  borrowed := entry.borrowed + (result.store.acquired - before.acquired)
  returned := entry.returned + (result.store.released - before.released)

def total (value : Entry → Nat) : List Entry → Nat
  | [] => 0
  | entry :: rest => value entry + total value rest

/-- The store and an entry for each attempt to open an operation, in their order. -/
structure Pool where
  store : Store
  entries : List Entry := []

/-- What can happen next: an operation is opened, an operation is called, or the script of
the store is changed. -/
inductive Event where
  | opens (opening : Opening)
  | calls (position : Nat) (request : Request)
  | scripts (script : Script)

namespace Pool

def step (pool : Pool) : Event → Option Error × Pool
  | .opens opening =>
      let result := opening.attempt pool.store
      (result.failure,
        { store := result.store, entries := pool.entries ++ [.charge {} pool.store result] })
  | .calls position request =>
      match pool.entries[position]? with
      | none => (none, pool)
      | some entry =>
          let result := entry.operation.handle pool.store request
          (result.failure,
            { store := result.store
              entries := pool.entries.set position (entry.charge pool.store result) })
  | .scripts script => (none, { pool with store := script.apply pool.store })

def run (pool : Pool) : List Event → Pool
  | [] => pool
  | event :: rest => (pool.step event).2.run rest

def position (pool : Pool) : Event → Nat
  | .calls position _ => position
  | .opens _ | .scripts _ => pool.entries.length

def held (pool : Pool) : Nat := pool.entries.countP fun entry => entry.operation.isHeld

end Pool

/-- An operation borrowed one session, unless it was never opened, and gave it back exactly
when it no longer holds it. -/
structure Entry.Sound (entry : Entry) : Prop where
  once : entry.borrowed = 1 ∨ entry.borrowed = 0 ∧ entry.operation = .dropped
  balanced : entry.borrowed = entry.returned + entry.operation.isHeld.toNat

/-- Every session that was handed out or given back since the start is put down to one entry,
and every entry is sound. -/
structure Pool.Balanced (start : Store) (pool : Pool) : Prop where
  borrowed : pool.store.acquired = start.acquired + total Entry.borrowed pool.entries
  returned : pool.store.released = start.released + total Entry.returned pool.entries
  sound : ∀ entry ∈ pool.entries, entry.Sound

/-!
## Opening an operation
-/

variable {start store after : Store} {result : Result} {pool : Pool}

/-- An attempt to open an operation either changes nothing or hands out one session, which
is held or was given back. -/
structure Opens (store : Store) (result : Result) : Prop where
  acquired : result.store.acquired = store.acquired ∧ result.operation = .dropped ∨
    result.store.acquired = store.acquired + 1
  released : result.store.released + result.operation.isHeld.toNat + store.acquired =
    store.released + result.store.acquired
  remote : ∀ error ∈ result.failure,
    error.kind = .remoteExecution → result.operation.isHeld = false

private theorem opens_nothing (store : Store) (failure : Option Error) :
    Opens store ⟨failure, .dropped, store⟩ :=
  ⟨.inl ⟨rfl, rfl⟩, rfl, fun _ _ _ => rfl⟩

private theorem opens_held {server : ServerOptions} {preparing : Bool} {session : Session}
    {operation : Operation}
    (success : Session.acquire server preparing store = .ok (session, after))
    (holds : operation.isHeld = session.isHeld) :
    Opens store { operation, store := after } := by
  obtain ⟨rfl, rfl⟩ := Session.acquire_eq_ok success
  have acquired : (store.preparing ++ [preparing]).length = store.preparing.length + 1 :=
    List.length_append
  refine ⟨.inr acquired, ?_, nofun⟩
  rw [holds, Session.isHeld, Bool.toNat_true]
  simp only [Store.acquired, acquired]
  omega

/-- What an import leaves behind: it executes nothing, and it gives back the one session that
it is handed, if any. -/
structure ImportReturns (store after : Store) : Prop where
  executed : after.executed = store.executed
  connected : store.connectFailure = none →
    after.acquired = store.acquired + 1 ∧ after.released = store.released + 1
  refused : store.connectFailure ≠ none → after = store

private theorem ofStore_returns (server : ServerOptions) (request : Import.Request)
    (store : Store) :
    ImportReturns store (Import.ofStore server request store).2 := by
  unfold Import.ofStore
  cases failing : store.connectFailure with
  | some message =>
      simp only [Session.acquire, failing]
      exact ⟨rfl, fun working => (nomatch failing.symm.trans working), fun _ => rfl⟩
  | none =>
      have acquired : (store.preparing ++ [false]).length = store.preparing.length + 1 :=
        List.length_append
      have refused : store.connectFailure ≠ none → False := fun broken => broken failing
      simp only [Session.acquire, failing]
      -- the session is back before the metadata is looked at
      split <;> exact ⟨rfl, fun _ => ⟨acquired, rfl⟩, fun broken => (refused broken).elim⟩

private theorem attempt_opens (store : Store) (opening : Opening) :
    Opens store (opening.attempt store) := by
  cases opening with
  | scan server relation plan zone =>
      simp only [Opening.attempt]
      cases started : Scan.start server relation plan zone store with
      | error failure => exact opens_nothing _ _
      | ok run =>
          obtain ⟨⟨session, connected⟩, success, shape⟩ := Attempt.bind_eq_ok_iff.mp started
          cases shape
          exact opens_held success rfl
  | write server relation plan zone =>
      simp only [Opening.attempt]
      cases started : Write.start server relation plan zone store with
      | error failure => exact opens_nothing _ _
      | ok run =>
          obtain ⟨⟨session, connected⟩, success, shape⟩ := Attempt.bind_eq_ok_iff.mp started
          cases shape
          exact opens_held success rfl
  | bare server preparing =>
      simp only [Opening.attempt]
      cases success : Session.acquire server preparing store with
      | error failure => exact opens_nothing _ _
      | ok result => exact opens_held success rfl
  | importing server request =>
      have returns := ofStore_returns server request store
      simp only [Opening.attempt]
      by_cases working : store.connectFailure = none
      · obtain ⟨acquired, released⟩ := returns.connected working
        refine ⟨.inr acquired, ?_, fun _ _ _ => rfl⟩
        rw [acquired, released, Operation.isHeld, Bool.toNat_false]
        omega
      · rw [returns.refused working]
        exact opens_nothing _ _

/-!
## Steps and runs
-/

private theorem Opens.sound (opens : Opens store result) :
    (Entry.charge {} store result).Sound := by
  obtain ⟨acquired, released, _⟩ := opens
  obtain ⟨same, gone⟩ | more := acquired
  · rw [gone, Operation.isHeld, Bool.toNat_false] at released
    constructor
    · exact .inr ⟨by simp only [Entry.charge]; omega, gone⟩
    · simp only [Entry.charge, gone, Operation.isHeld, Bool.toNat_false]
      omega
  · have atMostOne := Bool.toNat_le result.operation.isHeld
    constructor
    · exact .inl (by simp only [Entry.charge]; omega)
    · simp only [Entry.charge]
      omega

private theorem Entry.Sound.settle {entry : Entry} (sound : entry.Sound)
    (settles : Settles entry.operation.isHeld store result.failure result.operation.isHeld
      result.store)
    (gone : entry.operation = .dropped → result.operation = .dropped) :
    (entry.charge store result).Sound := by
  obtain ⟨once, balanced⟩ := sound
  have fewer := settles.toNat_le
  obtain ⟨acquired, _, released, _⟩ := settles
  constructor
  · simp only [Entry.charge, acquired, Nat.sub_self, Nat.add_zero]
    exact once.imp id fun ⟨zero, dropped⟩ => ⟨zero, gone dropped⟩
  · simp only [Entry.charge]
    omega

private theorem Settles.released_le {before kept : Bool} {failure : Option Error}
    (settles : Settles before store failure kept after) : store.released ≤ after.released := by
  have released := settles.released
  have fewer := settles.toNat_le
  omega

private theorem Opens.released_le (opens : Opens store result) :
    store.released ≤ result.store.released ∧ store.acquired ≤ result.store.acquired := by
  have released := opens.released
  have atMostOne := Bool.toNat_le result.operation.isHeld
  obtain ⟨same, gone⟩ | more := opens.acquired
  · rw [gone, Operation.isHeld, Bool.toNat_false] at released
    omega
  · omega

private theorem total_concat (value : Entry → Nat) (entries : List Entry) (entry : Entry) :
    total value (entries ++ [entry]) = total value entries + value entry := by
  induction entries with
  | nil => simp [total]
  | cons first rest ih => simp only [List.cons_append, total, ih, Nat.add_assoc]

/-- Replacing an entry changes a total by the difference of the two entries. -/
theorem total_set (value : Entry → Nat) {entries : List Entry} {position : Nat}
    {entry : Entry} (found : entries[position]? = some entry) (replacement : Entry) :
    total value (entries.set position replacement) + value entry =
      total value entries + value replacement := by
  induction entries generalizing position with
  | nil => cases found
  | cons first rest ih =>
      cases position with
      | zero =>
          cases found
          simp only [List.set_cons_zero, total]
          omega
      | succ position =>
          have shifted := ih found
          simp only [List.set_cons_succ, total]
          omega

private theorem opens_balanced (balanced : pool.Balanced start) (opening : Opening) :
    (pool.step (.opens opening)).2.Balanced start := by
  have opens := attempt_opens pool.store opening
  obtain ⟨released, acquired⟩ := opens.released_le
  obtain ⟨borrowed, returned, sound⟩ := balanced
  constructor
  · simp only [Pool.step, Entry.charge, total_concat]
    omega
  · simp only [Pool.step, Entry.charge, total_concat]
    omega
  · intro entry member
    obtain earlier | added := List.mem_append.mp member
    · exact sound entry earlier
    · rw [List.mem_singleton.mp added]
      exact opens.sound

private theorem calls_balanced (balanced : pool.Balanced start) (position : Nat)
    (request : Request) :
    (pool.step (.calls position request)).2.Balanced start := by
  simp only [Pool.step]
  cases found : pool.entries[position]? with
  | none => exact balanced
  | some entry =>
      have settles := handle_settles pool.store entry.operation request
      have gone : entry.operation = .dropped →
          (entry.operation.handle pool.store request).operation = .dropped := by
        intro dropped
        rw [dropped, handle_dropped]
      have acquired := settles.acquired
      have released := settles.released_le
      obtain ⟨borrowed, returned, sound⟩ := balanced
      let result := entry.operation.handle pool.store request
      have charged := fun value => total_set value found (entry.charge pool.store result)
      constructor
      · have sum := charged Entry.borrowed
        simp only [Entry.charge, result] at sum ⊢
        omega
      · have sum := charged Entry.returned
        simp only [Entry.charge, result] at sum ⊢
        omega
      · intro other member
        obtain unchanged | rfl := List.mem_or_eq_of_mem_set member
        · exact sound other unchanged
        · exact (sound entry (List.mem_of_getElem? found)).settle settles gone

private theorem step_balanced (balanced : pool.Balanced start) (event : Event) :
    (pool.step event).2.Balanced start := by
  cases event with
  | opens opening => exact opens_balanced balanced opening
  | calls position request => exact calls_balanced balanced position request
  | scripts script => exact ⟨balanced.borrowed, balanced.returned, balanced.sound⟩

private theorem run_balanced (balanced : pool.Balanced start) (events : List Event) :
    (pool.run events).Balanced start := by
  induction events generalizing pool with
  | nil => exact balanced
  | cons event rest ih => exact ih (step_balanced balanced event)

/-- What sound entries borrowed is what they returned and still hold. -/
theorem total_borrowed {entries : List Entry} (sound : ∀ entry ∈ entries, entry.Sound) :
    total Entry.borrowed entries = total Entry.returned entries +
      entries.countP fun entry => entry.operation.isHeld := by
  induction entries with
  | nil => rfl
  | cons entry rest ih =>
      obtain ⟨first, others⟩ := List.forall_mem_cons.mp sound
      have balanced := first.balanced
      rw [total, total, List.countP_cons, ih others]
      cases held : entry.operation.isHeld with
      | false =>
          rw [held, Bool.toNat_false] at balanced
          simp only [Bool.false_eq_true, if_false]
          omega
      | true =>
          rw [held, Bool.toNat_true] at balanced
          simp only [if_true]
          omega

/-- After a failure in the words of the store the operation concerned holds no session. -/
theorem step_remote (pool : Pool) (event : Event) {failure : Error}
    (failed : (pool.step event).1 = some failure) (remote : failure.kind = .remoteExecution) :
    ∃ entry, (pool.step event).2.entries[pool.position event]? = some entry ∧
      entry.operation.isHeld = false := by
  cases event with
  | opens opening =>
      refine ⟨_, List.getElem?_concat_length, ?_⟩
      exact (attempt_opens pool.store opening).remote failure failed remote
  | calls position request =>
      simp only [Pool.step] at failed ⊢
      cases found : pool.entries[position]? with
      | none =>
          rw [found] at failed
          cases failed
      | some entry =>
          rw [found] at failed
          obtain ⟨inside, _⟩ := List.getElem?_eq_some_iff.mp found
          refine ⟨_, List.getElem?_set_self inside, ?_⟩
          exact (handle_settles pool.store entry.operation request).remote failure failed remote
  | scripts script => cases failed

/-- However many operations are opened on a store and however they are driven, the sessions
that are not back are those that operations hold, each operation has its session back once it
has been dropped, and a failure in the words of the store comes after the session concerned
is back. An import gives its session back as well. -/
theorem sessions_returned_once (idle : start.released = start.acquired) {events : List Event}
    (driven : Pool.run { store := start } events = pool) :
    pool.store.acquired = pool.store.released + pool.held ∧
      pool.Balanced start ∧
      (∀ entry ∈ pool.entries, entry.operation = .dropped → entry.returned = entry.borrowed) ∧
      (∀ event failure, (pool.step event).1 = some failure →
        failure.kind = .remoteExecution →
        ∃ entry, (pool.step event).2.entries[pool.position event]? = some entry ∧
          entry.operation.isHeld = false) ∧
      ∀ server request,
        ImportReturns pool.store (Import.ofStore server request pool.store).2 := by
  have begins : Pool.Balanced start { store := start } := by
    refine ⟨rfl, rfl, ?_⟩
    intro entry member
    cases member
  have balanced : pool.Balanced start := driven ▸ run_balanced begins events
  refine ⟨?_, balanced, ?_, ?_, fun server request => ofStore_returns server request _⟩
  · have totals := total_borrowed balanced.sound
    rw [balanced.borrowed, balanced.returned, totals, idle, Pool.held, Nat.add_assoc]
  · intro entry member dropped
    have returned := (balanced.sound entry member).balanced
    rw [dropped] at returned
    exact returned.symm
  · intro event failure failed remote
    exact step_remote pool event failed remote

def tokens : Relation where
  schema := "shop"
  name := "tokens"
  columns := []
  dense := trivial

def failingStore : Store := { responses := [.failure "timeout"] }

/-- A bare session and a scan in turn; the scan fails and is ended and dropped all the same,
and the session is released twice. -/
def tokenEvents : List Event :=
  [.opens (.bare {} true), .opens (.scan {} tokens (.ofRelation tokens .everything) Zone.utc),
    .calls 1 .next, .calls 0 .release, .calls 1 .finish, .calls 0 .release, .calls 1 .drop]

theorem sessions_returned_once_tokens :
    ∃ pool, failingStore.released = failingStore.acquired ∧
      Pool.run { store := failingStore } tokenEvents = pool ∧ pool.store.released = 2 ∧
      pool.store.acquired = pool.store.released + pool.held ∧
      pool.Balanced failingStore ∧
      (∀ entry ∈ pool.entries, entry.operation = .dropped → entry.returned = entry.borrowed) ∧
      (∀ event failure, (pool.step event).1 = some failure →
        failure.kind = .remoteExecution →
        ∃ entry, (pool.step event).2.entries[pool.position event]? = some entry ∧
          entry.operation.isHeld = false) ∧
      ∀ server request,
        ImportReturns pool.store (Import.ofStore server request pool.store).2 :=
  ⟨_, rfl, rfl, rfl, sessions_returned_once rfl rfl⟩

end ForeignTable.Sessions
