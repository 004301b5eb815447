import ForeignTable.Remote.Session

/-! One request to the store. An execution appends to the record and takes one answer off
the script; handing out a session and giving it back only move their own counters. -/

set_option autoImplicit false

namespace ForeignTable.Remote

def Response.isRows : Response → Bool
  | rows _ => true
  | failure _ => false

namespace Store

/-- The answer that the execution after `index` others gets. Nothing scripted means no
rows. -/
def answer (store : Store) (index : Nat) : Response := store.responses.getD index (.rows [])

def execution (statement : Statement) : Execution :=
  ⟨statement.sql, statement.parameters, statement.consistency⟩

theorem execute_fst (store : Store) (statement : Statement) :
    (store.execute statement).1 = store.answer 0 := by
  unfold execute answer
  cases store.responses <;> rfl

@[simp] theorem executed_execute (store : Store) (statement : Statement) :
    (store.execute statement).2.executed = store.executed ++ [execution statement] := by
  unfold execute
  cases store.responses <;> rfl

@[simp] theorem answer_execute (store : Store) (statement : Statement) (index : Nat) :
    (store.execute statement).2.answer index = store.answer (index + 1) := by
  unfold execute answer
  cases store.responses <;> simp

@[simp] theorem preparing_execute (store : Store) (statement : Statement) :
    (store.execute statement).2.preparing = store.preparing := by
  unfold execute
  cases store.responses <;> rfl

@[simp] theorem released_execute (store : Store) (statement : Statement) :
    (store.execute statement).2.released = store.released := by
  unfold execute
  cases store.responses <;> rfl

end Store

namespace Session

theorem acquire_eq_ok {server : ServerOptions} {preparing : Bool} {store connected : Store}
    {session : Session} (success : acquire server preparing store = .ok (session, connected)) :
    session = .held ∧
      connected = { store with preparing := store.preparing ++ [preparing] } := by
  unfold acquire at success
  split at success
  · cases success
  · cases success
    exact ⟨rfl, rfl⟩

@[simp] theorem release_fst (session : Session) (store : Store) :
    (session.release store).1 = .returned := by
  cases session <;> rfl

@[simp] theorem executed_release (session : Session) (store : Store) :
    (session.release store).2.executed = store.executed := by
  cases session <;> rfl

@[simp] theorem answer_release (session : Session) (store : Store) (index : Nat) :
    (session.release store).2.answer index = store.answer index := by
  cases session <;> rfl

@[simp] theorem preparing_release (session : Session) (store : Store) :
    (session.release store).2.preparing = store.preparing := by
  cases session <;> rfl

/-- Giving back counts exactly the sessions that were still held. -/
@[simp] theorem released_release (session : Session) (store : Store) :
    (session.release store).2.released = store.released + session.isHeld.toNat := by
  cases session <;> rfl

end Session

end ForeignTable.Remote
