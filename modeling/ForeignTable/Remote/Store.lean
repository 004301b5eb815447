import ForeignTable.Options
import ForeignTable.Remote.Keyspace
import ForeignTable.Remote.Statement

/-!
# The remote store

A scripted store: it answers executions from a queue, describes its keyspaces, and keeps a
record of everything that was asked of it. Requests return their answer together with the
store afterwards.
-/

set_option autoImplicit false

namespace ForeignTable.Remote

/-- The answer to an execution: all rows, or a failure in the words of the store. -/
inductive Response where
  | rows (rows : List Row)
  | failure (message : String)

structure Execution where
  sql : String
  parameters : List (Option Value)
  consistency : Consistency

structure Store where
  /-- The keyspaces; of several with one name the last counts. -/
  keyspaces : List Keyspace := []
  /-- The answers to the next executions. -/
  responses : List Response := []
  /-- The failure of every look-up of a keyspace. -/
  metadataFailure : Option String := none
  /-- The failure of every connection. -/
  connectFailure : Option String := none
  executed : List Execution := []
  /-- One entry per session handed out: whether it was asked for to prepare statements. -/
  preparing : List Bool := []
  /-- The number of sessions given back. -/
  released : Nat := 0

namespace Store

def acquired (store : Store) : Nat := store.preparing.length

def outstanding (store : Store) : Nat := store.acquired - store.released

def enqueue (store : Store) (response : Response) : Store :=
  { store with responses := store.responses ++ [response] }

/-- Records a statement and answers it from the queue; an empty queue means no rows. -/
def execute (store : Store) (statement : Statement) : Response × Store :=
  let execution := ⟨statement.sql, statement.parameters, statement.consistency⟩
  let recorded := { store with executed := store.executed ++ [execution] }
  match store.responses with
  | [] => (.rows [], recorded)
  | response :: later => (response, { recorded with responses := later })

def keyspace? (store : Store) (name : String) : Except String (Option Keyspace) :=
  match store.metadataFailure with
  | some message => .error message
  | none => .ok (store.keyspaces.reverse.find? fun keyspace => keyspace.name == name)

end Store

end ForeignTable.Remote
