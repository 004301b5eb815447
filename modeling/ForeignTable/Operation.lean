/-!
# Operations

The writes that a foreign table takes, and the requests that a remote store answers.
-/

set_option autoImplicit false

namespace ForeignTable

inductive WriteOperation where
  | insert
  | update
  | delete
deriving DecidableEq

namespace WriteOperation

def all : List WriteOperation := [insert, update, delete]

def keyword : WriteOperation → String
  | insert => "INSERT"
  | update => "UPDATE"
  | delete => "DELETE"

/-- True for the writes that address an existing row by its key. -/
def needsKey : WriteOperation → Bool
  | insert => false
  | update | delete => true

theorem mem_all (operation : WriteOperation) : operation ∈ all := by
  cases operation <;> decide

end WriteOperation

inductive RemoteOperation where
  | connect
  | select
  | write (operation : WriteOperation)
deriving DecidableEq

def RemoteOperation.keyword : RemoteOperation → String
  | connect => "CONNECT"
  | select => "SELECT"
  | write operation => operation.keyword

end ForeignTable
