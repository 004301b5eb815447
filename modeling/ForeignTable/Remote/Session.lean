import ForeignTable.Remote.Store

/-!
# Sessions

An operation borrows one session of the store and gives it back exactly once, whatever
path it ends on. Giving back a session that was given back already does nothing.
-/

set_option autoImplicit false

namespace ForeignTable.Remote

inductive Session where
  | held
  | returned
deriving DecidableEq

namespace Session

def isHeld : Session → Bool
  | held => true
  | returned => false

def acquire (server : ServerOptions) (preparing : Bool) (store : Store) :
    Except Error (Session × Store) :=
  match store.connectFailure with
  | some message =>
      let host := server.host
      let port := server.port
      .error (.remoteExecution .connect s!"{host}:{port}: {message}")
  | none => .ok (held, { store with preparing := store.preparing ++ [preparing] })

def release : Session → Store → Session × Store
  | held, store => (returned, { store with released := store.released + 1 })
  | returned, store => (returned, store)

def execute (session : Session) (statement : Statement) (store : Store) :
    Except Error (Response × Store) :=
  match session with
  | held => .ok (store.execute statement)
  | returned => .error (.internal .releasedSession)

def describe (session : Session) : String :=
  let answer := if session.isHeld then "true" else "false"
  s!"SessionGuard \x7b held: {answer} \x7d"

end Session

end ForeignTable.Remote
