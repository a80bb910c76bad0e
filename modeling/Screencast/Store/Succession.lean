import Screencast.Store.Clients

/-!
# Pools one after another

A pool can be replaced by a new one. A client that holds a connection of an old pool keeps it, until
it returns it or acquires one of the new pool.
-/

namespace Screencast

/-- The clients of the pool at present, and those of the pools before it, newest first. -/
structure Succession where
  current : Clients := {}
  retired : List Clients := []

namespace Succession

/-- The pool at present. -/
def pool (succession : Succession) : Pool := succession.current.pool

/-- Change the pool at present. -/
def setPool (succession : Succession) (pool : Pool) : Succession :=
  { succession with current := { succession.current with pool } }

/-- Begin with a new pool. -/
def replace (succession : Succession) : Succession where
  current := {}
  retired := succession.current :: succession.retired

/-- Let the clients do something among whom it can be done. -/
def among? {result : Type} (succession : Succession)
    (change : Clients → Option (result × Clients)) : Option (result × Succession) :=
  match change succession.current with
  | some (outcome, current) => some (outcome, { succession with current })
  | none =>
    (old succession.retired).map fun (outcome, retired) => (outcome, { succession with retired })
where
  /-- The first of the retired clients among whom it can be done. -/
  old : List Clients → Option (result × List Clients)
    | [] => none
    | clients :: rest =>
      match change clients with
      | some (outcome, changed) => some (outcome, changed :: rest)
      | none => (old rest).map fun (outcome, changed) => (outcome, clients :: changed)

/-- Acquire a connection of the pool at present. One of an old pool is lost. -/
def acquire (succession : Succession) (name : String) : Except QueryError Unit × Succession :=
  match succession.current.acquire name with
  | (Except.error error, current) => (Except.error error, { succession with current })
  | (Except.ok (), current) =>
    (Except.ok (),
      { current, retired := succession.retired.map fun old => (old.drop? name).getD old })

/-- Run a statement on the connection of a client, if it holds one. -/
def execute? (succession : Succession) (name : String) (statement : Statement) :
    Option (Except QueryError (List Row) × Succession) :=
  succession.among? fun clients => clients.execute? name statement

/-- Return the connection of a client, if it holds one. -/
def release? (succession : Succession) (name : String) : Option Succession :=
  (succession.among? fun clients => (clients.release? name).map fun after => ((), after)).map (·.2)

/-- Lose the connection of a client, if it holds one. -/
def drop? (succession : Succession) (name : String) : Option Succession :=
  (succession.among? fun clients => (clients.drop? name).map fun after => ((), after)).map (·.2)

end Succession

end Screencast
