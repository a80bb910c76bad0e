import Screencast.Store.Pool

/-!
# Clients of a pool

Connections are held by clients with names. A client that acquires a connection while it holds one
loses the old one as soon as it gets the new one.
-/

namespace Screencast

/-- A pool with the names of the clients that hold a connection. -/
structure Clients where
  pool : Pool := {}
  holders : List String := []

namespace Clients

/-- Whether a client holds a connection. -/
def holds (clients : Clients) (name : String) : Bool := clients.holders.contains name

/-- Change the pool. -/
def withPool (clients : Clients) (change : Pool → Pool) : Clients :=
  { clients with pool := change clients.pool }

/-- Acquire a connection for a client. -/
def acquire (clients : Clients) (name : String) : Except QueryError Unit × Clients :=
  match clients.pool.acquire with
  | (Except.error error, pool) => (Except.error error, { clients with pool })
  | (Except.ok (), pool) =>
    if clients.holds name then (Except.ok (), { clients with pool := pool.abandon })
    else (Except.ok (), { pool, holders := name :: clients.holders })

/-- Run a statement on the connection of a client, if it holds one. -/
def execute? (clients : Clients) (name : String) (statement : Statement) :
    Option (Except QueryError (List Row) × Clients) :=
  if clients.holds name then
    let (rows, pool) := clients.pool.execute statement
    some (rows, { clients with pool })
  else none

/-- Return the connection of a client, if it holds one. -/
def release? (clients : Clients) (name : String) : Option Clients :=
  if clients.holds name then
    some { pool := clients.pool.release, holders := clients.holders.erase name }
  else none

/-- Lose the connection of a client without returning it, if it holds one. -/
def drop? (clients : Clients) (name : String) : Option Clients :=
  if clients.holds name then
    some { pool := clients.pool.abandon, holders := clients.holders.erase name }
  else none

end Clients

end Screencast
