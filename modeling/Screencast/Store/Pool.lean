import Screencast.Duration
import Screencast.Store.Query

/-!
# The pool of connections

The tables of a store are lists of rows, oldest first. Connections are handed out up to a capacity
and counted when they are acquired and when they are released. A queued fault makes the next
operation of its kind fail.
-/

namespace Screencast

/-- A failure that is queued for the next operation of its kind. -/
inductive Fault
  | acquire
  | execute
  deriving DecidableEq, Repr

/-- Tables, and the connections through which they are reached. -/
structure Pool where
  tables : KeyMap (List Row) := []
  faults : List Fault := []
  capacity : Nat := 16
  timeoutMillis : Nat := 5000
  held : Nat := 0
  acquired : Nat := 0
  released : Nat := 0

namespace Pool

/-- The greatest number of connections that a pool can have. -/
def greatestCapacity : Nat := 2305843009213693951

/-- An empty pool for a number of connections, unless this is more than a pool can have. -/
def ofCapacity? (capacity timeoutMillis : Nat) : Option Pool :=
  if capacity ≤ greatestCapacity then some { capacity, timeoutMillis } else none

/-! ## Ordering rows -/

/-- Compare two values of a column. A missing value counts as `null`, `null` comes before anything
else, numbers are compared as doubles, and values of different kinds are not told apart. -/
def compareValues : Option Json → Option Json → Ordering
  | some (Json.number left), some (Json.number right) =>
    compare left.toBinary64.rank right.toBinary64.rank
  | some (Json.string left), some (Json.string right) => compare left right
  | some (Json.bool left), some (Json.bool right) => compare left.toNat right.toNat
  | none, none => Ordering.eq
  | none, some Json.null => Ordering.eq
  | some Json.null, none => Ordering.eq
  | some Json.null, some Json.null => Ordering.eq
  | none, some _ => Ordering.lt
  | some Json.null, some _ => Ordering.lt
  | some _, none => Ordering.gt
  | some _, some Json.null => Ordering.gt
  | some _, some _ => Ordering.eq

/-- Compare two rows in an order. -/
def compareRows (order : Order) (left right : Row) : Ordering :=
  let compared := compareValues (left.find? order.column) (right.find? order.column)
  if order.descending then compared.swap else compared

/-- Put a row into a list of rows that is given from the last to the first, behind the rows that do
not come after it. -/
def insertLast (order : Order) (row : Row) : List Row → List Row
  | [] => [row]
  | last :: rest =>
    if compareRows order row last = Ordering.lt then last :: insertLast order row rest
    else row :: last :: rest

/-- Sort rows, keeping those that are not told apart in their places. -/
def sortRows (order : Order) (rows : List Row) : List Row :=
  (rows.foldl (fun sorted row => insertLast order row sorted) []).reverse

/-! ## Running statements -/

/-- Whether a row meets all conditions. -/
def meets (filter : List (String × Json)) (row : Row) : Bool :=
  filter.all fun (column, value) =>
    match row.find? column with
    | some found => found.same value
    | none => false

/-- Whether a row has an identifier. -/
def hasId (id : Uuid) (row : Row) : Bool := meets [("id", Row.ofUuid id)] row

/-- The rows of a selection. -/
def selectRows (filter : List (String × Json)) (order : Option Order) (limit : Option Nat)
    (rows : List Row) : List Row :=
  let met := rows.filter (meets filter)
  let ordered :=
    match order with
    | some order => sortRows order met
    | none => met
  match limit with
  | some limit => ordered.take limit
  | none => ordered

/-- A row with new values in some columns. -/
def merge (row changes : Row) : Row :=
  changes.foldl (fun row (column, value) => row.put column value) row

/-- Change the first row with an identifier, and return it. -/
def updateFirst (id : Uuid) (changes : Row) : List Row → List Row × List Row
  | [] => ([], [])
  | row :: rest =>
    if hasId id row then (merge row changes :: rest, [merge row changes])
    else
      let (rest, changed) := updateFirst id changes rest
      (row :: rest, changed)

/-- The rows of a table. -/
def rows (pool : Pool) (table : String) : List Row := (pool.tables.find? table).getD []

/-- Replace the rows of a table. -/
def setRows (pool : Pool) (table : String) (rows : List Row) : Pool :=
  { pool with tables := pool.tables.put table rows }

@[simp] theorem rows_setRows (pool : Pool) (table other : String) (rows : List Row) :
    (pool.setRows table rows).rows other = if table = other then rows else pool.rows other := by
  simp only [Pool.rows, setRows, KeyMap.find?_put]
  split <;> rfl

/-- Make sure that there is a table. It is empty if there was none. -/
def withTable (pool : Pool) (table : String) : Pool := pool.setRows table (pool.rows table)

@[simp] theorem rows_withTable (pool : Pool) (table other : String) :
    (pool.withTable table).rows other = pool.rows other := by
  rw [withTable, rows_setRows]
  split
  next same => rw [same]
  next => rfl

/-- Add rows at the end of a table. -/
def seed (pool : Pool) (table : String) (rows : List Row) : Pool :=
  pool.setRows table (pool.rows table ++ rows)

/-- Run a statement on the tables. The result is the rows of the statement and the new tables, among
which its own is then. -/
def apply (pool : Pool) : Statement → List Row × Pool
  | Statement.select table filter order limit =>
    (selectRows filter order limit (pool.rows table), pool.withTable table)
  | Statement.insert table row => ([row], pool.seed table [row])
  | Statement.update table id changes =>
    let (rows, changed) := updateFirst id changes (pool.rows table)
    (changed, pool.setRows table rows)

@[simp] theorem apply_select (pool : Pool) (table : String) (filter : List (String × Json))
    (order : Option Order) (limit : Option Nat) :
    (pool.apply (Statement.select table filter order limit)).2 = pool.withTable table := rfl

/-! ## Connections -/

/-- Queue a fault. -/
def inject (pool : Pool) (fault : Fault) : Pool := { pool with faults := pool.faults ++ [fault] }

/-- Take the oldest fault of a kind from the queue, if there is one. -/
def takeFault (pool : Pool) (fault : Fault) : Option Pool :=
  if pool.faults.contains fault then some { pool with faults := pool.faults.erase fault } else none

/-- The failure of an acquisition for which a fault was queued. -/
def acquireFault : QueryError := QueryError.acquire "injected acquisition fault"

/-- The failure of a statement for which a fault was queued. -/
def executeFault (statement : Statement) : QueryError :=
  QueryError.execute ("injected fault executing `" ++ statement.text ++ "`")

/-- The failure of an acquisition that waited in vain. -/
def acquireTimeout (pool : Pool) : QueryError :=
  QueryError.acquire ("no connection available within " ++ Duration.text pool.timeoutMillis)

/-- Whether a connection can be handed out. -/
def isAvailable (pool : Pool) : Bool := pool.held < pool.capacity

/-- Hand out a connection. -/
def grant (pool : Pool) : Pool :=
  { pool with held := pool.held + 1, acquired := pool.acquired + 1 }

/-- What asking for a connection leads to. -/
inductive Acquisition
  | granted
  | faulted
  | mustWait
  deriving DecidableEq, Repr

/-- Ask for a connection. -/
def request (pool : Pool) : Acquisition × Pool :=
  match pool.takeFault Fault.acquire with
  | some pool => (Acquisition.faulted, pool)
  | none =>
    if pool.isAvailable then (Acquisition.granted, pool.grant) else (Acquisition.mustWait, pool)

/-- Acquire a connection, when nobody else returns one in the meantime. -/
def acquire (pool : Pool) : Except QueryError Unit × Pool :=
  match pool.request with
  | (Acquisition.granted, pool) => (Except.ok (), pool)
  | (Acquisition.faulted, pool) => (Except.error acquireFault, pool)
  | (Acquisition.mustWait, pool) => (Except.error pool.acquireTimeout, pool)

/-- Run a statement on a connection. -/
def execute (pool : Pool) (statement : Statement) : Except QueryError (List Row) × Pool :=
  match pool.takeFault Fault.execute with
  | some pool => (Except.error (executeFault statement), pool)
  | none =>
    let (rows, pool) := pool.apply statement
    (Except.ok rows, pool)

/-- Return a connection. -/
def release (pool : Pool) : Pool :=
  { pool with held := pool.held - 1, released := pool.released + 1 }

/-- Lose a connection without returning it: it can be handed out again, but does not count as
released. -/
def abandon (pool : Pool) : Pool := { pool with held := pool.held - 1 }

/-- The number of connections in use, by the counters. -/
def inUse (pool : Pool) : Nat := pool.acquired - pool.released

/-! ## Records -/

variable {record : Type} [Record record]

/-- Add a stored record to its table. -/
def seedRecord (pool : Pool) (stored : Stored record) : Except QueryError Pool := do
  let row ← Query.ofRow stored.toRow
  pure (pool.seed (Record.table record) [row])

/-- All records of a type. -/
def records (pool : Pool) (record : Type) [Record record] :
    Except QueryError (List (Stored record)) :=
  Stored.decodeAll (pool.rows (Record.table record))

end Pool

end Screencast
