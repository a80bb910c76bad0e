import Screencast.Store.Record

/-!
# Queries

A query is a statement together with what its rows mean. A query whose statement could not be
written is rejected: it fails without reaching the store.
-/

namespace Screencast

/-- A statement, the reader of its rows, and the failure of a statement that could not be
written. -/
structure Query (result : Type) where
  statement : Statement
  parser : List Row → Except QueryError result
  rejection : Option QueryError := none

namespace Query

variable {result other : Type}

/-- A query that fails with the given error. -/
def rejected (statement : Statement) (error : QueryError) : Query result where
  statement := statement
  parser := fun _ => Except.error (QueryError.execute "rejected statement")
  rejection := some error

/-- Apply a function to what the rows mean. -/
def map (change : result → other) (query : Query result) : Query other where
  statement := query.statement
  parser := fun rows => (query.parser rows).map change
  rejection := query.rejection

/-- Read the rows that were produced for a query. -/
def parse (query : Query result) (rows : List Row) : Except QueryError result :=
  match query.rejection with
  | some error => Except.error error
  | none => query.parser rows

/-- Read the rows of a query, or pass on the failure to get them. -/
def resolve (query : Query result) (rows : Except QueryError (List Row)) :
    Except QueryError result :=
  rows.bind query.parse

@[simp] theorem statement_map (change : result → other) (query : Query result) :
    (query.map change).statement = query.statement := rfl

@[simp] theorem parse_rejected (statement : Statement) (error : QueryError) (rows : List Row) :
    (rejected statement error : Query result).parse rows = Except.error error := rfl

/-- Turn the error of a row into the failure of a query. -/
def ofRow (result : Except RowError other) : Except QueryError other :=
  result.mapError QueryError.parse

end Query

namespace Stored

variable {record : Type} [Record record]

/-- Read every row. -/
def decodeAll (rows : List Row) : Except QueryError (List (Stored record)) :=
  rows.mapM fun row => Query.ofRow (decode row)

/-- The records of the rows that meet all conditions. -/
def select (record : Type) [Record record] (filter : List (String × Json)) (order : Option Order)
    (limit : Option Nat) : Query (List (Stored record)) where
  statement := Statement.select (Record.table record) filter order limit
  parser := decodeAll

/-- The first record whose column has the given value. -/
def selectBy (record : Type) [Record record] (column : String) (value : Json) :
    Query (Option (Stored record)) :=
  (select record [(column, value)] none (some 1)).map List.head?

/-- Write the data of a stored record over its row. -/
def update (stored : Stored record) : Query Unit :=
  let table := Record.table record
  match Record.encode stored.data with
  | Except.ok row =>
    { statement := Statement.update table stored.id (row.erase "id")
      parser := fun _ => Except.ok () }
  | Except.error error =>
    Query.rejected (Statement.update table stored.id []) (QueryError.parse error)

/-- Add a record under a new identifier, which the query yields. -/
def insert (id : Uuid) (data : record) : Query Uuid :=
  let table := Record.table record
  match Record.encode data with
  | Except.ok row =>
    { statement := Statement.insert table (row.put "id" (Row.ofUuid id))
      parser := fun _ => Except.ok id }
  | Except.error error => Query.rejected (Statement.insert table []) (QueryError.parse error)

end Stored

end Screencast
