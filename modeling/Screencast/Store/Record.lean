import Screencast.Store.Statement

/-!
# Records

A record type has a table of its own and says how its values are written as rows and read back. A
stored record is a record with the identifier of its row. The values of a row are checked in the
order of their columns before the record is put together.
-/

namespace Screencast

/-- A type whose values are stored in a table. -/
class Record (record : Type) where
  /-- The name of the type. -/
  name : String
  /-- The table of the type. -/
  table : String
  /-- The columns with their checks, in the order in which the type declares them. -/
  columns : List (String × ColumnType Unit)
  /-- The row of a record. -/
  encode : record → Except RowError Row
  /-- Read a record from a row, column after column as they are declared. -/
  read : Row → Except RowError record

namespace Record

variable {record : Type} [Record record]

/-- Check the values that stand in known columns, one after another. -/
def checkAll (columns : List (String × ColumnType Unit)) :
    List (String × Json) → Except RowError Unit
  | [] => Except.ok ()
  | (name, found) :: rest => do
    match columns.lookup name with
    | some column => column found
    | none => pure ()
    checkAll columns rest

/-- Read a record from a row. -/
def decode (row : Row) : Except RowError record := do
  checkAll (columns record) row
  read row

/-- Read a record from the values of its columns in the order in which they are declared. -/
def decodeItems (items : List Json) : Except RowError record := do
  let named := ((columns record).map (·.1)).zip items
  checkAll (columns record) named
  if items.length = (columns record).length then read (KeyMap.ofList named)
  else Except.error RowError.missingItems

/-- Read a record from a JSON value. -/
def decodeJson (value : Json) : Except RowError record :=
  match value with
  | Json.object row => decode row
  | Json.array items => decodeItems items
  | found => ColumnType.mismatch found ("struct " ++ name record)

end Record

/-- A record with the identifier of its row. -/
structure Stored (record : Type) where
  id : Uuid
  data : record
  deriving DecidableEq

namespace Stored

variable {record : Type} [Record record]

/-- The row of a stored record. -/
def toRow (stored : Stored record) : Except RowError Row := do
  let row ← Record.encode stored.data
  pure (row.put "id" (Row.ofUuid stored.id))

/-- Read a stored record from its row. -/
def decode (row : Row) : Except RowError (Stored record) := do
  let id ← row.required "id" ColumnType.uuid
  let data ← Record.decode (row.erase "id")
  pure { id, data }

end Stored

end Screencast
