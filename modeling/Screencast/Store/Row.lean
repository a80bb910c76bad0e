import Screencast.Decimal.Bounds
import Screencast.Failure
import Screencast.Json.Printer
import Screencast.Timestamp
import Screencast.Uuid

/-!
# Rows and their columns

A row maps column names to JSON values. A column type reads its values, or says what it found in
their place.
-/

namespace Screencast

/-- A row of a table. -/
abbrev Row := KeyMap Json

namespace Row

/-- What a JSON value is, as error details name it. -/
def describe : Json → String
  | Json.null => "null"
  | Json.bool value => "boolean `" ++ (if value then "true" else "false") ++ "`"
  | Json.number (Number.integer value) => "integer `" ++ toString value ++ "`"
  | Json.number (Number.double value) => "floating point `" ++ value.text ++ "`"
  | Json.string text => "string " ++ Text.quoted text
  | Json.array _ => "sequence"
  | Json.object _ => "map"

/-- A JSON value as a row. -/
def ofJson : Json → Except RowError Row
  | Json.object row => Except.ok row
  | value => Except.error (RowError.notAnObject value.compact)

end Row

/-- A reader of the values of a column. -/
abbrev ColumnType (value : Type) := Json → Except RowError value

namespace ColumnType

variable {value : Type}

/-- The error for a value of the wrong kind. -/
def mismatch (found : Json) (expected : String) : Except RowError value :=
  Except.error (RowError.wrongType (Row.describe found) expected)

/-- A column of texts. -/
def text : ColumnType String
  | Json.string text => Except.ok text
  | found => mismatch found "a string"

/-- A column of truth values. -/
def bool : ColumnType Bool
  | Json.bool value => Except.ok value
  | found => mismatch found "a boolean"

/-- A column of integers between two bounds, both included. -/
def integer (expected : String) (low high : Int) : ColumnType Int
  | Json.number (Number.integer value) =>
    if low ≤ value ∧ value ≤ high then Except.ok value
    else Except.error (RowError.outOfRange value expected)
  | found => mismatch found expected

/-- A column of signed integers of 64 bits. -/
def long : ColumnType Int := integer "i64" Bounds.leastSigned Bounds.greatestSigned

/-- A column of unsigned integers of 32 bits. -/
def word : ColumnType Nat := fun found =>
  (integer "u32" 0 Bounds.greatestWord found).map Int.toNat

/-- A column of identifiers. -/
def uuid : ColumnType Uuid
  | Json.string text =>
    match Uuid.parse? text with
    | some id => Except.ok id
    | none => Except.error RowError.malformedUuid
  | found => mismatch found "a formatted UUID string"

/-- A column of timestamps. -/
def timestamp : ColumnType Timestamp
  | Json.string text =>
    match Timestamp.parse? text with
    | some time => Except.ok time
    | none => Except.error RowError.malformedTimestamp
  | found => mismatch found "an RFC3339-formatted `OffsetDateTime`"

/-- A column that may hold `null`. -/
def optional (column : ColumnType value) : ColumnType (Option value)
  | Json.null => Except.ok none
  | found => (column found).map some

/-- The check that a value can be read. -/
def check (column : ColumnType value) : ColumnType Unit := fun found => do
  let _ ← column found
  pure ()

end ColumnType

namespace Row

variable {value : Type}

/-- The value of a column that has to be there. -/
def required (row : Row) (name : String) (column : ColumnType value) : Except RowError value :=
  match row.find? name with
  | some found => column found
  | none => Except.error (RowError.missingField name)

/-- The value of a column that may be missing or `null`. -/
def optional (row : Row) (name : String) (column : ColumnType value) :
    Except RowError (Option value) :=
  match row.find? name with
  | some found => column.optional found
  | none => Except.ok none

/-- The JSON value of a timestamp. -/
def ofTimestamp (time : Timestamp) : Except RowError Json :=
  match time.rfc3339? with
  | some text => Except.ok (Json.string text)
  | none => Except.error RowError.unwritableTimestamp

/-- The JSON value of an optional text. -/
def ofText? (text : Option String) : Json := Json.ofOption Json.string text

/-- The JSON value of an identifier. -/
def ofUuid (id : Uuid) : Json := Json.string id.text

end Row

end Screencast
