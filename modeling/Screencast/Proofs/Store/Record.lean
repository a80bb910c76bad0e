import Screencast.Proofs.Store.Merge
import Screencast.Proofs.Timestamp
import Screencast.Proofs.Uuid

/-!
# Records and the rows they are written as

What is read from a row comes from its columns, and a record that is written over a row is read
again as it is, or not at all.
-/

namespace Screencast

/-- A computation that may fail has succeeded exactly if all its parts have. -/
theorem bind_eq_ok_iff
    {error first second : Type}
    {computed : Except error first}
    {follow : first → Except error second}
    {result : second} :
    (computed >>= follow) = Except.ok result ↔
      ∃ value, computed = Except.ok value ∧ follow value = Except.ok result := by
  cases computed with
  | error failure => simp [bind, Except.bind]
  | ok value => simp [bind, Except.bind]

namespace Row

variable {value : Type} {row : Row} {name : String} {column : ColumnType value} {result : value}

/-- A column that has to be there is read from what is found there. -/
theorem required_eq_ok_iff :
    row.required name column = Except.ok result ↔
      ∃ found, row.find? name = some found ∧ column found = Except.ok result := by
  unfold required
  cases row.find? name <;> simp

theorem required_of_find?
    {found : Json}
    (isFound : row.find? name = some found) :
    row.required name column = column found := by
  simp [required, isFound]

theorem optional_of_find?
    {found : Json}
    (isFound : row.find? name = some found) :
    row.optional name column = column.optional found := by
  simp [optional, isFound]

/-- A timestamp that was read can be written, and is read again as it is. -/
theorem exists_ofTimestamp
    {time : Timestamp}
    (readable : time.IsReadable) :
    ∃ written, ofTimestamp time = Except.ok written ∧
      ColumnType.timestamp written = Except.ok time := by
  obtain ⟨text, written, readBack⟩ := Timestamp.exists_rfc3339?_and_parse? readable
  exact ⟨Json.string text, by simp [ofTimestamp, written],
    by simp [ColumnType.timestamp, readBack]⟩

end Row

namespace ColumnType

@[simp] theorem text_string (text : String) : ColumnType.text (Json.string text) = Except.ok text :=
  rfl

@[simp] theorem bool_bool (value : Bool) : ColumnType.bool (Json.bool value) = Except.ok value := rfl

@[simp] theorem uuid_ofUuid (id : Uuid) : ColumnType.uuid (Row.ofUuid id) = Except.ok id := by
  simp [ColumnType.uuid, Row.ofUuid]

@[simp] theorem optional_text_ofText? (text : Option String) :
    ColumnType.text.optional (Row.ofText? text) = Except.ok text := by
  cases text <;> rfl

/-- What is read from a column of timestamps is readable. -/
theorem isReadable_of_timestamp
    {found : Json}
    {time : Timestamp}
    (read : timestamp found = Except.ok time) :
    time.IsReadable := by
  unfold timestamp at read
  split at read
  next text =>
    cases parsed : Timestamp.parse? text with
    | none => simp [parsed] at read
    | some other =>
        simp only [parsed, Except.ok.injEq] at read
        exact Timestamp.isReadable_of_parse? (read ▸ parsed)
  next => cases read

/-- What is read from a column of truth values stands there. -/
theorem eq_bool_of_bool
    {found : Json}
    {value : Bool}
    (read : bool found = Except.ok value) :
    found = Json.bool value := by
  unfold bool at read
  split at read
  next => rw [Except.ok.inj read]
  next => cases read

/-- What is read from a column of words stands there. -/
theorem eq_integer_of_word
    {found : Json}
    {value : Nat}
    (read : word found = Except.ok value) :
    found = Json.integer value := by
  unfold word integer at read
  split at read
  next number =>
    split at read
    next bounds =>
      obtain rfl : number.toNat = value := Except.ok.inj read
      rw [Json.integer, Int.toNat_of_nonneg bounds.1]
    next => cases read
  next => cases read

end ColumnType

namespace Record

variable {record : Type} [Record record]

/-- A record is written as some columns, none of them its identifier, and whatever is read from a
row that has these columns is the record. -/
structure IsWrittenAs (data : record) (columns : Row) : Prop where
  encoded : Record.encode data = Except.ok columns
  distinct : columns.keys.Nodup
  withoutId : "id" ∉ columns.keys
  read_eq : ∀ (row : Row) (other : record),
    (∀ name found, columns.find? name = some found → row.find? name = some found) →
      Record.read row = Except.ok other → other = data

end Record

end Screencast
