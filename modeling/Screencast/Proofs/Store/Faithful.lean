import Screencast.Proofs.Store.Keyed
import Screencast.Proofs.Store.Record
import Screencast.Proofs.Store.Sorted

/-!
# Records that are kept as they are

The records of a type are kept as they are if each of them is written as columns with the same
names, from which it is read again. What is stored of such a record is its row, and no other record
has the same row. A record that was found in a row, changed and written back replaces the row where
it stands: no other row is touched, and neither is a column that the type of the record does not
know.

Every record that was read fits into its columns, however its values were spelled in the row that it
was read from. So a row that is read and written again comes into a form of its own, which stays as
it is from then on.
-/

namespace Screencast

namespace ColumnType

variable {value : Type} {column : ColumnType value} {found : Json} {result : value}

theorem check_of_eq_ok (read : column found = Except.ok result) :
    column.check found = Except.ok () := by
  simp only [check, read]
  rfl

@[simp] theorem check_text_string (text : String) :
    ColumnType.text.check (Json.string text) = Except.ok () := rfl

@[simp] theorem check_optional_text (text : Option String) :
    ColumnType.text.optional.check (Row.ofText? text) = Except.ok () :=
  check_of_eq_ok (optional_text_ofText? text)

@[simp] theorem check_bool (value : Bool) :
    ColumnType.bool.check (Json.bool value) = Except.ok () := rfl

@[simp] theorem check_uuid (id : Uuid) :
    ColumnType.uuid.check (Row.ofUuid id) = Except.ok () :=
  check_of_eq_ok (uuid_ofUuid id)

theorem integer_of_bounds
    {expected : String}
    {low high value : Int}
    (bounds : low ≤ value ∧ value ≤ high) :
    integer expected low high (Json.integer value) = Except.ok value :=
  if_pos bounds

end ColumnType

namespace Record

/-- A column with a value that passes its check is checked without an error. -/
theorem checkAll_cons_of_lookup
    {columns : List (String × ColumnType Unit)}
    {name : String}
    {column : ColumnType Unit}
    {found : Json}
    {rest : List (String × Json)}
    (isColumn : columns.lookup name = some column)
    (passes : column found = Except.ok ()) :
    checkAll columns ((name, found) :: rest) = checkAll columns rest := by
  simp only [checkAll, isColumn, passes]
  rfl

/-- The values of a row are checked without an error exactly if each of them passes the check of its
column. -/
theorem checkAll_eq_ok_iff
    {columns : List (String × ColumnType Unit)}
    {row : List (String × Json)} :
    checkAll columns row = Except.ok () ↔
      ∀ pair ∈ row, ∀ column, columns.lookup pair.1 = some column →
        column pair.2 = Except.ok () := by
  induction row with
  | nil => exact ⟨fun _ => List.forall_mem_nil _, fun _ => rfl⟩
  | cons pair rest inductionHypothesis =>
      obtain ⟨name, found⟩ := pair
      rw [List.forall_mem_cons, ← inductionHypothesis]
      cases isColumn : columns.lookup name with
      | none =>
          simp only [checkAll, isColumn]
          exact ⟨fun checked => ⟨by simp, checked⟩, fun ⟨_, checked⟩ => checked⟩
      | some column =>
          simp only [checkAll, isColumn, bind_eq_ok_iff, Option.some.injEq, forall_eq']
          exact ⟨fun ⟨_, passes, checked⟩ => ⟨passes, checked⟩,
            fun ⟨passes, checked⟩ => ⟨(), passes, checked⟩⟩

/-- A record is read from a row whose values pass their checks. -/
theorem decode_of_checkAll
    {record : Type}
    [Record record]
    {row : Row}
    {data : record}
    (checked : checkAll (Record.columns record) row = Except.ok ())
    (isRead : Record.read row = Except.ok data) :
    decode row = Except.ok data := by
  simp only [decode, checked]
  exact isRead

/-- A type whose records are kept as they are, if their values fit into the columns. -/
class Faithful (record : Type) [Record record] where
  /-- The names of the columns in their order in a row. -/
  names : List String
  /-- Whether the values of a record fit into the columns. -/
  IsStorable : record → Prop
  sorted : names.Pairwise (· < ·)
  withoutId : "id" ∉ names
  /-- A record that fits is written, and is read again as it is. -/
  exists_columns : ∀ data, IsStorable data → ∃ columns : Row,
    Record.encode data = Except.ok columns ∧ columns.keys = names ∧
      Record.decode columns = Except.ok data

end Record

/-- A row that holds a record holds another one with the same identifier once the columns of the
other one were written over it. -/
theorem Stored.decode_merge
    {record : Type}
    [Record record]
    {row columns : Row}
    {stored : Stored record}
    {data : record}
    (decoded : Stored.decode row = Except.ok stored)
    (distinct : columns.keys.Nodup)
    (withoutId : "id" ∉ columns.keys)
    (decodes : Record.decode columns = Except.ok data)
    (readBack : ∀ row : Row,
      (∀ name found, columns.find? name = some found → row.find? name = some found) →
        Record.read row = Except.ok data) :
    Stored.decode (Pool.merge row columns) =
      Except.ok ({ id := stored.id, data } : Stored record) := by
  simp only [Stored.decode, bind_eq_ok_iff, Record.decode] at decoded decodes
  obtain ⟨id, hasId, _, ⟨⟨⟩, checked, _⟩, same⟩ := decoded
  obtain rfl := Except.ok.inj same
  obtain ⟨⟨⟩, passes, _⟩ := decodes
  have staysId : (Pool.merge row columns).find? "id" = row.find? "id" := by
    rw [Pool.find?_merge distinct, KeyMap.find?_eq_none_of_not_mem withoutId, Option.none_or]
  have hasIdStill : (Pool.merge row columns).required "id" ColumnType.uuid = Except.ok id := by
    rwa [Row.required, staysId]
  have checkedStill :
      Record.checkAll (Record.columns record) ((Pool.merge row columns).erase "id") =
        Except.ok () := by
    refine Record.checkAll_eq_ok_iff.2 fun pair present => ?_
    obtain ⟨isMerged, isNotId⟩ := List.mem_filter.1 present
    rcases Pool.mem_merge isMerged with isWritten | isOld
    · exact Record.checkAll_eq_ok_iff.1 passes pair isWritten
    · exact Record.checkAll_eq_ok_iff.1 checked pair (List.mem_filter.2 ⟨isOld, isNotId⟩)
  have isRead : Record.read ((Pool.merge row columns).erase "id") = Except.ok data := by
    refine readBack _ fun name found isFound => ?_
    have isNotId : "id" ≠ name := by
      rintro rfl
      rw [KeyMap.find?_eq_none_of_not_mem withoutId] at isFound
      cases isFound
    rw [KeyMap.find?_erase, if_neg isNotId, Pool.find?_merge distinct, isFound, Option.some_or]
  simp only [Stored.decode, hasIdStill, Record.decode_of_checkAll checkedStill isRead]
  rfl

namespace Stored

variable {record : Type} [Record record] [Record.Faithful record]

/-- A row is the one of a stored record whose values fit into the columns. -/
structure IsKeptAs (stored : Stored record) (row : Row) : Prop where
  storable : Record.Faithful.IsStorable stored.data
  toRow_eq : stored.toRow = Except.ok row

/-- A stored record whose values fit has a row. -/
theorem exists_isKeptAs
    {stored : Stored record}
    (storable : Record.Faithful.IsStorable stored.data) :
    ∃ row, stored.IsKeptAs row := by
  obtain ⟨columns, encoded, _⟩ := Record.Faithful.exists_columns stored.data storable
  refine ⟨columns.put "id" (Row.ofUuid stored.id), storable, ?_⟩
  simp only [toRow, encoded]
  rfl

namespace IsKeptAs

variable {stored : Stored record} {row : Row}

/-- The row of a stored record consists of its columns and its identifier. -/
theorem exists_columns (kept : stored.IsKeptAs row) :
    ∃ columns : Row, Record.encode stored.data = Except.ok columns ∧
      columns.keys = Record.Faithful.names record ∧
      Record.decode columns = Except.ok stored.data ∧
      row = columns.put "id" (Row.ofUuid stored.id) := by
  obtain ⟨columns, encoded, keys, decoded⟩ :=
    Record.Faithful.exists_columns stored.data kept.storable
  have isRow := kept.toRow_eq
  simp only [toRow, encoded] at isRow
  exact ⟨columns, encoded, keys, decoded, (Except.ok.inj isRow).symm⟩

theorem find?_id (kept : stored.IsKeptAs row) : row.find? "id" = some (Row.ofUuid stored.id) := by
  obtain ⟨columns, _, _, _, rfl⟩ := kept.exists_columns
  rw [KeyMap.find?_put, if_pos rfl]

/-- A stored record is read from its row. -/
theorem decode_eq (kept : stored.IsKeptAs row) : decode row = Except.ok stored := by
  have isFound := kept.find?_id
  obtain ⟨columns, _, keys, decoded, rfl⟩ := kept.exists_columns
  have absent : "id" ∉ columns.keys := keys ▸ Record.Faithful.withoutId
  simp only [decode, Row.required_of_find? isFound, ColumnType.uuid_ofUuid,
    KeyMap.erase_put_of_not_mem absent, decoded]
  rfl

theorem statement_insert (kept : stored.IsKeptAs row) :
    (insert stored.id stored.data).statement = Statement.insert (Record.table record) row := by
  obtain ⟨columns, encoded, _, _, rfl⟩ := kept.exists_columns
  simp only [insert, encoded]

/-- The statement that writes a record writes columns, and these make the row of the record of any
row with the same identifier that holds a record. -/
theorem exists_statement_update (kept : stored.IsKeptAs row) :
    ∃ changes : Row,
      stored.update.statement = Statement.update (Record.table record) stored.id changes ∧
      ∀ (old : Stored record) (oldRow : Row), old.IsKeptAs oldRow → old.id = stored.id →
        Pool.merge oldRow changes = row := by
  obtain ⟨changes, encoded, keys, _, rfl⟩ := kept.exists_columns
  have absent : "id" ∉ changes.keys := keys ▸ Record.Faithful.withoutId
  refine ⟨changes, ?_, fun old oldRow oldKept sameId => ?_⟩
  · simp only [update, encoded, KeyMap.erase_of_not_mem absent]
  · obtain ⟨columns, _, oldKeys, _, rfl⟩ := oldKept.exists_columns
    have sorted : KeyMap.IsSorted changes := by
      rw [KeyMap.IsSorted, keys]
      exact Record.Faithful.sorted
    rw [sameId]
    exact Pool.merge_put_of_keys_eq sorted (oldKeys.trans keys.symm) absent _

end IsKeptAs

end Stored

/-! ## Reading and writing again -/

/-- Whatever is read of a type fits into its columns. -/
class Record.ReadsStorable (record : Type) [Record record] [Record.Faithful record] : Prop where
  isStorable_of_read : ∀ (row : Row) (data : record), Record.read row = Except.ok data →
    Record.Faithful.IsStorable data

namespace Stored

variable {record : Type} [Record record]

/-- Records that fit are read from the rows that they are written as. Whatever is read from a row
is written as a row from which it is read again, and what is read from that row is written as the
same row. -/
structure IsLossless (record : Type) [Record record] (fits : record → Prop) : Prop where
  readsBack : ∀ stored : Stored record, fits stored.data →
    ∃ row, stored.toRow = Except.ok row ∧ decode row = Except.ok stored
  settles : ∀ (row : Row) (stored : Stored record), decode row = Except.ok stored →
    ∃ written, stored.toRow = Except.ok written ∧ decode written = Except.ok stored ∧
      ∀ again : Stored record, decode written = Except.ok again → again.toRow = Except.ok written

variable [Record.Faithful record] [Record.ReadsStorable record]

/-- A stored record that was read fits into its columns. -/
theorem isStorable_of_decode
    {row : Row}
    {stored : Stored record}
    (decoded : decode row = Except.ok stored) :
    Record.Faithful.IsStorable stored.data := by
  simp only [decode, Record.decode, bind_eq_ok_iff] at decoded
  obtain ⟨_, _, data, ⟨_, _, isRead⟩, same⟩ := decoded
  obtain rfl := Except.ok.inj same
  exact Record.ReadsStorable.isStorable_of_read _ data isRead

/-- No record is lost that fits into its columns, and none that was read. -/
theorem isLossless : IsLossless record Record.Faithful.IsStorable where
  readsBack stored isStorable := by
    obtain ⟨row, kept⟩ := exists_isKeptAs isStorable
    exact ⟨row, kept.toRow_eq, kept.decode_eq⟩
  settles row stored decoded := by
    obtain ⟨written, kept⟩ := exists_isKeptAs (isStorable_of_decode decoded)
    refine ⟨written, kept.toRow_eq, kept.decode_eq, fun again isRead => ?_⟩
    obtain rfl := Except.ok.inj (kept.decode_eq.symm.trans isRead)
    exact kept.toRow_eq

end Stored

/-! ## Records that are written back -/

namespace Pool

/-- Rows differ from others in one row at most, and there in columns that a record type knows. -/
structure IsWrittenBack (record : Type) [Record record] (rows left : List Row) (row revised : Row) :
    Prop where
  place : ∃ before after, rows = before ++ row :: after ∧ left = before ++ revised :: after
  unknown : ∀ name, name ∉ (Record.columns record).map Prod.fst →
    revised.find? name = row.find? name

variable {record : Type} [Record record] {rows left : List Row} {row revised columns : Row}
  {column text : String} {stored : Stored record}

theorem IsWrittenBack.length_eq (writtenBack : IsWrittenBack record rows left row revised) :
    left.length = rows.length := by
  obtain ⟨before, after, rfl, rfl⟩ := writtenBack.place
  simp only [List.length_append, List.length_cons]

/-- A record that was found is written back to its row. -/
theorem Finds.isWrittenBack
    (finds : Finds rows column text row stored)
    (keyed : IsKeyed rows)
    (distinct : columns.keys.Nodup)
    (known : ∀ name ∈ columns.keys, name ∈ (Record.columns record).map Prod.fst) :
    IsWrittenBack record rows (rows.map (revise stored.id columns)) row (merge row columns) := by
  have hasOwn := finds.find?_id keyed
  constructor
  case place =>
    obtain ⟨before, after, rfl⟩ := List.append_of_mem finds.mem
    obtain ⟨_, distinctThere, differBefore⟩ := List.pairwise_append.1 keyed.distinct
    obtain ⟨differAfter, _⟩ := List.pairwise_cons.1 distinctThere
    have othersBefore : ∀ other ∈ before, hasId stored.id other = false := by
      refine fun other present => Bool.eq_false_iff.2 fun has => ?_
      refine differBefore other present row List.mem_cons_self ?_
      rw [(hasId_iff stored.id other).1 has, hasOwn]
    have othersAfter : ∀ other ∈ after, hasId stored.id other = false := by
      refine fun other present => Bool.eq_false_iff.2 fun has => differAfter other present ?_
      rw [(hasId_iff stored.id other).1 has, hasOwn]
    refine ⟨before, after, rfl, ?_⟩
    rw [List.map_append, List.map_cons, map_revise_of_forall_not_hasId othersBefore,
      map_revise_of_forall_not_hasId othersAfter, revise, if_pos ((hasId_iff stored.id row).2 hasOwn)]
  case unknown =>
    intro name isUnknown
    have isOther : name ∉ columns.keys := fun present => isUnknown (known name present)
    rw [find?_merge distinct, KeyMap.find?_eq_none_of_not_mem isOther, Option.none_or]

/-- Writing a record that was found, and may have been changed since, writes it back to its row. -/
theorem Finds.isWrittenBack_noted
    {pool : Pool}
    {revised : Stored record}
    (finds : Finds (pool.rows (Record.table record)) column text row stored)
    (keyed : IsKeyed (pool.rows (Record.table record)))
    (sameId : revised.id = stored.id)
    (written : Record.IsWrittenAs revised.data columns)
    (known : ∀ name ∈ columns.keys, name ∈ (Record.columns record).map Prod.fst) :
    IsWrittenBack record (pool.rows (Record.table record))
      ((pool.noted (some revised)).rows (Record.table record)) row (merge row columns) := by
  rw [rows_noted_some written keyed, sameId]
  exact finds.isWrittenBack keyed written.distinct known

end Pool

end Screencast
