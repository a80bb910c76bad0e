import Screencast.Proofs.Store.Pool
import Screencast.Proofs.Store.Record

/-!
# Tables whose rows have identifiers

If no two rows of a table have the same identifier, an update changes exactly the row that has it.
A record that was found, changed and written is found in the same place, and it is read as what was
written.
-/

namespace Screencast

namespace Json

/-- A text is the same as no other value. -/
theorem same_string_iff (found : Json) (text : String) :
    found.same (Json.string text) = true ↔ found = Json.string text := by
  cases found <;> simp [same]

end Json

namespace Query

variable {other : Type}

@[simp] theorem ofRow_ok (value : other) : ofRow (Except.ok value) = Except.ok value := rfl

@[simp] theorem ofRow_error (error : RowError) :
    (ofRow (Except.error error) : Except QueryError other) =
      Except.error (QueryError.parse error) := rfl

end Query

namespace Pool

/-- A row meets a condition on a text exactly if the text stands in the column. -/
theorem meets_string_iff (column text : String) (row : Row) :
    meets [(column, Json.string text)] row = true ↔
      row.find? column = some (Json.string text) := by
  simp only [meets, List.all_cons, List.all_nil, Bool.and_true]
  cases row.find? column with
  | none => simp
  | some found => simp [Json.same_string_iff]

/-- A row has an identifier exactly if it stands in its column. -/
theorem hasId_iff (id : Uuid) (row : Row) :
    hasId id row = true ↔ row.find? "id" = some (Row.ofUuid id) :=
  meets_string_iff "id" id.text row

/-- All rows have identifiers in their usual form, and no two rows have the same. -/
structure IsKeyed (rows : List Row) : Prop where
  canonical : ∀ row ∈ rows, ∃ id, row.find? "id" = some (Row.ofUuid id)
  distinct : rows.Pairwise fun left right => left.find? "id" ≠ right.find? "id"

/-- Change a row if it has an identifier. -/
def revise (id : Uuid) (changes row : Row) : Row := if hasId id row then merge row changes else row

variable {id : Uuid} {changes row : Row} {rows : List Row}

theorem isKeyed_singleton (hasOne : row.find? "id" = some (Row.ofUuid id)) : IsKeyed [row] := by
  refine ⟨fun other present => ?_, List.pairwise_singleton _ _⟩
  rw [List.mem_singleton.1 present]
  exact ⟨id, hasOne⟩

/-- Two rows have identifiers of their own if these differ. -/
theorem isKeyed_pair
    {other : Row}
    {otherId : Uuid}
    (hasOne : row.find? "id" = some (Row.ofUuid id))
    (hasOther : other.find? "id" = some (Row.ofUuid otherId))
    (differ : id ≠ otherId) :
    IsKeyed [row, other] := by
  refine ⟨?_, List.pairwise_pair.2 fun same => differ ?_⟩
  · exact List.forall_mem_cons.2 ⟨⟨id, hasOne⟩, List.forall_mem_singleton.2 ⟨otherId, hasOther⟩⟩
  · rw [hasOne, hasOther] at same
    exact Uuid.text_injective (Json.string.inj (Option.some.inj same))

theorem revise_of_not_hasId (isOther : hasId id row = false) : revise id changes row = row := by
  simp [revise, isOther]

theorem map_revise_of_forall_not_hasId (areOthers : ∀ row ∈ rows, hasId id row = false) :
    rows.map (revise id changes) = rows :=
  (List.map_congr_left fun row present => revise_of_not_hasId (areOthers row present)).trans
    (List.map_id rows)

/-- Changes without an identifier leave the identifier alone. -/
theorem find?_id_revise
    (distinct : changes.keys.Nodup)
    (withoutId : "id" ∉ changes.keys) :
    (revise id changes row).find? "id" = row.find? "id" := by
  unfold revise
  split
  · rw [find?_merge distinct, KeyMap.find?_eq_none_of_not_mem withoutId, Option.none_or]
  · rfl

theorem hasId_revise
    (distinct : changes.keys.Nodup)
    (withoutId : "id" ∉ changes.keys)
    (other : Uuid) :
    hasId other (revise id changes row) = hasId other row := by
  rw [Bool.eq_iff_iff, hasId_iff, hasId_iff, find?_id_revise distinct withoutId]

/-- The row with an identifier is found in its place after an update. -/
theorem find?_hasId_map_revise
    (distinct : changes.keys.Nodup)
    (withoutId : "id" ∉ changes.keys)
    (other : Uuid) :
    (rows.map (revise id changes)).find? (hasId other) =
      (rows.find? (hasId other)).map (revise id changes) := by
  have sameIds : hasId other ∘ revise id changes = hasId other :=
    funext fun _ => hasId_revise distinct withoutId other
  rw [List.find?_map, sameIds]

/-- An update changes the rows that have the identifier, of which there is one at most. -/
theorem updateFirst_eq_map
    (distinct : rows.Pairwise fun left right => left.find? "id" ≠ right.find? "id") :
    (updateFirst id changes rows).1 = rows.map (revise id changes) := by
  induction rows with
  | nil => rfl
  | cons row rest inductionHypothesis =>
      obtain ⟨differs, distinctRest⟩ := List.pairwise_cons.1 distinct
      unfold updateFirst
      split
      next has =>
        have unchanged : rest.map (revise id changes) = rest := by
          refine map_revise_of_forall_not_hasId fun other present => ?_
          refine Bool.eq_false_iff.2 fun hasToo => differs other present ?_
          rw [(hasId_iff id row).1 has, (hasId_iff id other).1 hasToo]
        simp [revise, has, unchanged]
      next hasNot =>
        simp [revise, hasNot, inductionHypothesis distinctRest]

/-- Rows that were changed have their identifiers still. -/
theorem IsKeyed.map_revise
    (keyed : IsKeyed rows)
    (distinct : changes.keys.Nodup)
    (withoutId : "id" ∉ changes.keys) :
    IsKeyed (rows.map (revise id changes)) where
  canonical := by
    intro row present
    obtain ⟨old, inRows, rfl⟩ := List.mem_map.1 present
    rw [find?_id_revise distinct withoutId]
    exact keyed.canonical old inRows
  distinct := by
    rw [List.pairwise_map]
    refine keyed.distinct.imp fun differ => ?_
    rwa [find?_id_revise distinct withoutId, find?_id_revise distinct withoutId]

/-- Rows of a keyed table with the same identifier are the same row. -/
theorem IsKeyed.eq_of_find?_id
    {left right : Row}
    (keyed : IsKeyed rows)
    (leftPresent : left ∈ rows)
    (rightPresent : right ∈ rows)
    (same : left.find? "id" = right.find? "id") :
    left = right := by
  have sameRow : ∀ left ∈ rows, ∀ right ∈ rows,
      left.find? "id" = right.find? "id" → left = right :=
    List.Pairwise.forall_of_forall_of_flip (fun _ _ _ => rfl)
      (keyed.distinct.imp fun differ same => absurd same differ)
      (keyed.distinct.imp fun differ same => absurd same.symm differ)
  exact sameRow left leftPresent right rightPresent same

/-- The row with an identifier is found by it. -/
theorem IsKeyed.find?_hasId
    (keyed : IsKeyed rows)
    (present : row ∈ rows)
    (has : hasId id row = true) :
    rows.find? (hasId id) = some row := by
  obtain ⟨found, isFound⟩ := Option.isSome_iff_exists.1 (List.find?_isSome.2 ⟨row, present, has⟩)
  have sameId : found.find? "id" = row.find? "id" := by
    rw [(hasId_iff id found).1 (List.find?_some isFound), (hasId_iff id row).1 has]
  rw [isFound, keyed.eq_of_find?_id (List.mem_of_find?_eq_some isFound) present sameId]

/-- A row has one identifier at most. -/
theorem hasId_eq_false
    {other : Uuid}
    (has : hasId other row = true)
    (isOther : other ≠ id) :
    hasId id row = false := by
  refine Bool.eq_false_iff.2 fun hasToo => isOther ?_
  have sameText := ((hasId_iff other row).1 has).symm.trans ((hasId_iff id row).1 hasToo)
  exact Uuid.text_injective (Json.string.inj (Option.some.inj sameText))

/-! ## Finding a record -/

variable {record : Type} [Record record] {column text : String} {stored : Stored record}

/-- Looking for a record by a column yields the first row with the value, if it can be read. -/
theorem ask_selectBy (pool : Pool) (column : String) (value : Json) :
    pool.ask (Stored.selectBy record column value) =
      match (pool.rows (Record.table record)).find? (meets [(column, value)]) with
      | none => Except.ok none
      | some row => (Query.ofRow (Stored.decode row)).map some := by
  have selected : (pool.apply (Stored.selectBy record column value).statement).1 =
      ((pool.rows (Record.table record)).find? (meets [(column, value)])).toList := by
    change ((pool.rows (Record.table record)).filter (meets [(column, value)])).take 1 = _
    rw [List.take_one, List.head?_filter]
  unfold ask
  rw [selected]
  cases (pool.rows (Record.table record)).find? (meets [(column, value)]) with
  | none => rfl
  | some row =>
      change (Query.ofRow (Stored.decode row) >>= fun stored =>
        Except.ok [stored]).map List.head? = (Query.ofRow (Stored.decode row)).map some
      cases (Query.ofRow (Stored.decode row) : Except QueryError (Stored record)) <;> rfl

/-- A record is found in rows by a text in one of its columns: it is read from the first row with
the text. -/
structure Finds (rows : List Row) (column text : String) (row : Row) (stored : Stored record) :
    Prop where
  first : rows.find? (meets [(column, Json.string text)]) = some row
  decoded : Stored.decode row = Except.ok stored

/-- A record that is looked for is yielded exactly if it is found. -/
theorem ask_selectBy_eq_some_iff (pool : Pool) :
    pool.ask (Stored.selectBy record column (Json.string text)) = Except.ok (some stored) ↔
      ∃ row, Finds (pool.rows (Record.table record)) column text row stored := by
  rw [ask_selectBy]
  constructor
  · intro yields
    split at yields
    next => cases yields
    next row first =>
      cases decoded : (Stored.decode row : Except RowError (Stored record)) with
      | error failure => simp [decoded, Except.map] at yields
      | ok found =>
          simp only [decoded, Query.ofRow_ok, Except.map, Except.ok.injEq,
            Option.some.injEq] at yields
          exact ⟨row, first, decoded.trans (congrArg Except.ok yields)⟩
  · rintro ⟨row, first, decoded⟩
    simp only [first, decoded]
    rfl

/-- The record that is found by a text in one of its columns, if there is one that can be read. -/
def found? (record : Type) [Record record] (pool : Pool) (column text : String) :
    Option (Stored record) :=
  match pool.ask (Stored.selectBy record column (Json.string text)) with
  | Except.ok found => found
  | Except.error _ => none

theorem found?_of_ask
    {found : Option (Stored record)}
    {pool : Pool}
    (yields : pool.ask (Stored.selectBy record column (Json.string text)) = Except.ok found) :
    pool.found? record column text = found := by
  rw [found?, yields]

theorem found?_of_ask_error
    {failure : QueryError}
    {pool : Pool}
    (fails : pool.ask (Stored.selectBy record column (Json.string text)) = Except.error failure) :
    pool.found? record column text = none := by
  rw [found?, fails]

/-- A record that is found was read from a row. -/
theorem found?_eq_some_iff (pool : Pool) :
    pool.found? record column text = some stored ↔
      ∃ row, Finds (pool.rows (Record.table record)) column text row stored := by
  rw [← ask_selectBy_eq_some_iff, found?]
  split
  next found yields => rw [yields, Except.ok.injEq]
  next failure yields => simp [yields]

/-- Which record is found depends on its table alone. -/
theorem found?_congr
    {pool other : Pool}
    (same : pool.rows (Record.table record) = other.rows (Record.table record))
    (column text : String) :
    pool.found? record column text = other.found? record column text := by
  have asked : pool.ask (Stored.selectBy record column (Json.string text)) =
      other.ask (Stored.selectBy record column (Json.string text)) := ask_congr same
  rw [found?, found?, asked]

namespace Finds

theorem mem (finds : Finds rows column text row stored) : row ∈ rows :=
  List.mem_of_find?_eq_some finds.first

theorem column_eq (finds : Finds rows column text row stored) :
    row.find? column = some (Json.string text) :=
  (meets_string_iff column text row).1 (List.find?_some finds.first)

/-- The record is read from its row without the identifier. -/
theorem read_eq (finds : Finds rows column text row stored) :
    Record.read (row.erase "id") = Except.ok stored.data := by
  have decoded := finds.decoded
  simp only [Stored.decode, Record.decode, bind_eq_ok_iff] at decoded
  obtain ⟨id, _, data, ⟨_, _, read⟩, same⟩ := decoded
  obtain rfl := Except.ok.inj same
  exact read

/-- The identifier of the record is the one of its row. -/
theorem find?_id
    (finds : Finds rows column text row stored)
    (keyed : IsKeyed rows) :
    row.find? "id" = some (Row.ofUuid stored.id) := by
  obtain ⟨id, isFound⟩ := keyed.canonical row finds.mem
  have decoded := finds.decoded
  simp only [Stored.decode, bind_eq_ok_iff, Row.required_of_find? isFound,
    ColumnType.uuid_ofUuid, Except.ok.injEq, exists_eq_left'] at decoded
  obtain ⟨data, _, same⟩ := decoded
  obtain rfl := Except.ok.inj same
  exact isFound

end Finds

/-! ## Writing a record -/

variable {columns : Row} {data : record}

theorem statement_update (written : Record.IsWrittenAs stored.data columns) :
    stored.update.statement = Statement.update (Record.table record) stored.id columns := by
  have unchanged : columns.erase "id" = columns := by
    refine List.filter_eq_self.2 fun pair present => decide_eq_true fun isId => ?_
    exact written.withoutId (isId ▸ List.mem_map_of_mem present)
  simp [Stored.update, written.encoded, unchanged]

theorem writesTo_update
    {table : String}
    (isOther : Record.table record ≠ table) :
    stored.update.statement.writesTo table = false := by
  unfold Stored.update
  split <;> exact decide_eq_false isOther

theorem writesTo_table_update : stored.update.statement.writesTo (Record.table record) = true := by
  unfold Stored.update
  split <;> exact decide_eq_true rfl

theorem table_update : stored.update.statement.table = Record.table record := by
  unfold Stored.update
  split <;> rfl

/-- Inserting a record touches no table but its own, even if it cannot be written. -/
theorem writesTo_insert
    {table : String}
    {id : Uuid}
    (isOther : Record.table record ≠ table) :
    (Stored.insert id data).statement.writesTo table = false := by
  unfold Stored.insert
  split <;> exact decide_eq_false isOther

/-- The pool after a record was written, if there is one to write. -/
def noted (pool : Pool) : Option (Stored record) → Pool
  | none => pool
  | some stored => (pool.apply stored.update.statement).2

variable {pool : Pool}

/-- Writing a record leaves the other tables alone. -/
theorem rows_noted_of_ne
    {table : String}
    (isOther : Record.table record ≠ table)
    (revised : Option (Stored record)) :
    (pool.noted revised).rows table = pool.rows table := by
  cases revised with
  | none => rfl
  | some stored => exact rows_apply_of_not_writesTo (writesTo_update isOther) pool

/-- What writing a record makes of a table depends on the table alone. -/
theorem rows_noted_congr
    {other : Pool}
    {table : String}
    (same : pool.rows table = other.rows table)
    (revised : Option (Stored record)) :
    (pool.noted revised).rows table = (other.noted revised).rows table := by
  cases revised with
  | none => exact same
  | some stored => exact rows_apply_congr same _

/-- Writing a record changes the row that has its identifier. -/
theorem rows_noted_some
    (written : Record.IsWrittenAs stored.data columns)
    (keyed : IsKeyed (pool.rows (Record.table record))) :
    (pool.noted (some stored)).rows (Record.table record) =
      (pool.rows (Record.table record)).map (revise stored.id columns) := by
  simp only [noted, statement_update written, apply, rows_setRows, if_true,
    updateFirst_eq_map keyed.distinct]

/-- A table whose rows have identifiers is one still after a record was written that can be. -/
theorem IsKeyed.noted
    {revised : Option (Stored record)}
    (keyed : IsKeyed (pool.rows (Record.table record)))
    (writable : ∀ stored ∈ revised, ∃ columns, Record.IsWrittenAs stored.data columns) :
    IsKeyed ((pool.noted revised).rows (Record.table record)) := by
  cases revised with
  | none => exact keyed
  | some stored =>
      obtain ⟨columns, written⟩ := writable stored rfl
      rw [rows_noted_some written keyed]
      exact keyed.map_revise written.distinct written.withoutId

/-- Writing a record a second time changes nothing. -/
theorem map_revise_map_revise
    (distinct : columns.keys.Nodup)
    (withoutId : "id" ∉ columns.keys)
    (id : Uuid)
    (rows : List Row) :
    (rows.map (revise id columns)).map (revise id columns) = rows.map (revise id columns) := by
  rw [List.map_map]
  refine List.map_congr_left fun row _ => ?_
  have sameId : hasId id (revise id columns row) = hasId id row :=
    hasId_revise distinct withoutId id
  cases has : hasId id row with
  | false => simp [revise, has]
  | true =>
      rw [has] at sameId
      simp only [revise, has, if_true] at sameId
      simp [revise, has, sameId, merge_merge distinct]

namespace Finds

/-- A record that was changed is found in the same place, if it keeps the text it was found by. -/
theorem find?_map_revise
    (finds : Finds rows column text row stored)
    (keyed : IsKeyed rows)
    (keeps : (merge row columns).find? column = some (Json.string text)) :
    (rows.map (revise stored.id columns)).find? (meets [(column, Json.string text)]) =
      some (merge row columns) := by
  have sameMeets : ∀ other ∈ rows,
      (meets [(column, Json.string text)] ∘ revise stored.id columns) other =
        meets [(column, Json.string text)] other := by
    intro other present
    simp only [Function.comp_apply, revise]
    split
    next has =>
      have sameRow : other = row := by
        refine keyed.eq_of_find?_id present finds.mem ?_
        rw [(hasId_iff stored.id other).1 has, finds.find?_id keyed]
      subst sameRow
      rw [(meets_string_iff column text _).2 keeps,
        (meets_string_iff column text _).2 finds.column_eq]
    next => rfl
  have isRevised : revise stored.id columns row = merge row columns :=
    if_pos ((hasId_iff stored.id row).2 (finds.find?_id keyed))
  have sameFind : rows.find? (meets [(column, Json.string text)] ∘ revise stored.id columns) =
      rows.find? (meets [(column, Json.string text)]) := by
    rw [← List.head?_filter, ← List.head?_filter, List.filter_congr sameMeets]
  rw [List.find?_map, sameFind, finds.first, Option.map_some, isRevised]

/-- What is found after a record was written is the record that was written, in its old row. -/
theorem again
    {again : Stored record}
    {found : Row}
    (finds : Finds rows column text row stored)
    (keyed : IsKeyed rows)
    (written : Record.IsWrittenAs data columns)
    (keeps : (merge row columns).find? column = some (Json.string text))
    (findsAgain : Finds (rows.map (revise stored.id columns)) column text found again) :
    again = { id := stored.id, data } := by
  have place := findsAgain.first.symm.trans (finds.find?_map_revise keyed keeps)
  obtain rfl := Option.some.inj place
  have sameData : again.data = data := by
    refine written.read_eq _ _ (fun name value isWritten => ?_) findsAgain.read_eq
    have isNotId : "id" ≠ name := by
      rintro rfl
      rw [KeyMap.find?_eq_none_of_not_mem written.withoutId] at isWritten
      cases isWritten
    rw [KeyMap.find?_erase, if_neg isNotId, find?_merge written.distinct, isWritten,
      Option.some_or]
  have sameId : again.id = stored.id := by
    have revisedId := findsAgain.find?_id (keyed.map_revise written.distinct written.withoutId)
    rw [find?_merge written.distinct, KeyMap.find?_eq_none_of_not_mem written.withoutId,
      Option.none_or, finds.find?_id keyed] at revisedId
    exact Uuid.text_injective (Json.string.inj (Option.some.inj revisedId)).symm
  cases again
  subst sameData sameId
  rfl

end Finds

end Pool

end Screencast
