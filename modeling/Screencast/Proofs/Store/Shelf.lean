import Mathlib.Data.List.Forall2
import Mathlib.Data.List.Nodup
import Screencast.Proofs.Store.Faithful
import Screencast.Proofs.Store.Keyed

/-!
# Tables as shelves of records

A table whose rows are those of stored records with pairwise distinct identifiers is read as these
records. Inserting a record puts it behind the others, writing a record puts it in the place of the
one with its identifier, and a record that is on no shelf is not written anywhere.
-/

namespace Screencast

namespace Stored

variable {record : Type}

/-- Put a stored record in the place of the one with its identifier. -/
def replace (changed old : Stored record) : Stored record :=
  if old.id = changed.id then changed else old

@[simp] theorem id_replace (changed old : Stored record) : (replace changed old).id = old.id := by
  unfold replace
  split
  next same => exact same.symm
  next => rfl

/-- A record is the first with its identifier if no two records have the same. -/
theorem find?_id_of_mem
    {shelf : List (Stored record)}
    {stored : Stored record}
    (distinct : (shelf.map Stored.id).Nodup)
    (onShelf : stored ∈ shelf) :
    (shelf.find? fun other => decide (other.id = stored.id)) = some stored := by
  induction shelf with
  | nil => cases onShelf
  | cons first rest inductionHypothesis =>
      rw [List.map_cons, List.nodup_cons] at distinct
      rcases List.mem_cons.1 onShelf with rfl | inRest
      · exact List.find?_cons_of_pos (decide_eq_true rfl)
      · have isOther : first.id ≠ stored.id := fun same =>
          distinct.1 (same ▸ List.mem_map_of_mem inRest)
        rw [List.find?_cons_of_neg (by simpa using isOther)]
        exact inductionHypothesis distinct.2 inRest

end Stored

namespace Pool

variable {record : Type} [Record record] [Record.Faithful record]
  {shelf : List (Stored record)} {stored : Stored record} {rows : List Row} {row : Row}

/-- A row has the identifier of a stored record exactly if it is the record's own. -/
theorem hasId_iff_of_isKeptAs
    (kept : stored.IsKeptAs row)
    (id : Uuid) :
    hasId id row = true ↔ stored.id = id := by
  rw [hasId_iff, kept.find?_id, Option.some.injEq]
  refine ⟨fun sameText => Uuid.text_injective (Json.string.inj sameText), fun same => ?_⟩
  rw [same]

/-- Rows are those of stored records, in their order, and no two of them have the same identifier.
-/
structure Holds (rows : List Row) (shelf : List (Stored record)) : Prop where
  kept : List.Forall₂ Stored.IsKeptAs shelf rows
  distinct : (shelf.map Stored.id).Nodup

theorem holds_nil : Holds [] ([] : List (Stored record)) := ⟨List.Forall₂.nil, List.nodup_nil⟩

/-- The rows of stored records, as far as they can be written. -/
def rowsOf (shelf : List (Stored record)) : List Row :=
  shelf.filterMap fun stored => stored.toRow.toOption

/-- The rows of stored records whose values fit are those of the records. -/
theorem holds_rowsOf
    (storable : ∀ stored ∈ shelf, Record.Faithful.IsStorable stored.data)
    (distinct : (shelf.map Stored.id).Nodup) :
    Holds (rowsOf shelf) shelf := by
  refine ⟨?_, distinct⟩
  clear distinct
  induction shelf with
  | nil => exact List.Forall₂.nil
  | cons stored rest inductionHypothesis =>
      obtain ⟨row, kept⟩ := Stored.exists_isKeptAs (storable stored List.mem_cons_self)
      have written : stored.toRow.toOption = some row := by
        rw [kept.toRow_eq]
        rfl
      have first : rowsOf (stored :: rest) = row :: rowsOf rest := by
        simp [rowsOf, written]
      rw [first]
      exact List.Forall₂.cons kept (inductionHypothesis fun other present =>
        storable other (List.mem_cons_of_mem stored present))

namespace Holds

theorem length_eq (holds : Holds rows shelf) : rows.length = shelf.length :=
  holds.kept.length_eq.symm

/-- Every row is the one of a record. -/
theorem exists_isKeptAs
    (holds : Holds rows shelf)
    (present : row ∈ rows) :
    ∃ stored ∈ shelf, stored.IsKeptAs row := by
  obtain ⟨kept, -⟩ := holds
  induction kept with
  | nil => cases present
  | cons isFirst _ inductionHypothesis =>
      rcases List.mem_cons.1 present with rfl | inRest
      · exact ⟨_, List.mem_cons_self, isFirst⟩
      · obtain ⟨stored, onShelf, kept⟩ := inductionHypothesis inRest
        exact ⟨stored, List.mem_cons_of_mem _ onShelf, kept⟩

/-- The identifiers of the rows are those of the records. -/
theorem map_find?_id (holds : Holds rows shelf) :
    rows.map (fun row => row.find? "id") =
      (shelf.map Stored.id).map fun id => some (Row.ofUuid id) := by
  obtain ⟨kept, -⟩ := holds
  induction kept with
  | nil => rfl
  | cons isFirst _ inductionHypothesis =>
      simp only [List.map_cons, isFirst.find?_id, inductionHypothesis]

/-- All rows have identifiers in their usual form, and no two rows have the same. -/
theorem isKeyed (holds : Holds rows shelf) : IsKeyed rows where
  canonical := by
    intro row present
    obtain ⟨stored, _, kept⟩ := holds.exists_isKeptAs present
    exact ⟨stored.id, kept.find?_id⟩
  distinct := by
    have distinct : (rows.map fun row => row.find? "id").Nodup := by
      rw [holds.map_find?_id]
      refine List.Nodup.map (fun left right same => ?_) holds.distinct
      exact Uuid.text_injective (Json.string.inj (Option.some.inj same))
    exact List.pairwise_map.1 distinct

/-! ## Reading -/

/-- The rows are read as the records. -/
theorem decodeAll_eq (holds : Holds rows shelf) : Stored.decodeAll rows = Except.ok shelf := by
  obtain ⟨kept, -⟩ := holds
  induction kept with
  | nil => rfl
  | cons isFirst _ inductionHypothesis =>
      rw [Stored.decodeAll] at inductionHypothesis ⊢
      rw [List.mapM_cons, isFirst.decode_eq, inductionHypothesis]
      rfl

/-- The first row that passes a test is the one of the first record that passes the same test. -/
theorem find?_of_forall_eq
    {test : Stored record → Bool}
    {rowTest : Row → Bool}
    (holds : Holds rows shelf)
    (sameTest : ∀ (stored : Stored record) (row : Row), stored.IsKeptAs row →
      rowTest row = test stored) :
    Option.Rel Stored.IsKeptAs (shelf.find? test) (rows.find? rowTest) := by
  obtain ⟨kept, -⟩ := holds
  induction kept with
  | nil => exact Option.Rel.none
  | @cons first firstRow _ _ isFirst _ inductionHypothesis =>
      rw [List.find?_cons, List.find?_cons, sameTest first firstRow isFirst]
      cases test first with
      | true => exact Option.Rel.some isFirst
      | false => exact inductionHypothesis

/-- The row with an identifier is the one of the record with it. -/
theorem find?_hasId
    (holds : Holds rows shelf)
    (id : Uuid) :
    Option.Rel Stored.IsKeptAs (shelf.find? fun stored => decide (stored.id = id))
      (rows.find? (hasId id)) :=
  holds.find?_of_forall_eq fun stored row kept => by
    rw [Bool.eq_iff_iff, hasId_iff_of_isKeptAs kept id, decide_eq_true_iff]

/-- There is a row for every identifier on the shelf, and it is the one of a record with it. -/
theorem exists_find?_hasId
    {id : Uuid}
    (holds : Holds rows shelf)
    (onShelf : id ∈ shelf.map Stored.id) :
    ∃ row, ∃ stored : Stored record,
      rows.find? (hasId id) = some row ∧ stored.IsKeptAs row ∧ stored.id = id := by
  obtain ⟨present, isPresent, sameId⟩ := List.mem_map.1 onShelf
  have isSome : (shelf.find? fun stored => decide (stored.id = id)).isSome = true :=
    List.find?_isSome.2 ⟨present, isPresent, decide_eq_true sameId⟩
  obtain ⟨stored, isFirst⟩ := Option.isSome_iff_exists.1 isSome
  have hasIt := List.find?_some isFirst
  have found := holds.find?_hasId id
  rw [isFirst] at found
  generalize rows.find? (hasId id) = foundRow at found
  cases found with
  | some kept => exact ⟨_, stored, rfl, kept, of_decide_eq_true hasIt⟩

variable {pool : Pool}

/-- Rows of records are read, whichever of them are selected and in whatever order. -/
theorem exists_decodeAll
    {selected : List Row}
    (holds : Holds rows shelf)
    (among : ∀ row ∈ selected, row ∈ rows) :
    ∃ records : List (Stored record), Stored.decodeAll selected = Except.ok records := by
  induction selected with
  | nil => exact ⟨[], rfl⟩
  | cons row rest inductionHypothesis =>
      obtain ⟨stored, _, kept⟩ := holds.exists_isKeptAs (among row List.mem_cons_self)
      obtain ⟨records, areRead⟩ := inductionHypothesis
        fun other present => among other (List.mem_cons_of_mem row present)
      refine ⟨stored :: records, ?_⟩
      rw [Stored.decodeAll] at areRead ⊢
      rw [List.mapM_cons, kept.decode_eq, areRead]
      rfl

/-- A selection of records does not fail. -/
theorem exists_ask_select
    (holds : Holds (pool.rows (Record.table record)) shelf)
    (filter : List (String × Json))
    (order : Option Order)
    (limit : Option Nat) :
    ∃ records, pool.ask (Stored.select record filter order limit) = Except.ok records :=
  holds.exists_decodeAll fun _ present => mem_of_mem_selectRows present

/-- Looking for a value of a column yields the first record that passes a test, if the rows with the
value are those of the records that do. -/
theorem ask_selectBy_of_forall_eq
    {column : String}
    {value : Json}
    {test : Stored record → Bool}
    (holds : Holds (pool.rows (Record.table record)) shelf)
    (sameTest : ∀ (stored : Stored record) (row : Row), stored.IsKeptAs row →
      meets [(column, value)] row = test stored) :
    pool.ask (Stored.selectBy record column value) = Except.ok (shelf.find? test) := by
  have found := holds.find?_of_forall_eq sameTest
  rw [ask_selectBy]
  generalize (pool.rows (Record.table record)).find? (meets [(column, value)]) = foundRow
    at found ⊢
  generalize shelf.find? test = onShelf at found ⊢
  cases found with
  | none => rfl
  | some kept =>
      simp only [kept.decode_eq]
      rfl

/-- Looking for an identifier yields the record that has it. -/
theorem ask_selectBy_id
    (holds : Holds (pool.rows (Record.table record)) shelf)
    (id : Uuid) :
    pool.ask (Stored.selectBy record "id" (Row.ofUuid id)) =
      Except.ok (shelf.find? fun stored => decide (stored.id = id)) :=
  holds.ask_selectBy_of_forall_eq fun stored row kept => by
    rw [Bool.eq_iff_iff, decide_eq_true_iff]
    exact hasId_iff_of_isKeptAs kept id

theorem ask_selectBy_id_of_mem
    (holds : Holds (pool.rows (Record.table record)) shelf)
    (onShelf : stored ∈ shelf) :
    pool.ask (Stored.selectBy record "id" (Row.ofUuid stored.id)) = Except.ok (some stored) := by
  rw [holds.ask_selectBy_id, Stored.find?_id_of_mem holds.distinct onShelf]

/-- Looking for a value of a column does not fail. -/
theorem exists_ask_selectBy
    (holds : Holds (pool.rows (Record.table record)) shelf)
    (column : String)
    (value : Json) :
    ∃ found, pool.ask (Stored.selectBy record column value) = Except.ok found := by
  rw [ask_selectBy]
  cases first : (pool.rows (Record.table record)).find? (meets [(column, value)]) with
  | none => exact ⟨none, rfl⟩
  | some row =>
      obtain ⟨stored, _, kept⟩ := holds.exists_isKeptAs (List.mem_of_find?_eq_some first)
      refine ⟨some stored, ?_⟩
      simp only [kept.decode_eq]
      rfl

theorem ask_select (holds : Holds (pool.rows (Record.table record)) shelf) :
    pool.ask (Stored.select record [] none none) = Except.ok shelf := by
  have selected : (pool.apply (Stored.select record [] none none).statement).1 =
      pool.rows (Record.table record) := List.filter_eq_self.2 fun _ _ => rfl
  rw [ask, selected]
  exact holds.decodeAll_eq

/-! ## Writing -/

/-- A record under a new identifier is put behind the others. -/
theorem append
    (holds : Holds rows shelf)
    (kept : stored.IsKeptAs row)
    (fresh : stored.id ∉ shelf.map Stored.id) :
    Holds (rows ++ [row]) (shelf ++ [stored]) where
  kept := List.rel_append holds.kept (List.Forall₂.cons kept List.Forall₂.nil)
  distinct := by
    rw [List.map_append]
    exact List.Nodup.append holds.distinct (List.nodup_singleton stored.id)
      (List.disjoint_singleton.2 fresh)

/-- If the columns of a record are written over the rows that have its identifier, it stands in the
place of the record that had it. -/
theorem map_revise
    {changes : Row}
    (holds : Holds rows shelf)
    (kept : stored.IsKeptAs row)
    (makes : ∀ (old : Stored record) (oldRow : Row), old.IsKeptAs oldRow → old.id = stored.id →
      merge oldRow changes = row) :
    Holds (rows.map (revise stored.id changes)) (shelf.map (Stored.replace stored)) where
  kept := by
    obtain ⟨allKept, -⟩ := holds
    induction allKept with
    | nil => exact List.Forall₂.nil
    | @cons first firstRow _ _ isFirst _ inductionHypothesis =>
        refine List.Forall₂.cons ?_ inductionHypothesis
        have sameTest := hasId_iff_of_isKeptAs isFirst stored.id
        unfold Stored.replace revise
        by_cases same : first.id = stored.id
        · rw [if_pos same, if_pos (sameTest.2 same), makes first firstRow isFirst same]
          exact kept
        · rw [if_neg same, if_neg (mt sameTest.1 same)]
          exact isFirst
  distinct := by
    simpa [Function.comp_def] using holds.distinct

/-- Inserting a record whose values fit yields its identifier. -/
theorem ask_insert
    {data : record}
    (pool : Pool)
    (id : Uuid)
    (storable : Record.Faithful.IsStorable data) :
    pool.ask (Stored.insert id data) = Except.ok id := by
  obtain ⟨columns, encoded, _⟩ := Record.Faithful.exists_columns data storable
  simp only [ask, Stored.insert, encoded]
  rfl

/-- Inserting a record under a new identifier puts it behind the others. -/
theorem apply_insert
    (holds : Holds (pool.rows (Record.table record)) shelf)
    (storable : Record.Faithful.IsStorable stored.data)
    (fresh : stored.id ∉ shelf.map Stored.id) :
    Holds ((pool.apply (Stored.insert stored.id stored.data).statement).2.rows
      (Record.table record)) (shelf ++ [stored]) := by
  obtain ⟨row, kept⟩ := Stored.exists_isKeptAs storable
  rw [kept.statement_insert]
  simpa [apply, seed] using holds.append kept fresh

/-- Writing a record puts it in the place of the one with its identifier. -/
theorem apply_update
    (holds : Holds (pool.rows (Record.table record)) shelf)
    (storable : Record.Faithful.IsStorable stored.data) :
    Holds ((pool.apply stored.update.statement).2.rows (Record.table record))
      (shelf.map (Stored.replace stored)) := by
  obtain ⟨row, kept⟩ := Stored.exists_isKeptAs storable
  obtain ⟨changes, statement, makes⟩ := kept.exists_statement_update
  rw [statement]
  simpa [apply, updateFirst_eq_map holds.isKeyed.distinct] using holds.map_revise kept makes

/-- Writing a record that is not on the shelf changes no table. -/
theorem rows_apply_update_of_not_mem
    (holds : Holds (pool.rows (Record.table record)) shelf)
    (unknown : stored.id ∉ shelf.map Stored.id)
    (table : String) :
    (pool.apply stored.update.statement).2.rows table = pool.rows table := by
  obtain ⟨changes, statement⟩ : ∃ changes,
      stored.update.statement = Statement.update (Record.table record) stored.id changes := by
    unfold Stored.update
    split
    · exact ⟨_, rfl⟩
    · exact ⟨_, rfl⟩
  have areOthers : ∀ row ∈ pool.rows (Record.table record), hasId stored.id row = false := by
    intro row present
    obtain ⟨old, onShelf, kept⟩ := holds.exists_isKeptAs present
    refine Bool.eq_false_iff.2 fun has => unknown ?_
    exact (hasId_iff_of_isKeptAs kept stored.id).1 has ▸ List.mem_map_of_mem onShelf
  rw [statement]
  simp only [apply, rows_setRows, updateFirst_eq_map holds.isKeyed.distinct,
    map_revise_of_forall_not_hasId areOthers]
  split
  next same => rw [same]
  next => rfl

/-- Writing a record that is on the shelf changes its row, which is then read as the record, and no
other. -/
theorem exists_rows_apply_update
    (holds : Holds (pool.rows (Record.table record)) shelf)
    (storable : Record.Faithful.IsStorable stored.data)
    (onShelf : stored.id ∈ shelf.map Stored.id) :
    ∃ before row after changed,
      pool.rows (Record.table record) = before ++ row :: after ∧
        row.find? "id" = some (Row.ofUuid stored.id) ∧
        Stored.decode changed = Except.ok stored ∧
        (pool.apply stored.update.statement).2.rows (Record.table record) =
          before ++ changed :: after := by
  obtain ⟨changed, kept⟩ := Stored.exists_isKeptAs storable
  obtain ⟨changes, statement, makes⟩ := kept.exists_statement_update
  obtain ⟨row, old, isFound, oldKept, sameId⟩ := holds.exists_find?_hasId onShelf
  obtain ⟨has, before, after, parts, areBefore⟩ := List.find?_eq_some_iff_append.1 isFound
  have distinct := holds.isKeyed.distinct
  refine ⟨before, row, after, changed, parts, (hasId_iff stored.id row).1 has, kept.decode_eq, ?_⟩
  have areAfter : ∀ other ∈ after, hasId stored.id other = false := by
    intro other present
    rw [parts, List.pairwise_append, List.pairwise_cons] at distinct
    refine Bool.eq_false_iff.2 fun hasToo => distinct.2.1.1 other present ?_
    rw [(hasId_iff stored.id row).1 has, (hasId_iff stored.id other).1 hasToo]
  have revised : revise stored.id changes row = changed := by
    rw [revise, if_pos has, makes old row oldKept sameId]
  rw [statement]
  simp only [apply, rows_setRows, if_true, updateFirst_eq_map distinct]
  rw [parts, List.map_append, List.map_cons, revised, map_revise_of_forall_not_hasId areAfter,
    map_revise_of_forall_not_hasId fun other present => by simpa using areBefore other present]

end Holds

end Pool

end Screencast
