import Mathlib.Data.List.Induction
import Screencast.Proofs.Account.Faithful
import Screencast.Proofs.Site.Faithful
import Screencast.Proofs.Store.Shelf

/-!
# The ledger of stored records

The history of a store says which records were inserted, in which order, and which record was last
written under an identifier. Each table holds exactly the records that the history of the operations
on it tells of.
-/

namespace Screencast

/-- The types of records that are stored. -/
inductive Kind
  | user
  | signIn
  | teamMember
  | gift
  | playProgress
  deriving DecidableEq, Repr

namespace Kind

/-- The records of a type. -/
@[reducible]
def Data : Kind → Type
  | user => User
  | signIn => SignIn
  | teamMember => TeamMember
  | gift => Gift
  | playProgress => PlayProgress

instance instRecordData : (kind : Kind) → Record kind.Data
  | user => inferInstanceAs (Record User)
  | signIn => inferInstanceAs (Record SignIn)
  | teamMember => inferInstanceAs (Record TeamMember)
  | gift => inferInstanceAs (Record Gift)
  | playProgress => inferInstanceAs (Record PlayProgress)

instance instFaithfulData : (kind : Kind) → Record.Faithful kind.Data
  | user => inferInstanceAs (Record.Faithful User)
  | signIn => inferInstanceAs (Record.Faithful SignIn)
  | teamMember => inferInstanceAs (Record.Faithful TeamMember)
  | gift => inferInstanceAs (Record.Faithful Gift)
  | playProgress => inferInstanceAs (Record.Faithful PlayProgress)

/-- The table of a type. -/
def table (kind : Kind) : String := Record.table kind.Data

/-- Every type has a table of its own. -/
theorem table_injective : Function.Injective table := by
  intro left right same
  cases left <;> cases right <;> first | rfl | exact absurd same (by decide)

end Kind

/-- An operation on the records of one type. -/
inductive Operation
  | insert (kind : Kind) (stored : Stored kind.Data)
  | update (kind : Kind) (stored : Stored kind.Data)
  | select (kind : Kind) (filter : List (String × Json)) (order : Option Order)
      (limit : Option Nat)
  | selectBy (kind : Kind) (column : String) (value : Json)

namespace Operation

/-- The statement of an operation. -/
def statement : Operation → Statement
  | insert _ stored => (Stored.insert stored.id stored.data).statement
  | update _ stored => stored.update.statement
  | select kind filter order limit => (Stored.select kind.Data filter order limit).statement
  | selectBy kind column value => (Stored.selectBy kind.Data column value).statement

/-- Whether the record that an operation writes fits into its columns. -/
def IsStorable : Operation → Prop
  | insert _ stored => Record.Faithful.IsStorable stored.data
  | update _ stored => Record.Faithful.IsStorable stored.data
  | select .. => True
  | selectBy .. => True

/-- The record of a type that an operation inserts, if it inserts one. -/
def inserted? (kind : Kind) : Operation → Option (Stored kind.Data)
  | insert other stored => if same : other = kind then some (same ▸ stored) else none
  | update .. => none
  | select .. => none
  | selectBy .. => none

/-- The record of a type that an operation writes, if it writes one. -/
def written? (kind : Kind) : Operation → Option (Stored kind.Data)
  | insert other stored => if same : other = kind then some (same ▸ stored) else none
  | update other stored => if same : other = kind then some (same ▸ stored) else none
  | select .. => none
  | selectBy .. => none

/-- What is inserted is written. -/
theorem written?_of_inserted?
    {kind : Kind}
    {operation : Operation}
    {stored : Stored kind.Data}
    (inserts : operation.inserted? kind = some stored) :
    operation.written? kind = some stored := by
  cases operation with
  | insert => exact inserts
  | update => cases inserts
  | select => cases inserts
  | selectBy => cases inserts

end Operation

namespace Ledger

variable {kind : Kind} {operations : List Operation} {operation : Operation} {id : Uuid}
  {stored : Stored kind.Data}

/-- The identifiers under which records of a type were inserted, the oldest first. -/
def ids (kind : Kind) (operations : List Operation) : List Uuid :=
  operations.filterMap fun operation => (operation.inserted? kind).map Stored.id

/-- The record that was last written under an identifier, if there was one inserted under it. -/
def lastWritten? (kind : Kind) (operations : List Operation) (id : Uuid) :
    Option (Stored kind.Data) :=
  if id ∈ ids kind operations then
    (operations.filterMap (Operation.written? kind)).reverse.find? fun stored => stored.id = id
  else none

/-- The records of a type in the order in which they were inserted, as they were last written. -/
def shelf (kind : Kind) (operations : List Operation) : List (Stored kind.Data) :=
  (ids kind operations).filterMap (lastWritten? kind operations)

/-- The pool after operations that are run one after another. -/
def run (pool : Pool) (operations : List Operation) : Pool :=
  operations.foldl (fun pool operation => (pool.apply operation.statement).2) pool

/-- Something was written under every identifier of an inserted record. -/
theorem exists_lastWritten? (isInserted : id ∈ ids kind operations) :
    ∃ stored, lastWritten? kind operations id = some stored := by
  obtain ⟨operation, present, inserts⟩ := List.mem_filterMap.1 isInserted
  obtain ⟨stored, isStored, hasId⟩ := Option.map_eq_some_iff.1 inserts
  have isWritten : stored ∈ (operations.filterMap (Operation.written? kind)).reverse :=
    List.mem_reverse.2
      (List.mem_filterMap.2 ⟨operation, present, Operation.written?_of_inserted? isStored⟩)
  rw [lastWritten?, if_pos isInserted]
  exact Option.isSome_iff_exists.1 (List.find?_isSome.2 ⟨stored, isWritten, decide_eq_true hasId⟩)

/-- Only records that were inserted are written, and under their own identifiers. -/
theorem mem_ids_and_id_eq (isLast : lastWritten? kind operations id = some stored) :
    id ∈ ids kind operations ∧ stored.id = id := by
  unfold lastWritten? at isLast
  split at isLast
  next isInserted =>
    have hasId := List.find?_some isLast
    exact ⟨isInserted, of_decide_eq_true hasId⟩
  next => cases isLast

/-- The records of a type are those that were last written under their identifiers. -/
theorem mem_shelf_iff :
    stored ∈ shelf kind operations ↔ lastWritten? kind operations stored.id = some stored := by
  refine List.mem_filterMap.trans ⟨?_, fun isLast => ?_⟩
  · rintro ⟨id, _, isLast⟩
    obtain ⟨_, rfl⟩ := mem_ids_and_id_eq isLast
    exact isLast
  · exact ⟨stored.id, (mem_ids_and_id_eq isLast).1, isLast⟩

/-- The identifiers of the records of a type are those under which they were inserted. -/
theorem map_id_shelf : (shelf kind operations).map Stored.id = ids kind operations := by
  have own : ∀ id ∈ ids kind operations,
      (lastWritten? kind operations id).map Stored.id = some id := by
    intro id isInserted
    obtain ⟨stored, isLast⟩ := exists_lastWritten? isInserted
    rw [isLast, Option.map_some, (mem_ids_and_id_eq isLast).2]
  rw [shelf, List.map_filterMap, List.filterMap_congr own]
  exact List.filterMap_some

/-- The record with an identifier is the one that was last written under it. -/
theorem find?_shelf (id : Uuid) :
    ((shelf kind operations).find? fun stored => decide (stored.id = id)) =
      lastWritten? kind operations id := by
  have isLast : ∀ stored,
      ((shelf kind operations).find? fun stored => decide (stored.id = id)) = some stored →
        lastWritten? kind operations id = some stored := by
    intro stored isFound
    have hasId := List.find?_some isFound
    obtain rfl := of_decide_eq_true hasId
    exact mem_shelf_iff.1 (List.mem_of_find?_eq_some isFound)
  refine Option.ext fun stored => ⟨isLast stored, fun isWritten => ?_⟩
  obtain ⟨_, hasId⟩ := mem_ids_and_id_eq isWritten
  have onShelf : stored ∈ shelf kind operations := mem_shelf_iff.2 (hasId ▸ isWritten)
  have isSome : ((shelf kind operations).find? fun stored => decide (stored.id = id)).isSome =
      true := List.find?_isSome.2 ⟨stored, onShelf, decide_eq_true hasId⟩
  obtain ⟨found, isFound⟩ := Option.isSome_iff_exists.1 isSome
  rw [isFound, ← isLast found isFound, isWritten]

/-! ## One more operation -/

theorem ids_append (kind : Kind) (operations : List Operation) (operation : Operation) :
    ids kind (operations ++ [operation]) =
      ids kind operations ++ ((operation.inserted? kind).map Stored.id).toList := by
  rw [ids, List.filterMap_append]
  cases inserts : (operation.inserted? kind).map Stored.id <;> simp [inserts, ids]

theorem mem_ids_append (isInserted : id ∈ ids kind operations) :
    id ∈ ids kind (operations ++ [operation]) := by
  rw [ids_append]
  exact List.mem_append_left _ isInserted

theorem lastWritten?_append_of_written?
    (writes : operation.written? kind = some stored)
    (isInserted : stored.id ∈ ids kind (operations ++ [operation])) :
    lastWritten? kind (operations ++ [operation]) stored.id = some stored := by
  rw [lastWritten?, if_pos isInserted]
  simp [writes]

/-- An operation leaves what was last written under other identifiers. -/
theorem lastWritten?_append_of_forall_ne
    (isInserted : id ∈ ids kind operations)
    (areOthers : ∀ stored ∈ operation.written? kind, stored.id ≠ id) :
    lastWritten? kind (operations ++ [operation]) id = lastWritten? kind operations id := by
  rw [lastWritten?, if_pos (mem_ids_append isInserted), lastWritten?, if_pos isInserted]
  cases writes : operation.written? kind with
  | none => simp [writes]
  | some stored => simp [writes, areOthers stored writes]

/-- An operation that writes no record of a type leaves the records of the type alone. -/
theorem shelf_append_of_written?_eq_none (writesNone : operation.written? kind = none) :
    shelf kind (operations ++ [operation]) = shelf kind operations := by
  have insertsNone : operation.inserted? kind = none :=
    Option.eq_none_iff_forall_ne_some.2 fun stored inserts =>
      nomatch writesNone.symm.trans (Operation.written?_of_inserted? inserts)
  rw [shelf, ids_append, insertsNone, Option.map_none, Option.toList_none, List.append_nil]
  exact List.filterMap_congr fun id isInserted =>
    lastWritten?_append_of_forall_ne isInserted (by simp [writesNone])

/-- A record that is inserted under a new identifier stands behind the others. -/
theorem shelf_append_insert (fresh : stored.id ∉ ids kind operations) :
    shelf kind (operations ++ [Operation.insert kind stored]) =
      shelf kind operations ++ [stored] := by
  have inserts : (Operation.insert kind stored).inserted? kind = some stored := dif_pos rfl
  have writes := Operation.written?_of_inserted? inserts
  have idsAfter : ids kind (operations ++ [Operation.insert kind stored]) =
      ids kind operations ++ [stored.id] := by
    rw [ids_append, inserts]
    rfl
  have isLast : lastWritten? kind (operations ++ [Operation.insert kind stored]) stored.id =
      some stored :=
    lastWritten?_append_of_written? writes (idsAfter ▸ List.mem_append_right _ List.mem_cons_self)
  have unchanged : ∀ id ∈ ids kind operations,
      lastWritten? kind (operations ++ [Operation.insert kind stored]) id =
        lastWritten? kind operations id := by
    intro id isInserted
    refine lastWritten?_append_of_forall_ne isInserted fun other isWritten => ?_
    obtain rfl := Option.some.inj (writes.symm.trans isWritten)
    exact fun same => fresh (same ▸ isInserted)
  rw [shelf, idsAfter, List.filterMap_append, List.filterMap_cons_some isLast,
    List.filterMap_nil, List.filterMap_congr unchanged, shelf]

/-- A record that is written stands in the place of the one with its identifier. -/
theorem shelf_append_update :
    shelf kind (operations ++ [Operation.update kind stored]) =
      (shelf kind operations).map (Stored.replace stored) := by
  have writes : (Operation.update kind stored).written? kind = some stored := dif_pos rfl
  have insertsNone : (Operation.update kind stored).inserted? kind = none := rfl
  rw [shelf, shelf, ids_append, insertsNone, Option.map_none, Option.toList_none,
    List.append_nil, List.map_filterMap]
  refine List.filterMap_congr fun id isInserted => ?_
  obtain ⟨old, isLast⟩ := exists_lastWritten? isInserted
  obtain ⟨_, rfl⟩ := mem_ids_and_id_eq isLast
  rw [isLast, Option.map_some, Stored.replace]
  by_cases same : old.id = stored.id
  · rw [if_pos same, same]
    exact lastWritten?_append_of_written? writes (mem_ids_append (same ▸ isInserted))
  · rw [if_neg same, ← isLast]
    refine lastWritten?_append_of_forall_ne isInserted fun other isWritten => ?_
    obtain rfl := Option.some.inj (writes.symm.trans isWritten)
    exact Ne.symm same

/-! ## Tables and history -/

/-- An operation that writes no record of a type leaves the table of the type alone. -/
theorem rows_apply_of_written?_eq_none
    (writesNone : operation.written? kind = none)
    (pool : Pool) :
    (pool.apply operation.statement).2.rows kind.table = pool.rows kind.table := by
  refine Pool.rows_apply_of_not_writesTo ?_ pool
  have isOther {other : Kind} {written : Stored other.Data}
      (writesNone : (if same : other = kind then some (same ▸ written) else none) =
        (none : Option (Stored kind.Data))) : other.table ≠ kind.table := by
    rintro sameTable
    obtain rfl := Kind.table_injective sameTable
    rw [dif_pos rfl] at writesNone
    cases writesNone
  cases operation with
  | insert other written => exact Pool.writesTo_insert (isOther writesNone)
  | update other written => exact Pool.writesTo_update (isOther writesNone)
  | select => rfl
  | selectBy => rfl

/-- If a table holds the records that the history tells of, it does so after another operation. -/
theorem holds_shelf_append
    {pool : Pool}
    (holds : Pool.Holds (pool.rows kind.table) (shelf kind operations))
    (storable : operation.IsStorable)
    (fresh : (ids kind (operations ++ [operation])).Nodup) :
    Pool.Holds ((pool.apply operation.statement).2.rows kind.table)
      (shelf kind (operations ++ [operation])) := by
  cases writes : operation.written? kind with
  | none =>
      rw [rows_apply_of_written?_eq_none writes, shelf_append_of_written?_eq_none writes]
      exact holds
  | some written =>
      cases operation with
      | insert other stored =>
          obtain ⟨rfl, _⟩ := Option.dite_none_right_eq_some.1 writes
          rw [ids_append, List.nodup_append] at fresh
          have isFresh : stored.id ∉ ids other operations := fun present =>
            fresh.2.2 stored.id present stored.id (by simp [Operation.inserted?]) rfl
          rw [shelf_append_insert isFresh]
          exact holds.apply_insert storable (map_id_shelf ▸ isFresh)
      | update other stored =>
          obtain ⟨rfl, _⟩ := Option.dite_none_right_eq_some.1 writes
          rw [shelf_append_update]
          exact holds.apply_update storable
      | select => cases writes
      | selectBy => cases writes

/-- After operations on an empty store every table holds the records that the history tells of. -/
theorem holds_shelf_run
    {pool : Pool}
    (empty : pool.rows kind.table = [])
    (storable : ∀ operation ∈ operations, operation.IsStorable)
    (fresh : (ids kind operations).Nodup) :
    Pool.Holds ((run pool operations).rows kind.table) (shelf kind operations) := by
  induction operations using List.reverseRecOn with
  | nil =>
      rw [run, List.foldl_nil, empty]
      exact Pool.holds_nil
  | append_singleton before operation inductionHypothesis =>
      obtain ⟨storableBefore, isStorable⟩ := List.forall_mem_append.1 storable
      have freshBefore : (ids kind before).Nodup := by
        rw [ids_append] at fresh
        exact (List.nodup_append.1 fresh).1
      rw [run, List.foldl_append]
      exact holds_shelf_append (inductionHypothesis storableBefore freshBefore)
        (isStorable operation List.mem_cons_self) fresh

/-- After operations on an empty store, each of which inserts under a new identifier or inserts
nothing, every table is a map from the identifiers under which records were inserted, in that order,
to the records that were last written under them. No row is missing, added or unreadable, writing a
record under an unknown identifier changes nothing, and writing one under a known identifier changes
its row alone. -/
theorem run_refines_history
    {pool : Pool}
    (empty : ∀ kind : Kind, pool.rows kind.table = [])
    (storable : ∀ operation ∈ operations, operation.IsStorable)
    (fresh : ∀ kind, (ids kind operations).Nodup)
    (kind : Kind) :
    Pool.IsKeyed ((run pool operations).rows kind.table) ∧
      ((run pool operations).rows kind.table).length = (ids kind operations).length ∧
      (∀ row ∈ (run pool operations).rows kind.table, ∃ stored : Stored kind.Data,
        Stored.decode row = Except.ok stored) ∧
      (∀ id, (run pool operations).ask (Stored.selectBy kind.Data "id" (Row.ofUuid id)) =
        Except.ok (lastWritten? kind operations id)) ∧
      (run pool operations).ask (Stored.select kind.Data [] none none) =
        Except.ok ((ids kind operations).filterMap (lastWritten? kind operations)) ∧
      (∀ stored : Stored kind.Data, stored.id ∉ ids kind operations →
        ∀ table, ((run pool operations).apply stored.update.statement).2.rows table =
          (run pool operations).rows table) ∧
      ∀ stored : Stored kind.Data, stored.id ∈ ids kind operations →
        Record.Faithful.IsStorable stored.data →
        (∃ before row after changed,
          (run pool operations).rows kind.table = before ++ row :: after ∧
            row.find? "id" = some (Row.ofUuid stored.id) ∧
            Stored.decode changed = Except.ok stored ∧
            ((run pool operations).apply stored.update.statement).2.rows kind.table =
              before ++ changed :: after) ∧
        ∀ table, kind.table ≠ table →
          ((run pool operations).apply stored.update.statement).2.rows table =
            (run pool operations).rows table := by
  have holds := holds_shelf_run (empty kind) storable (fresh kind)
  have sameIds : (shelf kind operations).map Stored.id = ids kind operations := map_id_shelf
  refine ⟨holds.isKeyed, ?rowCount, ?decodes, ?found, holds.ask_select, ?unknown, ?known⟩
  case rowCount => rw [holds.length_eq, ← sameIds, List.length_map]
  case decodes =>
    intro row present
    obtain ⟨stored, _, kept⟩ := holds.exists_isKeptAs present
    exact ⟨stored, kept.decode_eq⟩
  case found =>
    intro id
    rw [holds.ask_selectBy_id, find?_shelf]
  case unknown =>
    intro stored unknown
    exact holds.rows_apply_update_of_not_mem (sameIds ▸ unknown)
  case known =>
    intro stored known isStorable
    refine ⟨holds.exists_rows_apply_update isStorable (sameIds ▸ known), fun table isOther => ?_⟩
    exact Pool.rows_apply_of_not_writesTo (Pool.writesTo_update isOther) _

/-- An entry of play progress that was written over is found as it was last written, and the gift
that was inserted after it leaves it alone. -/
theorem run_refines_history_of_overwritten_progress :
    let entry (progress : Nat) : Stored Kind.playProgress.Data :=
      { id := Uuid.drawn 1
        data := { userId := Uuid.drawn 2, episodeNumber := 7, progress, furthestWatched := 90 } }
    let gift : Stored Kind.gift.Data :=
      { id := Uuid.drawn 1
        data :=
          { gifterEmail := none, gifterName := some "Ana", gifteeEmail := "bo@example.com",
            gifteeName := "Bo", sendAt := Timestamp.ofUnix 1717232400 0, message := "Enjoy!",
            subscriptionId := some "sub-1", activated := false, planCode := "gift-3-months" } }
    let operations : List Operation :=
      [Operation.insert Kind.playProgress (entry 30), Operation.insert Kind.gift gift,
        Operation.update Kind.playProgress (entry 60),
        Operation.selectBy Kind.gift "subscription_id" (Json.string "sub-1")]
    (∀ kind : Kind, ({} : Pool).rows kind.table = []) ∧
      (∀ operation ∈ operations, operation.IsStorable) ∧
      (∀ kind, (ids kind operations).Nodup) ∧
      (run {} operations).ask (Stored.selectBy PlayProgress "id" (Row.ofUuid (Uuid.drawn 1))) =
        Except.ok (some (entry 60)) ∧
      (run {} operations).ask (Stored.select Gift [] none none) = Except.ok [gift] := by
  intro entry gift operations
  have empty : ∀ kind : Kind, ({} : Pool).rows kind.table = [] := fun _ => rfl
  have entryFits (progress : Nat) (fits : ColumnType.IsWord progress) :
      PlayProgress.IsStorable (entry progress).data :=
    { episodeNumber := (by decide +kernel : ColumnType.IsWord 7)
      progress := fits
      furthestWatched := (by decide +kernel : ColumnType.IsWord 90) }
  have giftFits : Gift.IsStorable gift.data := by
    constructor <;> decide +kernel
  have storable : ∀ operation ∈ operations, operation.IsStorable :=
    List.forall_mem_cons.2 ⟨entryFits 30 (by decide +kernel),
      List.forall_mem_cons.2 ⟨giftFits,
        List.forall_mem_cons.2 ⟨entryFits 60 (by decide +kernel),
          List.forall_mem_singleton.2 trivial⟩⟩⟩
  have fresh : ∀ kind, (ids kind operations).Nodup := by
    intro kind
    cases kind <;> decide
  obtain ⟨_, _, _, found, _⟩ := run_refines_history empty storable fresh Kind.playProgress
  obtain ⟨_, _, _, _, selected, _⟩ := run_refines_history empty storable fresh Kind.gift
  exact ⟨empty, storable, fresh, found (Uuid.drawn 1), selected⟩

end Ledger

end Screencast
