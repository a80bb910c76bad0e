import Screencast.Proofs.Json.Shapes
import Screencast.Proofs.Store.Commuting
import Screencast.Store.Snapshot

/-!
# Snapshots survive

What was saved is restored: a pool into which the tables of another one were restored answers every
statement as the other one does. A file that holds no snapshot changes nothing.
-/

namespace Screencast

/-- The fields of all values in a statement are in order. -/
def Statement.IsOrdered : Statement → Prop
  | select _ _ _ _ => True
  | insert _ row => (Json.object row).IsOrdered
  | update _ _ changes => ∀ pair ∈ changes, pair.2.IsOrdered

/-- A tree is a map of arrays of objects. -/
def JsonSource.IsTables (source : JsonSource) : Prop :=
  ∃ fields, source = object fields ∧ ∀ field ∈ fields, ∃ items, field.2 = array items ∧
    ∀ item ∈ items, ∃ columns, item = object columns

namespace Pool

variable {pool other : Pool} {table : String} {rows : List Row}

/-! ## Tables as they can be -/

/-- The tables and the fields of all values in their rows are in order. -/
structure IsTidy (pool : Pool) : Prop where
  sorted : pool.tables.IsSorted
  ordered : ∀ entry ∈ pool.tables, ∀ row ∈ entry.2, (Json.object row).IsOrdered

namespace IsTidy

/-- The fields in the rows of a table are in order. -/
theorem isOrdered_of_mem_rows (tidy : pool.IsTidy) :
    ∀ row ∈ pool.rows table, (Json.object row).IsOrdered := by
  intro row present
  rw [rows] at present
  cases isFound : pool.tables.find? table with
  | none => simp [isFound] at present
  | some found =>
      rw [isFound] at present
      exact tidy.ordered (table, found) (KeyMap.mem_of_find?_eq_some isFound) row present

/-- The rows of a table may be replaced by others whose fields are in order. -/
theorem setRows
    (tidy : pool.IsTidy)
    (ordered : ∀ row ∈ rows, (Json.object row).IsOrdered) :
    (pool.setRows table rows).IsTidy where
  sorted := tidy.sorted.put table rows
  ordered := by
    intro entry present
    rcases KeyMap.mem_put present with rfl | isOld
    · exact ordered
    · exact tidy.ordered entry isOld

theorem seed
    (tidy : pool.IsTidy)
    (ordered : ∀ row ∈ rows, (Json.object row).IsOrdered) :
    (pool.seed table rows).IsTidy :=
  tidy.setRows (List.forall_mem_append.2 ⟨tidy.isOrdered_of_mem_rows, ordered⟩)

/-- A row over which values are written whose fields are in order is so itself. -/
theorem isOrdered_merge
    {row changes : Row}
    (ordered : (Json.object row).IsOrdered)
    (areOrdered : ∀ pair ∈ changes, pair.2.IsOrdered) :
    (Json.object (merge row changes)).IsOrdered := by
  obtain _ | _ | _ | _ | _ | ⟨sorted, all⟩ := ordered
  refine Json.IsOrdered.object (isSorted_merge sorted changes) fun field present => ?_
  rcases mem_merge present with isChange | isOld
  · exact areOrdered field isChange
  · exact all field isOld

/-- Rows stay in order if values are written over one of them whose fields are in order. -/
theorem isOrdered_updateFirst
    {id : Uuid}
    {changes : Row}
    (ordered : ∀ row ∈ rows, (Json.object row).IsOrdered)
    (areOrdered : ∀ pair ∈ changes, pair.2.IsOrdered) :
    ∀ row ∈ (updateFirst id changes rows).1, (Json.object row).IsOrdered := by
  induction rows with
  | nil => exact ordered
  | cons row rest inductionHypothesis =>
      obtain ⟨isOrdered, orderedToo⟩ := List.forall_mem_cons.1 ordered
      cases has : hasId id row with
      | true =>
          rw [updateFirst_of_hasId has]
          exact List.forall_mem_cons.2 ⟨isOrdered_merge isOrdered areOrdered, orderedToo⟩
      | false =>
          rw [updateFirst_of_not_hasId has]
          exact List.forall_mem_cons.2 ⟨isOrdered, inductionHypothesis orderedToo⟩

/-- Statements whose fields are in order may be run. So what they make of a pool without tables is
tidy. -/
theorem applyAll
    (tidy : pool.IsTidy)
    {statements : List Statement}
    (ordered : ∀ statement ∈ statements, statement.IsOrdered) :
    (pool.applyAll statements).IsTidy := by
  induction statements generalizing pool with
  | nil => exact tidy
  | cons statement rest inductionHypothesis =>
      obtain ⟨isOrdered, areOrdered⟩ := List.forall_mem_cons.1 ordered
      refine inductionHypothesis ?_ areOrdered
      cases statement with
      | select table => exact tidy.setRows tidy.isOrdered_of_mem_rows
      | insert => exact tidy.seed (List.forall_mem_singleton.2 isOrdered)
      | update => exact tidy.setRows (isOrdered_updateFirst tidy.isOrdered_of_mem_rows isOrdered)

end IsTidy

/-! ## Reading a snapshot -/

theorem mem_snapshot_fields
    {entry : String × List Row}
    (present : entry ∈ pool.tables) :
    (entry.1, Json.array (entry.2.map Json.object)) ∈
      pool.tables.map fun (table, rows) => (table, Json.array (rows.map Json.object)) :=
  List.mem_map.2 ⟨entry, present, rfl⟩

/-- The numbers in the rows are integers if those in the snapshot are. -/
theorem isIntegral_of_snapshot
    (integral : pool.snapshot.IsIntegral)
    {entry : String × List Row}
    (present : entry ∈ pool.tables)
    {row : Row}
    (inRows : row ∈ entry.2) :
    (Json.object row).IsIntegral := by
  obtain _ | _ | _ | _ | _ | ⟨areIntegral⟩ := integral
  obtain _ | _ | _ | _ | ⟨all⟩ := areIntegral _ (mem_snapshot_fields present)
  exact all _ (List.mem_map_of_mem inRows)

/-- A row is less deep than the snapshot by two at least. -/
theorem depth_add_two_le
    {entry : String × List Row}
    (present : entry ∈ pool.tables)
    {row : Row}
    (inRows : row ∈ entry.2) :
    (Json.object row).depth + 2 ≤ pool.snapshot.depth := by
  have inTable := Json.depth_le_depthItems (List.mem_map_of_mem (f := Json.object) inRows)
  have ofTable : (Json.array (entry.2.map Json.object)).depth =
      Json.depthItems (entry.2.map Json.object) + 1 := by rw [Json.depth]
  have inSnapshot : (Json.array (entry.2.map Json.object)).depth ≤ _ :=
    Json.depth_le_depthFields (mem_snapshot_fields present)
  have ofSnapshot : pool.snapshot.depth = Json.depthFields (pool.tables.map fun (table, rows) =>
      (table, Json.array (rows.map Json.object))) + 1 := by rw [snapshot, Json.depth]
  omega

/-- All tables are read from a saved pool. -/
theorem readTables?_save
    (ordered : ∀ entry ∈ pool.tables, ∀ row ∈ entry.2, (Json.object row).IsOrdered)
    (integral : pool.snapshot.IsIntegral)
    (isShallow : pool.snapshot.depth ≤ 127) :
    readTables? pool.save = some (KeyMap.ofList pool.tables) := by
  have isRead : JsonSource.read? pool.save = some pool.snapshot.source := by
    rw [save, Json.pretty, Json.indented_eq_written]
    exact JsonSource.read?_written Layout.isBlank_lined integral 0
  rw [readTables?, isRead, Option.bind_eq_bind, Option.bind_some]
  refine Shape.map_source (fun rows : List Row => Json.array (rows.map Json.object))
    (by decide : 1 < JsonSource.nesting) fun entry present => ?_
  refine Shape.list_source Json.object (by decide) fun row inRows => ?_
  refine Shape.row_source (isIntegral_of_snapshot integral present inRows)
    (ordered entry present row inRows) ?_
  have isLessDeep := depth_add_two_le present inRows
  rw [JsonSource.nesting]
  omega

/-- What is read as tables is a map of arrays of objects. -/
theorem isTables_of_readTables?
    {bytes : Bytes}
    {tables : KeyMap (List Row)}
    (areRead : readTables? bytes = some tables) :
    ∃ source, JsonSource.read? bytes = some source ∧ source.IsTables := by
  obtain ⟨source, isRead, isMap⟩ := Option.bind_eq_some_iff.1 areRead
  obtain ⟨fields, isObject, fieldsAreRead⟩ := Shape.exists_object_of_map isMap
  refine ⟨source, isRead, fields, isObject, fun field present => ?_⟩
  obtain ⟨_, _, isList⟩ := fieldsAreRead field present
  obtain ⟨items, isArray, itemsAreRead⟩ := Shape.exists_array_of_list isList
  refine ⟨items, isArray, fun item inItems => ?_⟩
  obtain ⟨_, _, isRow⟩ := itemsAreRead item inItems
  exact Shape.exists_object_of_row isRow

/-! ## Restoring -/

/-- The answers to statements that are run one after another. -/
def answers (pool : Pool) : List Statement → List (List Row)
  | [] => []
  | statement :: rest => (pool.apply statement).1 :: (pool.apply statement).2.answers rest

/-- The answers to statements depend on the tables alone. -/
theorem answers_congr
    (same : pool.tables = other.tables)
    (statements : List Statement) :
    pool.answers statements = other.answers statements := by
  induction statements generalizing pool other with
  | nil => rfl
  | cons statement rest inductionHypothesis =>
      obtain ⟨sameAnswer, sameThen⟩ := apply_congr same statement
      rw [answers, answers, sameAnswer, inductionHypothesis sameThen]

/-- What a pool of tables was saved as is restored, in whatever order the tables were saved. -/
theorem restore?_save
    {saved : Pool}
    (tidy : pool.IsTidy)
    (isListing : saved.tables.Perm pool.tables)
    (integral : saved.snapshot.IsIntegral)
    (isShallow : saved.snapshot.depth ≤ 127)
    (other : Pool) :
    other.restore? saved.save = some { other with tables := pool.tables } := by
  have ordered : ∀ entry ∈ saved.tables, ∀ row ∈ entry.2, (Json.object row).IsOrdered :=
    fun entry present => tidy.ordered entry (isListing.mem_iff.1 present)
  rw [restore?, readTables?_save ordered integral isShallow,
    tidy.sorted.ofList_eq_of_perm isListing]
  rfl

/-- A saved pool is not restored if anything but blanks was added to the file. -/
theorem restore?_save_append
    {trailing : Bytes}
    (integral : pool.snapshot.IsIntegral)
    (notBlank : ¬JsonSource.IsBlank trailing)
    (other : Pool) :
    other.restore? (pool.save ++ trailing) = none := by
  have isUnread : JsonSource.read? (pool.save ++ trailing) = none := by
    rw [save, Json.pretty, Json.indented_eq_written]
    exact JsonSource.read?_written_object_append Layout.isBlank_lined integral 0 notBlank
  rw [restore?, readTables?, isUnread]
  rfl

/-- Restoring changes nothing but the tables, and not even these if it fails. -/
theorem restore_cases (pool : Pool) (file : Option Bytes) :
    (∃ content tables, file = some content ∧ readTables? content = some tables ∧
        pool.restore file = (Except.ok (), { pool with tables })) ∨
      ∃ error, pool.restore file = (Except.error error, pool) := by
  cases file with
  | none => exact Or.inr ⟨RestoreError.missing, rfl⟩
  | some content =>
      cases areRead : readTables? content with
      | none =>
          refine Or.inr ⟨RestoreError.malformed, ?_⟩
          simp only [restore, restore?, areRead, Option.map_none]
      | some tables =>
          refine Or.inl ⟨content, tables, rfl, areRead, ?_⟩
          simp only [restore, restore?, areRead, Option.map_some]

/-- Tables whose numbers are integers and that are not nested too deeply survive: they are restored
into any pool, tables that were not saved are empty then, and all statements are answered as before.
A file that is not there, that is no map of arrays of objects or that has something behind it is not
restored and leaves the tables alone. Nothing but the tables is changed in any case. -/
theorem restore_save (other : Pool) :
    (∀ pool saved : Pool, pool.IsTidy → saved.tables.Perm pool.tables →
      saved.snapshot.IsIntegral → saved.snapshot.depth ≤ 127 →
        let restored := other.restore (some saved.save)
        restored.1 = Except.ok () ∧
          (∀ table, restored.2.rows table = pool.rows table) ∧
          (∀ table, table ∉ saved.tables.keys → restored.2.rows table = []) ∧
          (∀ statements, restored.2.answers statements = pool.answers statements) ∧
          ∀ trailing, ¬JsonSource.IsBlank trailing →
            other.restore (some (saved.save ++ trailing)) =
              (Except.error RestoreError.malformed, other)) ∧
      other.restore none = (Except.error RestoreError.missing, other) ∧
      ∀ file,
        let left := other.restore file
        left.2 = { other with tables := left.2.tables } ∧
          (left.1 ≠ Except.ok () → left.2 = other) ∧
          (left.1 = Except.ok () → ∃ content source, file = some content ∧
            JsonSource.read? content = some source ∧ source.IsTables) := by
  refine ⟨?survives, rfl, ?fails⟩
  case survives =>
    intro pool saved tidy isListing integral isShallow restored
    have isRestored : restored = (Except.ok (), { other with tables := pool.tables }) := by
      simp only [restored, restore, restore?_save tidy isListing integral isShallow other]
    rw [isRestored]
    refine ⟨rfl, fun table => rfl, fun table absent => ?_, fun statements => ?_,
      fun trailing notBlank => ?_⟩
    · have notThere : pool.tables.find? table = none := by
        rw [← KeyMap.find?_eq_of_perm tidy.sorted.nodup isListing]
        exact KeyMap.find?_eq_none_of_not_mem absent
      simp only [rows, notThere, Option.getD_none]
    · have sameTables : ({ other with tables := pool.tables } : Pool).tables = pool.tables := rfl
      exact answers_congr sameTables statements
    · simp only [restore, restore?_save_append integral notBlank]
  case fails =>
    intro file left
    rcases other.restore_cases file with
      ⟨content, tables, isFile, areRead, isRestored⟩ | ⟨error, isFailure⟩
    · obtain ⟨source, isRead, areTables⟩ := isTables_of_readTables? areRead
      have isLeft : left = (Except.ok (), { other with tables }) := isRestored
      rw [isLeft]
      exact ⟨rfl, fun isNotOk => absurd rfl isNotOk,
        fun _ => ⟨content, source, isFile, isRead, areTables⟩⟩
    · have isLeft : left = (Except.error error, other) := isFailure
      rw [isLeft]
      exact ⟨rfl, fun _ => rfl, by rintro ⟨⟩⟩

/-- A row with quotes, control characters, letters beyond ASCII, integers of both kinds and nested
values survives in a pool with counters of its own. A file with something else in it does not replace
the row. -/
theorem restore_save_of_strange_texts :
    let row : Row :=
      [("a\"b\\c", Json.string "Zoë \n\t\x01\x1f\x7f 漢字 😀"),
        ("n", Json.array [Json.integer (-9223372036854775808),
          Json.integer 18446744073709551615, Json.object [("", Json.null)]])]
    let pool : Pool := { tables := [("episodes", []), ("users", [row])] }
    let other : Pool := { tables := [("gifts", [row])], held := 3, acquired := 5, released := 2 }
    let restored := (other.restore (some pool.save)).2
    pool.IsTidy ∧ pool.snapshot.IsIntegral ∧ pool.snapshot.depth ≤ 127 ∧
      restored.rows "users" = [row] ∧ restored.rows "gifts" = [] ∧ restored.held = 3 ∧
      (other.restore (some (pool.save ++ Text.encode "x"))).2.rows "gifts" = [row] := by
  intro row pool other restored
  have ordered : (Json.object row).IsOrdered := by
    refine Json.IsOrdered.object (List.pairwise_pair.2 (by decide)) ?_
    refine List.forall_mem_cons.2 ⟨Json.IsOrdered.string _, List.forall_mem_singleton.2 ?_⟩
    refine Json.IsOrdered.array (List.forall_mem_cons.2 ⟨Json.IsOrdered.number _, ?_⟩)
    refine List.forall_mem_cons.2 ⟨Json.IsOrdered.number _, List.forall_mem_singleton.2 ?_⟩
    exact Json.IsOrdered.object (List.pairwise_singleton _ _)
      (List.forall_mem_singleton.2 Json.IsOrdered.null)
  have integral : (Json.object row).IsIntegral := by
    refine Json.IsIntegral.object ?_
    refine List.forall_mem_cons.2 ⟨Json.IsIntegral.string _, List.forall_mem_singleton.2 ?_⟩
    refine Json.IsIntegral.array (List.forall_mem_cons.2 ⟨?_, ?_⟩)
    · exact Json.IsIntegral.integer (by decide) (by decide)
    refine List.forall_mem_cons.2 ⟨?_, List.forall_mem_singleton.2 ?_⟩
    · exact Json.IsIntegral.integer (by decide) (by decide)
    exact Json.IsIntegral.object (List.forall_mem_singleton.2 Json.IsIntegral.null)
  have tidy : pool.IsTidy := by
    have noTables : ({} : Pool).IsTidy := ⟨List.Pairwise.nil, List.forall_mem_nil _⟩
    have areOrdered : ∀ statement ∈
        [Statement.insert "users" row, Statement.select "episodes" [] none none],
        statement.IsOrdered :=
      List.forall_mem_cons.2 ⟨ordered, List.forall_mem_singleton.2 trivial⟩
    exact noTables.applyAll areOrdered
  have allIntegral : pool.snapshot.IsIntegral := by
    refine Json.IsIntegral.object (List.forall_mem_cons.2 ⟨?_, List.forall_mem_singleton.2 ?_⟩)
    · exact Json.IsIntegral.array (List.forall_mem_nil _)
    · exact Json.IsIntegral.array (List.forall_mem_singleton.2 integral)
  have isShallow : pool.snapshot.depth ≤ 127 := by decide
  have notBlank : ¬JsonSource.IsBlank (Text.encode "x") := fun areBlank =>
    absurd (areBlank 0x78 (List.mem_singleton.2 rfl)) (by decide)
  obtain ⟨survives, _, fails⟩ := restore_save other
  obtain ⟨_, sameRows, othersEmpty, _, refused⟩ :=
    survives pool pool tidy (List.Perm.refl _) allIntegral isShallow
  obtain ⟨onlyTables, _⟩ := fails (some pool.save)
  refine ⟨tidy, allIntegral, isShallow, (sameRows "users").trans rfl,
    othersEmpty "gifts" (by decide), congrArg Pool.held onlyTables, ?_⟩
  rw [refused _ notBlank]
  rfl

end Pool

end Screencast
