import Screencast.Account.User
import Screencast.Proofs.Effect.OnTables
import Screencast.Serve.Thread

/-!
# Records that cannot be written

The query that writes a record fails if the record has no row. A server finds this out before it
asks for a connection, and does nothing. A captured run finds it out when a statement without
columns has been answered in its place: such an update leaves every row as it is, but such an
insertion leaves an empty row in the table.
-/

namespace Screencast

/-! ## Statements without columns -/

namespace Pool

/-- Changing no column changes no row. -/
theorem updateFirst_nil (id : Uuid) (rows : List Row) : (updateFirst id [] rows).1 = rows := by
  induction rows with
  | nil => rfl
  | cons row rows inductionHypothesis =>
      unfold updateFirst
      split
      · rfl
      · exact congrArg (row :: ·) inductionHypothesis

theorem rows_apply_update_nil (pool : Pool) (table : String) (id : Uuid) (other : String) :
    (pool.apply (Statement.update table id [])).2.rows other = pool.rows other := by
  simp only [apply, updateFirst_nil, rows_setRows]
  split
  next same => rw [same]
  next => rfl

/-- An insertion without columns adds an empty row to its table, and leaves all other tables as they
are. -/
theorem rows_apply_insert_nil (pool : Pool) (table other : String) :
    (pool.apply (Statement.insert table [])).2.rows other =
      if table = other then pool.rows other ++ [[]] else pool.rows other := by
  simp only [apply, seed, rows_setRows]
  split
  next same => rw [same]
  next => rfl

end Pool

/-! ## Rejected queries -/

namespace Query

variable {result : Type}

/-- Whenever a server runs the query, it goes on with the failure, and nothing else happens: no
connection is asked for, and nothing changes that threads share. -/
def FailsUnasked (issued : Query result) (failure : QueryError) : Prop :=
  ∀ {world : Type} (setup : Serve.Setup world) (scope : Serve.Scope)
    (owed cleanups : List Cleanup) (next : Except QueryError result → Chain world)
    (shared : Serve.Shared world),
    Serve.Thread.step setup { chain := Chain.query owed issued next, scope, cleanups } shared =
      (Serve.Progress.moved { chain := next (Except.error failure), scope, cleanups }, shared)

/-- Whenever a captured run on tables comes to the query, it goes on with the failure, but first the
statement is run on the tables and leaves these rows. -/
def FailsAnswered (issued : Query result) (failure : QueryError)
    (left : Pool → String → List Row) : Prop :=
  (∀ {world stub : Type} (session : Option Session) (body : Bytes)
    (answer : TaskDescription → stub → Except TaskError Answer × stub) (look : stub → world)
    (owed : List Cleanup) (next : Except QueryError result → Chain world)
    (recording : Recording (Pool × stub)),
    let standIn := StandIn.onTables session body answer look
    let run := (next (Except.error failure)).capture standIn
      { recording.note (Event.queried issued.statement) with
        state := ((recording.state.1.apply issued.statement).2, recording.state.2) }
    (Chain.query owed issued next).capture standIn recording =
      (run.1.after (Resolved.query issued.statement true), run.2)) ∧
  ∀ (pool : Pool) (table : String),
    (pool.apply issued.statement).2.rows table = left pool table

theorem failsUnasked_rejected (statement : Statement) (failure : QueryError) :
    (rejected statement failure : Query result).FailsUnasked failure :=
  fun _ _ _ _ _ _ => rfl

/-- A captured run answers a rejected query. -/
theorem failsAnswered_rejected
    {statement : Statement}
    {left : Pool → String → List Row}
    (leaves : ∀ pool table, (pool.apply statement).2.rows table = left pool table)
    (failure : QueryError) :
    (rejected statement failure : Query result).FailsAnswered failure left :=
  ⟨fun _ _ _ _ _ _ _ => rfl, leaves⟩

end Query

/-! ## Records without a row -/

namespace Stored

variable {record : Type} [Record record] {data : record} {error : RowError}

theorem insert_of_unwritable
    (unwritable : Record.encode data = Except.error error)
    (id : Uuid) :
    insert id data =
      Query.rejected (Statement.insert (Record.table record) []) (QueryError.parse error) := by
  simp only [insert, unwritable]

theorem update_of_unwritable
    (unwritable : Record.encode data = Except.error error)
    (id : Uuid) :
    update { id, data } =
      Query.rejected (Statement.update (Record.table record) id []) (QueryError.parse error) := by
  simp only [update, unwritable]

/-- The insertion and the update of a record that cannot be written fail with the reason, however
they are run. A server does nothing else. A captured run leaves all rows as they are after the
update, but one more row after the insertion: an empty one in the table of the record. -/
theorem fails_of_unwritable
    (unwritable : Record.encode data = Except.error error)
    (id : Uuid) :
    (insert id data).FailsUnasked (QueryError.parse error) ∧
      (update { id, data }).FailsUnasked (QueryError.parse error) ∧
      (update { id, data }).FailsAnswered (QueryError.parse error) Pool.rows ∧
      (insert id data).FailsAnswered (QueryError.parse error) fun pool table =>
        if Record.table record = table then pool.rows table ++ [[]] else pool.rows table := by
  rw [insert_of_unwritable unwritable, update_of_unwritable unwritable]
  refine ⟨Query.failsUnasked_rejected _ _, Query.failsUnasked_rejected _ _, ?_, ?_⟩
  · refine Query.failsAnswered_rejected (fun pool table => ?_) _
    exact pool.rows_apply_update_nil _ id table
  · refine Query.failsAnswered_rejected (fun pool table => ?_) _
    exact pool.rows_apply_insert_nil _ table

/-- A user who came an hour before the year 0, which no row can hold. -/
def ancientUser : User :=
  User.fresh "ana@example.com" (Uuid.drawn 1)
    { year := -1, month := 12, day := 31, hour := 23, minute := 0, second := 0, nanosecond := 0
      offsetMinutes := 0 }

/-- A server does not add a user who came before the year 0. -/
theorem failsUnasked_insert_ancientUser :
    Record.encode ancientUser = Except.error RowError.unwritableTimestamp ∧
      (insert (Uuid.drawn 2) ancientUser).FailsUnasked
        (QueryError.parse RowError.unwritableTimestamp) := by
  have unwritable : Record.encode ancientUser = Except.error RowError.unwritableTimestamp := rfl
  exact ⟨unwritable, (fails_of_unwritable unwritable (Uuid.drawn 2)).1⟩

/-- A captured run on empty tables that adds a user who came before the year 0 leaves an empty row
among the users. -/
theorem rows_capture_insert_ancientUser :
    let standIn : StandIn (Pool × Unit) Unit :=
      StandIn.onTables none [] (fun _ stub => (Except.error TaskError.cancelled, stub))
        fun stub => stub
    let chain : Chain Unit :=
      Chain.runQuery (insert (Uuid.drawn 2) ancientUser) fun _ => Chain.finish
    ({} : Pool).rows "users" = [] ∧
      (chain.capture standIn { state := ({}, ()) }).2.state.1.rows "users" = [[]] := by
  refine ⟨rfl, ?_⟩
  rw [insert_of_unwritable rfl]
  rfl

end Stored

end Screencast
