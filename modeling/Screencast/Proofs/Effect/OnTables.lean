import Screencast.Effect.Capture
import Screencast.Proofs.Store.Pool

/-!
# Captured runs on tables

A stand-in may answer queries from the tables of a pool, and tasks in a way of its own. It may keep
a state of its own for the latter, in which the world outside can be seen.
-/

namespace Screencast

namespace StandIn

variable {stub world : Type}

/-- Answer queries from tables, without connections and without failures, and tasks by a stub. -/
def onTables (session : Option Session) (body : Bytes)
    (answer : TaskDescription → stub → Except TaskError Answer × stub) (look : stub → world) :
    StandIn (Pool × stub) world where
  session := session
  body := body
  query := fun statement (pool, stub) =>
    let (rows, pool) := pool.apply statement
    (Except.ok rows, pool, stub)
  task := fun description (pool, stub) =>
    let (answer, stub) := answer description stub
    (answer, pool, stub)
  world := fun (_, stub) => look stub

end StandIn

namespace Recording

variable {stub world : Type} (session : Option Session) (body : Bytes)
  (answer : TaskDescription → stub → Except TaskError Answer × stub) (look : stub → world)
  (recording : Recording (Pool × stub))

@[simp] theorem query_onTables (statement : Statement) :
    recording.query (StandIn.onTables session body answer look) statement =
      (Except.ok (recording.state.1.apply statement).1,
        { recording.note (Event.queried statement) with
          state := ((recording.state.1.apply statement).2, recording.state.2) }) := rfl

@[simp] theorem task_onTables (description : TaskDescription) :
    recording.task (StandIn.onTables session body answer look) description =
      ((answer description recording.state.2).1,
        { recording.note (Event.asked description) with
          state := (recording.state.1, (answer description recording.state.2).2) }) := rfl

end Recording

/-! ## What a run does -/

/-- Who answers a run on tables: what it is given, and a fixed answer to each task. -/
structure Surroundings (world : Type) where
  session : Option Session
  body : Bytes
  answer : TaskDescription → Except TaskError Answer
  world : world

namespace Surroundings

variable {world : Type}

/-- The stand-in that answers as the surroundings do. -/
def standIn (around : Surroundings world) : StandIn (Pool × Unit) world :=
  StandIn.onTables around.session around.body (fun description _ => (around.answer description, ()))
    fun _ => around.world

/-- Run a chain on the tables of a pool. The result is its outcome and the pool afterwards. -/
def run (around : Surroundings world) (chain : Chain world) (pool : Pool) : Outcome × Pool :=
  let (outcome, recording) := chain.capture around.standIn { state := (pool, ()) }
  (outcome, recording.state.1)

/-- A run hands the body on, and keeps its length. -/
theorem run_withBody
    (around : Surroundings world)
    (next : Bytes → Chain world)
    (pool : Pool) :
    around.run (Chain.withBody next) pool =
      ((around.run (next around.body) pool).1.after (Resolved.body around.body.length),
        (around.run (next around.body) pool).2) := rfl

/-- A chain, run on the rows of a pool, issues only statements of a kind, issues some tasks, and
leaves the rows of another pool. What its detached chains do is included. -/
def Does (around : Surroundings world) (kind : Statement → Prop) (chain : Chain world) (pool : Pool)
    (tasks : List TaskDescription) (left : Pool) : Prop :=
  ∀ recording : Recording (Pool × Unit), (∀ table, recording.state.1.rows table = pool.rows table) →
    (∀ statement ∈ (chain.capture around.standIn recording).1.allQueries, kind statement) ∧
      (chain.capture around.standIn recording).1.allTasks = tasks ∧
      ∀ table, (chain.capture around.standIn recording).2.state.1.rows table = left.rows table

variable {around : Surroundings world} {kind : Statement → Prop} {pool left : Pool}
  {tasks : List TaskDescription}

namespace Does

theorem respond (terminal : Terminal) : Does around kind (Chain.respond terminal) pool [] pool :=
  fun _ same => ⟨List.forall_mem_nil kind, rfl, same⟩

theorem body
    {owed : List Cleanup}
    {next : Bytes → Chain world}
    (does : Does around kind (next around.body) pool tasks left) :
    Does around kind (Chain.body owed next) pool tasks left :=
  fun recording same => does recording same

/-- A query is answered from the tables, and its statement is run on them. -/
theorem query
    {result : Type}
    {owed : List Cleanup}
    {issued : Query result}
    {next : Except QueryError result → Chain world}
    (isOfKind : kind issued.statement)
    (does : Does around kind (next (pool.ask issued)) (pool.apply issued.statement).2 tasks left) :
    Does around kind (Chain.query owed issued next) pool tasks left := by
  intro recording same
  rw [← Pool.ask_congr (same _)] at does
  obtain ⟨ofKind, asked, leaves⟩ := does
    { recording.note (Event.queried issued.statement) with
      state := ((recording.state.1.apply issued.statement).2, recording.state.2) }
    fun table => Pool.rows_apply_congr (same table) issued.statement
  exact ⟨List.forall_mem_cons.2 ⟨isOfKind, ofKind⟩, asked, leaves⟩

/-- What a chain does depends on the rows alone. -/
theorem congr
    {other : Pool}
    {chain : Chain world}
    (same : ∀ table, pool.rows table = other.rows table)
    (does : Does around kind chain pool tasks left) :
    Does around kind chain other tasks left :=
  fun recording sameToo => does recording fun table => (sameToo table).trans (same table).symm

/-- A selection is answered from the tables, and leaves their rows alone. -/
theorem select
    {result : Type}
    {owed : List Cleanup}
    {issued : Query result}
    {next : Except QueryError result → Chain world}
    (isOfKind : kind issued.statement)
    (isSelect : issued.statement.isSelect = true)
    (does : Does around kind (next (pool.ask issued)) pool tasks left) :
    Does around kind (Chain.query owed issued next) pool tasks left :=
  query isOfKind (does.congr fun table => (Pool.rows_apply_of_isSelect isSelect pool table).symm)

/-- A task is answered by the surroundings. -/
theorem task
    {result : Type}
    {owed : List Cleanup}
    {call : Task world result}
    {next : Except TaskError result → Chain world}
    (does : Does around kind (next (call.resolve (around.answer call.description))) pool tasks
      left) :
    Does around kind (Chain.task owed call next) pool (call.description :: tasks) left := by
  intro recording same
  obtain ⟨ofKind, asked, leaves⟩ := does (recording.note (Event.asked call.description)) same
  exact ⟨ofKind, congrArg (call.description :: ·) asked, leaves⟩

/-- A detached chain is run before the rest. -/
theorem detach
    {aside rest : Chain world}
    {between : Pool}
    {restTasks : List TaskDescription}
    (first : Does around kind aside pool tasks between)
    (second : Does around kind rest between restTasks left) :
    Does around kind (Chain.detach aside rest) pool (tasks ++ restTasks) left := by
  intro recording same
  obtain ⟨ofKind, rfl, leaves⟩ := first recording same
  obtain ⟨restOfKind, rfl, restLeaves⟩ := second (aside.capture around.standIn recording).2 leaves
  exact ⟨List.forall_mem_append.2 ⟨ofKind, restOfKind⟩, rfl, restLeaves⟩

theorem note
    {event : Event}
    {rest : Chain world}
    (does : Does around kind rest pool tasks left) :
    Does around kind (Chain.note event rest) pool tasks left :=
  fun recording same => does (recording.note event) same

theorem observe
    {next : world → Chain world}
    (does : Does around kind (next around.world) pool tasks left) :
    Does around kind (Chain.observe next) pool tasks left :=
  fun recording same => does recording same

/-- What a chain does is seen when it is run. -/
theorem run_spec
    {chain : Chain world}
    (does : Does around kind chain pool tasks left) :
    (∀ statement ∈ (around.run chain pool).1.allQueries, kind statement) ∧
      (around.run chain pool).1.allTasks = tasks ∧
      ∀ table, (around.run chain pool).2.rows table = left.rows table :=
  does { state := (pool, ()) } fun _ => rfl

end Does

end Surroundings

end Screencast
