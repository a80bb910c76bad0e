import Screencast.Effect.Capture
import Screencast.Effect.Script
import Screencast.Store.Pool

/-!
# Stubs

Stand-ins for captured runs: the tables of a pool answer queries, a script answers tasks, and
failures can be planned for queries.
-/

namespace Screencast

/-- What answers the queries and tasks of a captured run. -/
structure Stubs (world : Type) where
  pool : Pool
  world : world
  answers : Script (Except TaskError Answer) := []
  planned : List (Option QueryError) := []

namespace Stubs

variable {world : Type}

/-- Answer a statement from the tables, unless a failure is planned for it. -/
def query (statement : Statement) (stubs : Stubs world) :
    Except QueryError (List Row) × Stubs world :=
  match stubs.planned with
  | some error :: planned => (Except.error error, { stubs with planned })
  | planned =>
    let (rows, pool) := stubs.pool.apply statement
    (Except.ok rows, { stubs with pool, planned := planned.tail })

/-- The failure of a task that nobody answers. -/
def unanswered (description : TaskDescription) : TaskError :=
  TaskError.stub ("no stub for task " ++ description.text)

/-- Answer a task by the script. -/
def task (description : TaskDescription) (stubs : Stubs world) :
    Except TaskError Answer × Stubs world :=
  match stubs.answers.next description.name with
  | (some answer, answers) => (answer, { stubs with answers })
  | (none, _) => (Except.error (unanswered description), stubs)

/-- Answer a request by stubs. -/
def standIn (session : Option Session) (body : Bytes) : StandIn (Stubs world) world where
  session := session
  body := body
  query := query
  task := task
  world := Stubs.world

/-- Answer every query without rows, and no task. -/
def unprepared : StandIn world world where
  session := none
  body := []
  query := fun _ world => (Except.ok [], world)
  task := fun description world => (Except.error (unanswered description), world)
  world := id

end Stubs

end Screencast
