import Screencast.Effect.Task
import Screencast.Store.Statement

/-!
# Events

What is noted down while requests are answered: entries of the log that somebody should look at, and
the steps that reach a connection, a stand-in or a guard.
-/

namespace Screencast

/-- How grave an entry of the log is. -/
inductive Level
  | warning
  | error
  deriving DecidableEq, Repr

namespace Level

/-- The name of a level. -/
def text : Level → String
  | warning => "WARN"
  | error => "ERROR"

end Level

/-- An entry of the log. -/
structure LogEntry where
  level : Level
  message : String
  fields : List (String × String)
  deriving DecidableEq, Repr

/-- What is to be done when a guarded part of a chain is over, named for the journal. -/
abbrev Cleanup := String

/-- An event of the journal. A malformed terminal is one that cannot be sent as it was built. -/
inductive Event
  | logged (entry : LogEntry)
  | malformed (detail : String)
  | cleaned (cleanup : Cleanup)
  | queried (statement : Statement)
  | asked (description : TaskDescription)
  | acquiring
  | executing (statement : Statement)
  | released

namespace Event

/-- The entry of the log for an error that reaches a visitor. -/
def requestFailed (error : ServerError) : LogEntry where
  level := Level.error
  message := "request failed"
  fields := [("status", error.status.text), ("error", error.privateMessage)]

/-- The entry of the log for a failure that no visitor waits for. -/
def sideEffectFailed (context message : String) : LogEntry where
  level := Level.warning
  message := "side effect failed"
  fields := [("context", context), ("error", message)]

/-- The entry of the log for a query that failed. -/
def queryFailed (statement : Statement) (error : QueryError) : LogEntry where
  level := Level.warning
  message := "run_query: failed"
  fields := [("statement", statement.text), ("error", error.message)]

/-- The entry of the log for a task that failed. -/
def taskFailed (description : TaskDescription) (error : TaskError) : LogEntry where
  level := Level.warning
  message := "await_async: failed"
  fields := [("task", description.text), ("error", error.message)]

/-- The entry of the log for a terminal that cannot be sent. -/
def invalidResponse (detail : String) : LogEntry where
  level := Level.error
  message := "invalid response"
  fields := [("error", detail)]

/-- An event as a server takes it: only there a malformed terminal matters. -/
def served : Event → Event
  | malformed detail => logged (invalidResponse detail)
  | event => event

/-- The entries of the log among events. -/
def entries (events : List Event) : List LogEntry :=
  events.filterMap fun event =>
    match event with
    | logged entry => some entry
    | _ => none

end Event

end Screencast
