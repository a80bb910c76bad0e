import Screencast.Effect.Chain

/-!
# Captured runs

A chain is run without a server: stand-ins answer its queries and tasks, a chain that runs on its
own is run to its end before the other one goes on, and everything that was resolved is kept in
order.
-/

namespace Screencast

/-- Something that was resolved while a chain ran. -/
inductive Resolved
  | session (signedIn : Bool)
  | body (length : Nat)
  | query (statement : Statement) (succeeded : Bool)
  | task (description : TaskDescription) (succeeded : Bool)
  | detached (terminal : Terminal) (trace : List Resolved)
  | cleanup

/-- The terminal of a chain, and what was resolved on the way. -/
structure Outcome where
  terminal : Terminal
  trace : List Resolved

namespace Resolved

/-- The statement of a query. -/
def ownQuery? : Resolved → Option Statement
  | query statement _ => some statement
  | _ => none

/-- The description of a task. -/
def ownTask? : Resolved → Option TaskDescription
  | task description _ => some description
  | _ => none

mutual

/-- The statements of a step and of the chain that it detached. -/
def queries : Resolved → List Statement
  | query statement _ => [statement]
  | detached _ trace => queriesOfAll trace
  | _ => []

/-- The statements of steps one after another. -/
def queriesOfAll : List Resolved → List Statement
  | [] => []
  | step :: rest => queries step ++ queriesOfAll rest

end

mutual

/-- The tasks of a step and of the chain that it detached. -/
def tasks : Resolved → List TaskDescription
  | task description _ => [description]
  | detached _ trace => tasksOfAll trace
  | _ => []

/-- The tasks of steps one after another. -/
def tasksOfAll : List Resolved → List TaskDescription
  | [] => []
  | step :: rest => tasks step ++ tasksOfAll rest

end

end Resolved

namespace Outcome

/-- The statements of a chain, without those of detached chains. -/
def queries (outcome : Outcome) : List Statement := outcome.trace.filterMap Resolved.ownQuery?

/-- The statements of a chain and of every chain that it detached. -/
def allQueries (outcome : Outcome) : List Statement := Resolved.queriesOfAll outcome.trace

/-- The tasks of a chain, without those of detached chains. -/
def tasks (outcome : Outcome) : List TaskDescription := outcome.trace.filterMap Resolved.ownTask?

/-- The tasks of a chain and of every chain that it detached. -/
def allTasks (outcome : Outcome) : List TaskDescription := Resolved.tasksOfAll outcome.trace

/-- The outcomes of the chains that a chain detached. -/
def detached (outcome : Outcome) : List Outcome :=
  outcome.trace.filterMap fun step =>
    match step with
    | Resolved.detached terminal trace => some { terminal, trace }
    | _ => none

/-- The outcome of a chain that resolved something else before. -/
def after (step : Resolved) (outcome : Outcome) : Outcome :=
  { outcome with trace := step :: outcome.trace }

end Outcome

/-- Who answers a chain in the place of a server. -/
structure StandIn (state world : Type) where
  session : Option Session
  body : Bytes
  query : Statement → state → Except QueryError (List Row) × state
  task : TaskDescription → state → Except TaskError Answer × state
  world : state → world

/-- What a captured run changes: the stand-in, the number of identifiers drawn, and the journal. -/
structure Recording (state : Type) where
  state : state
  drawn : Nat := 0
  journal : List Event := []

namespace Recording

variable {state : Type}

/-- Add an event to the journal. -/
def note (recording : Recording state) (event : Event) : Recording state :=
  { recording with journal := recording.journal ++ [event] }

/-- Draw an identifier. -/
def draw (recording : Recording state) : Uuid × Recording state :=
  (Uuid.drawn (recording.drawn + 1), { recording with drawn := recording.drawn + 1 })

/-- Have a query answered. -/
def query {world : Type} (standIn : StandIn state world) (statement : Statement)
    (recording : Recording state) : Except QueryError (List Row) × Recording state :=
  let recording := recording.note (Event.queried statement)
  let (rows, state) := standIn.query statement recording.state
  (rows, { recording with state })

/-- Have a task answered. -/
def task {world : Type} (standIn : StandIn state world) (description : TaskDescription)
    (recording : Recording state) : Except TaskError Answer × Recording state :=
  let recording := recording.note (Event.asked description)
  let (answer, state) := standIn.task description recording.state
  (answer, { recording with state })

end Recording

namespace Chain

variable {state world : Type}

/-- Run a chain with stand-ins to its terminal. -/
def capture (standIn : StandIn state world) :
    Chain world → Recording state → Outcome × Recording state
  | respond terminal, recording => ({ terminal, trace := [] }, recording)
  | session _ next, recording =>
    let (outcome, recording) := (next standIn.session).capture standIn recording
    (outcome.after (Resolved.session standIn.session.isSome), recording)
  | body _ next, recording =>
    let (outcome, recording) := (next standIn.body).capture standIn recording
    (outcome.after (Resolved.body standIn.body.length), recording)
  | query _ issued next, recording =>
    let (rows, recording) := recording.query standIn issued.statement
    let (outcome, recording) := (next (issued.resolve rows)).capture standIn recording
    (outcome.after (Resolved.query issued.statement rows.toBool), recording)
  | task _ call next, recording =>
    let (answer, recording) := recording.task standIn call.description
    let (outcome, recording) := (next (call.resolve answer)).capture standIn recording
    (outcome.after (Resolved.task call.description answer.toBool), recording)
  | detach aside rest, recording =>
    let (side, recording) := aside.capture standIn recording
    let (outcome, recording) := rest.capture standIn recording
    (outcome.after (Resolved.detached side.terminal side.trace), recording)
  | ensure guarded cleanup, recording =>
    let (outcome, recording) := guarded.capture standIn recording
    ({ outcome with trace := outcome.trace ++ [Resolved.cleanup] },
      recording.note (Event.cleaned cleanup))
  | note event rest, recording => rest.capture standIn (recording.note event)
  | fresh next, recording =>
    let (id, recording) := recording.draw
    (next id).capture standIn recording
  | observe next, recording => (next (standIn.world recording.state)).capture standIn recording

end Chain

end Screencast
