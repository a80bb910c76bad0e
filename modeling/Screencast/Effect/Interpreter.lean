import Screencast.Effect.Chain

/-!
# Interpreters

An interpreter says what each kind of effect means. Any chain can be read through it. A middleware
turns an interpreter into another one that does something besides.
-/

namespace Screencast

/-- A meaning for each kind of effect. -/
structure Interpreter (world : Type) (meaning : Type 1) where
  respond : Terminal → meaning
  session : List Cleanup → (Option Session → meaning) → meaning
  body : List Cleanup → (Bytes → meaning) → meaning
  query : {result : Type} → List Cleanup → Query result →
    (Except QueryError result → meaning) → meaning
  task : {result : Type} → List Cleanup → Task world result →
    (Except TaskError result → meaning) → meaning
  detach : meaning → meaning → meaning
  ensure : meaning → Cleanup → meaning
  note : Event → meaning → meaning
  fresh : (Uuid → meaning) → meaning
  observe : (world → meaning) → meaning

namespace Interpreter

variable {world : Type} {meaning : Type 1}

/-- The interpreter that builds chains. -/
def tree : Interpreter world (Chain world) where
  respond := Chain.respond
  session := Chain.session
  body := Chain.body
  query := Chain.query
  task := Chain.task
  detach := Chain.detach
  ensure := Chain.ensure
  note := Chain.note
  fresh := Chain.fresh
  observe := Chain.observe

/-- Log every query and every task that fails. -/
def traced (inner : Interpreter world meaning) : Interpreter world meaning :=
  { inner with
    query := fun owed query next =>
      inner.query owed query fun outcome =>
        match outcome with
        | Except.ok _ => next outcome
        | Except.error error =>
          inner.note (Event.logged (Event.queryFailed query.statement error)) (next outcome)
    task := fun owed task next =>
      inner.task owed task fun outcome =>
        match outcome with
        | Except.ok _ => next outcome
        | Except.error error =>
          inner.note (Event.logged (Event.taskFailed task.description error)) (next outcome) }

end Interpreter

namespace Chain

variable {world : Type} {meaning : Type 1}

/-- Read a chain through an interpreter. -/
def interpret (interpreter : Interpreter world meaning) : Chain world → meaning
  | respond terminal => interpreter.respond terminal
  | session owed next => interpreter.session owed fun found => (next found).interpret interpreter
  | body owed next => interpreter.body owed fun bytes => (next bytes).interpret interpreter
  | query owed issued next =>
    interpreter.query owed issued fun outcome => (next outcome).interpret interpreter
  | task owed call next =>
    interpreter.task owed call fun outcome => (next outcome).interpret interpreter
  | detach aside rest =>
    interpreter.detach (aside.interpret interpreter) (rest.interpret interpreter)
  | ensure guarded cleanup => interpreter.ensure (guarded.interpret interpreter) cleanup
  | note event rest => interpreter.note event (rest.interpret interpreter)
  | fresh next => interpreter.fresh fun id => (next id).interpret interpreter
  | observe next => interpreter.observe fun seen => (next seen).interpret interpreter

/-- Reading a chain through the interpreter that builds chains changes nothing. -/
theorem interpret_tree (chain : Chain world) : chain.interpret Interpreter.tree = chain := by
  induction chain with
  | respond => rfl
  | session owed _ inductionHypothesis =>
    exact congrArg (Chain.session owed) (funext inductionHypothesis)
  | body owed _ inductionHypothesis =>
    exact congrArg (Chain.body owed) (funext inductionHypothesis)
  | query owed issued _ inductionHypothesis =>
    exact congrArg (Chain.query owed issued) (funext inductionHypothesis)
  | task owed call _ inductionHypothesis =>
    exact congrArg (Chain.task owed call) (funext inductionHypothesis)
  | detach aside rest asideHypothesis restHypothesis =>
    change Chain.detach (aside.interpret Interpreter.tree) (rest.interpret Interpreter.tree) = _
    rw [asideHypothesis, restHypothesis]
  | ensure _ cleanup inductionHypothesis =>
    exact congrArg (Chain.ensure · cleanup) inductionHypothesis
  | note event _ inductionHypothesis => exact congrArg (Chain.note event) inductionHypothesis
  | fresh _ inductionHypothesis => exact congrArg Chain.fresh (funext inductionHypothesis)
  | observe _ inductionHypothesis => exact congrArg Chain.observe (funext inductionHypothesis)

/-- A chain that logs its failed queries and tasks. -/
def traced (chain : Chain world) : Chain world := chain.interpret Interpreter.tree.traced

end Chain

end Screencast
