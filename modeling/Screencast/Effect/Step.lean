import Screencast.Effect.Chain

/-!
# Steps

A step is a part of a chain that yields a value. It is a function of the rest of the chain: what
comes next, and which cleanups the rest owes if it is given up. Steps are put together one after
another, and closed with a function that ends the chain.
-/

namespace Screencast

/-- What follows a step. -/
structure Rest (world result : Type) where
  next : result → Chain world
  owed : List Cleanup

/-- A part of a chain that yields a value. -/
structure Step (world result : Type) where
  run : Rest world result → Chain world

namespace Step

variable {world result other error : Type}

/-- A step that yields a value at once. -/
def pure (value : result) : Step world result := ⟨fun rest => rest.next value⟩

instance [Inhabited result] : Inhabited (Step world result) := ⟨pure default⟩

/-- Continue with a step that depends on the value. -/
def andThen (step : Step world result) (follow : result → Step world other) : Step world other :=
  ⟨fun rest =>
    step.run { next := fun value => (follow value).run rest, owed := rest.owed }⟩

/-- Change the value. -/
def map (step : Step world result) (change : result → other) : Step world other :=
  ⟨fun rest => step.run { next := fun value => rest.next (change value), owed := rest.owed }⟩

/-- Do a cleanup once the rest of the chain has come to its terminal, or when it is given up. -/
def ensuring (step : Step world result) (cleanup : Cleanup) : Step world result :=
  ⟨fun rest =>
    step.run
      { next := fun value => Chain.guarded cleanup (rest.next value)
        owed := rest.owed ++ [cleanup] }⟩

/-- Close a step with a function that ends the chain. -/
def finish (step : Step world result) (close : result → Chain world) : Chain world :=
  step.run { next := close, owed := [] }

/-- The session of the visitor. -/
def session : Step world (Option Session) := ⟨fun rest => Chain.session rest.owed rest.next⟩

/-- The body of the request. -/
def body : Step world Bytes := ⟨fun rest => Chain.body rest.owed rest.next⟩

/-- The world outside at this point. -/
def observe : Step world world := ⟨fun rest => Chain.observe rest.next⟩

/-- A fresh identifier. -/
def fresh : Step world Uuid := ⟨fun rest => Chain.fresh rest.next⟩

/-- What a query yields. -/
def query (query : Query result) : Step world (Except QueryError result) :=
  ⟨fun rest => Chain.query rest.owed query rest.next⟩

/-- What a task yields. -/
def task (task : Task world result) : Step world (Except TaskError result) :=
  ⟨fun rest => Chain.task rest.owed task rest.next⟩

/-- Change the value of a step that succeeded. -/
def mapResult (step : Step world (Except error result)) (change : result → other) :
    Step world (Except error other) :=
  step.map fun outcome => outcome.map change

/-- Continue with a step that depends on the value, if there is one. -/
def andThenOk (step : Step world (Except error result))
    (follow : result → Step world (Except error other)) : Step world (Except error other) :=
  step.andThen fun outcome =>
    match outcome with
    | Except.ok value => follow value
    | Except.error failure => pure (Except.error failure)

/-- End the chain with an error page if the step failed. -/
def orFail (report : error → ServerError) (step : Step world (Except error result)) :
    Step world result :=
  ⟨fun rest =>
    step.run
      { next := fun outcome =>
          match outcome with
          | Except.ok value => rest.next value
          | Except.error failure => Chain.failOwing rest.owed (report failure)
        owed := rest.owed }⟩

/-- What a query yields, or an error page. -/
def queryOrFail (query : Query result) : Step world result :=
  (Step.query query).orFail ServerError.ofQuery

@[simp] theorem pure_andThen (value : result) (follow : result → Step world other) :
    (pure value : Step world result).andThen follow = follow value := rfl

end Step

end Screencast
