import Screencast.Account.Session
import Screencast.Effect.Event
import Screencast.Effect.Terminal

/-!
# Chains of effects

A chain describes what a request needs, step by step, up to its terminal. It is a tree: a step that
waits for something continues with what it gets. Some steps are taken while the chain is built and
wait for nothing: a note in the journal, a fresh identifier, a look at the world outside.

A step that waits owes the cleanups that its continuation would see to. They are done if the chain
is given up at this step.
-/

namespace Screencast

/-- A chain of effects in a world. -/
inductive Chain (world : Type) : Type 1
  | respond (terminal : Terminal)
  | session (owed : List Cleanup) (next : Option Session → Chain world)
  | body (owed : List Cleanup) (next : Bytes → Chain world)
  | query {result : Type} (owed : List Cleanup) (issued : Query result)
      (next : Except QueryError result → Chain world)
  | task {result : Type} (owed : List Cleanup) (call : Task world result)
      (next : Except TaskError result → Chain world)
  | detach (aside rest : Chain world)
  | ensure (guarded : Chain world) (cleanup : Cleanup)
  | note (event : Event) (rest : Chain world)
  | fresh (next : Uuid → Chain world)
  | observe (next : world → Chain world)

namespace Chain

variable {world result : Type}

instance : Inhabited (Chain world) := ⟨respond (Terminal.text "" Status.ok [])⟩

/-! ## Building -/

/-- Run a chain on its own, and continue with another one. The steps of both that are taken while
they are built come first. -/
def besides (aside rest : Chain world) : Chain world :=
  match aside with
  | note event aside => note event (besides aside rest)
  | fresh next => fresh fun id => besides (next id) rest
  | observe next => observe fun seen => besides (next seen) rest
  | aside => continuing aside rest
where
  /-- Take the building steps of the rest of the chain. -/
  continuing (aside : Chain world) : Chain world → Chain world
    | note event rest => note event (continuing aside rest)
    | fresh next => fresh fun id => continuing aside (next id)
    | observe next => observe fun seen => continuing aside (next seen)
    | rest => detach aside rest

/-- Run a chain to its terminal, then do a cleanup. The steps that are taken while the chain is
built come first. -/
def guarded (cleanup : Cleanup) : Chain world → Chain world
  | note event chain => note event (guarded cleanup chain)
  | fresh next => fresh fun id => guarded cleanup (next id)
  | observe next => observe fun seen => guarded cleanup (next seen)
  | chain => ensure chain cleanup

/-- Continue with the session of the visitor. -/
def withSession (next : Option Session → Chain world) : Chain world := session [] next

/-- Continue with the body of the request. -/
def withBody (next : Bytes → Chain world) : Chain world := body [] next

/-- Continue with what a query yields. -/
def runQuery (issued : Query result) (next : Except QueryError result → Chain world) :
    Chain world :=
  query [] issued next

/-- Continue with what a task yields. -/
def awaitTask (call : Task world result) (next : Except TaskError result → Chain world) :
    Chain world :=
  task [] call next

/-- Make an entry in the log. -/
def log (entry : LogEntry) (rest : Chain world) : Chain world := note (Event.logged entry) rest

/-- Do cleanups one after another. -/
def clean (cleanups : List Cleanup) (rest : Chain world) : Chain world :=
  cleanups.foldr (fun cleanup rest => note (Event.cleaned cleanup) rest) rest

/-! ## Terminals -/

/-- End with a terminal. It is noted down at once if the terminal cannot be sent. -/
def send (terminal : Terminal) : Chain world :=
  match terminal.fault? with
  | none => respond terminal
  | some detail => note (Event.malformed detail) (respond terminal)

/-- Send a text without headers. -/
def writeStatus (body : String) (status : Status) : Chain world :=
  respond (Terminal.text body status [])

/-- Send a text. -/
def write (body : String) : Chain world := writeStatus body Status.ok

/-- End a chain with nothing left to say. -/
def finish : Chain world := write ""

/-- Send a page. -/
def page (node : Html.Node) : Chain world := respond (Terminal.html node Status.ok)

/-- Send the visitor to another address. -/
def redirectTo (path : String) : Chain world := send (Terminal.redirect path [])

/-- Do the owed cleanups, and report a failure to the visitor. Failures of the server are logged. -/
def failOwing (owed : List Cleanup) (error : ServerError) : Chain world :=
  let ending := clean owed (respond (Terminal.html error.page error.status))
  if error.status.isServerError then log (Event.requestFailed error) ending else ending

/-- Report a failure to the visitor. -/
def fail (error : ServerError) : Chain world := failOwing [] error

/-- Report that something is not there. -/
def notFound (publicMessage : String) : Chain world := fail (ServerError.notFound publicMessage)

/-- The failure of a response that cannot be written as JSON. -/
def unwritableJson (detail : String) : ServerError where
  privateMessage := "failed to encode JSON response: " ++ detail
  publicMessage := genericMessage

/-- Send a JSON value, unless it cannot be written. -/
def writeJson (value : Except String Json) : Chain world :=
  match value with
  | Except.ok value =>
    respond (Terminal.text value.compact Status.ok [("Content-Type", "application/json")])
  | Except.error detail => fail (unwritableJson detail)

/-- A chain that could not be built reports why. -/
def ofExcept (built : Except ServerError (Chain world)) : Chain world :=
  match built with
  | Except.ok chain => chain
  | Except.error error => fail error

/-- Continue with what a query yields, or report its failure. -/
def queryOrFail (issued : Query result) (next : result → Chain world) : Chain world :=
  runQuery issued fun outcome =>
    match outcome with
    | Except.ok value => next value
    | Except.error error => fail (ServerError.ofQuery error)

/-- The failure of a task that a visitor waits for. -/
def taskFailure (call : Task world result) (publicMessage : String) (error : TaskError) :
    ServerError where
  privateMessage := call.description.text ++ ": " ++ error.message
  publicMessage := publicMessage

/-- Continue with what a task yields, or report its failure with a message of its own. -/
def awaitOrFail (call : Task world result) (publicMessage : String)
    (next : result → Chain world) : Chain world :=
  awaitTask call fun outcome =>
    match outcome with
    | Except.ok value => next value
    | Except.error error => fail (taskFailure call publicMessage error)

/-- End a chain that no visitor waits for, and log its failure if it failed. -/
def logFailure (context : String) (failure : Option String) : Chain world :=
  match failure with
  | some message => log (Event.sideEffectFailed context message) finish
  | none => finish

/-! ## Giving up -/

/-- The cleanups that are done when a chain is given up before it runs. -/
def abandoned : Chain world → List Cleanup
  | respond _ => []
  | session owed _ => owed
  | body owed _ => owed
  | query owed _ _ => owed
  | task owed _ _ => owed
  | detach aside rest => aside.abandoned ++ rest.abandoned
  | ensure guarded cleanup => guarded.abandoned ++ [cleanup]
  | note _ rest => rest.abandoned
  | fresh _ => []
  | observe _ => []

/-- What happens when a chain is built and then given up before it runs. -/
def discarded : Chain world → List Event
  | note event rest => event :: rest.discarded
  | chain => chain.abandoned.map Event.cleaned

end Chain

end Screencast
