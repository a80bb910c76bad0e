import Screencast.Effect.Step
import Screencast.Http.Response
import Screencast.Store.Pool

/-!
# Threads

A chain that is run against the pool and the world outside, one small step at a time. A query
acquires a connection, runs its statement, returns the connection, and only then continues. A thread
that waits for a task stays at it until the wait is over and the other threads have gone on, and
only then continues.
-/

namespace Screencast

namespace Serve

/-- What all threads share. -/
structure Shared (world : Type) where
  pool : Pool
  world : world
  drawn : Nat := 0
  journal : List Event := []
  clock : Nat := 0
  planned : List (Option Fault) := []

namespace Shared

variable {world : Type}

/-- Add an event to the journal. -/
def note (shared : Shared world) (event : Event) : Shared world :=
  { shared with journal := shared.journal ++ [event] }

/-- Add entries of the log to the journal. -/
def log (shared : Shared world) (entries : List LogEntry) : Shared world :=
  entries.foldl (fun shared entry => shared.note (Event.logged entry)) shared

/-- Queue the fault that is planned for the next acquisition. -/
def injectPlanned (shared : Shared world) : Shared world :=
  match shared.planned with
  | [] => shared
  | none :: rest => { shared with planned := rest }
  | some fault :: rest => { shared with planned := rest, pool := shared.pool.inject fault }

end Shared

/-- What is the same for all requests. -/
structure Setup (world : Type) where
  files : Http.StaticFiles
  resolver : Uuid → Step world (Option Session)
  taskTimeoutMillis : Option Nat

/-- What a thread knows of its request: the identifier in its cookie, its body unless it cannot be
read, and when it is cancelled. -/
structure Scope where
  token : Option Uuid
  body : Option Bytes
  cancelled : Option Nat

namespace Scope

/-- The scope of a thread that outlives its request: it has the same cookie, but no body, and nobody
cancels it. -/
def detached (scope : Scope) : Scope := { scope with body := some [], cancelled := none }

end Scope

/-- How far the query or the task at the head of a chain has come. -/
inductive Stage (world : Type)
  | idle
  | waiting
  | connected
  | answered (rows : Except QueryError (List Row))
  /-- It is known what the wait for the task comes to, and with what the thread continues then. -/
  | settled {result : Type} (outcome : Except TaskError result)
      (next : Except TaskError result → Chain world)

/-- A chain that is being run. -/
structure Thread (world : Type) where
  chain : Chain world
  scope : Scope
  stage : Stage world := Stage.idle
  cleanups : List Cleanup := []

/-- What a step of a thread leads to. -/
inductive Progress (world : Type)
  | moved (thread : Thread world)
  | split (aside rest : Thread world)
  | yielded (thread : Thread world)
  | asleep (due : Nat) (thread : Thread world)
  | stuck
  | finished (response : Http.Response)

namespace Thread

variable {world : Type}

/-- The failure of a request whose body cannot be read. -/
def unreadableBody : ServerError :=
  ServerError.badRequest "failed to read request body" "The request body could not be read."

/-- Continue with a chain. -/
def goOn (thread : Thread world) (chain : Chain world) : Progress world :=
  Progress.moved { thread with chain, stage := Stage.idle }

/-- Ask for a connection. -/
def acquire (thread : Thread world) (shared : Shared world)
    (failed : QueryError → Chain world) : Progress world × Shared world :=
  let shared := (shared.injectPlanned).note Event.acquiring
  match shared.pool.request with
  | (Pool.Acquisition.granted, pool) =>
    (Progress.moved { thread with stage := Stage.connected }, { shared with pool })
  | (Pool.Acquisition.faulted, pool) =>
    (thread.goOn (failed Pool.acquireFault), { shared with pool })
  | (Pool.Acquisition.mustWait, pool) =>
    if pool.timeoutMillis = 0 then
      (thread.goOn (failed pool.acquireTimeout), { shared with pool })
    else
      (Progress.asleep (shared.clock + pool.timeoutMillis) { thread with stage := Stage.waiting },
        { shared with pool })

/-- Wait for a task. The thread stays at the task until it goes on. -/
def await {result : Type} (setup : Setup world) (thread : Thread world) (shared : Shared world)
    (call : Task world result) (next : Except TaskError result → Chain world) :
    Progress world × Shared world :=
  let isCancelled := thread.scope.cancelled.any (· ≤ shared.clock)
  let (completion, after) :=
    if isCancelled then (Completion.never, shared.world) else call.perform shared.world
  let shared := { shared with world := after }
  let cancelled := thread.scope.cancelled.map (· - shared.clock)
  match completion.settle call.late setup.taskTimeoutMillis cancelled with
  | none => (Progress.stuck, shared)
  | some (millis, outcome) =>
    let thread := { thread with stage := Stage.settled outcome next }
    if millis = 0 then (Progress.yielded thread, shared)
    else (Progress.asleep (shared.clock + millis) thread, shared)

/-- Send the response for a terminal, then do the cleanups. -/
def close (setup : Setup world) (thread : Thread world) (shared : Shared world)
    (terminal : Terminal) : Progress world × Shared world :=
  let (response, entries) := Http.Response.ofTerminal setup.files terminal
  let shared :=
    thread.cleanups.foldl (fun shared cleanup => shared.note (Event.cleaned cleanup))
      (shared.log entries)
  (Progress.finished response, shared)

/-- Take one step. A chain that is detached becomes a thread of its own. -/
def step (setup : Setup world) (thread : Thread world) (shared : Shared world) :
    Progress world × Shared world :=
  match thread.chain with
  | Chain.respond terminal => thread.close setup shared terminal
  | Chain.session owed next =>
    match thread.scope.token with
    | none => (thread.goOn (next none), shared)
    | some token => (thread.goOn ((setup.resolver token).run { next, owed }), shared)
  | Chain.body owed next =>
    match thread.scope.body with
    | some bytes => (thread.goOn (next bytes), shared)
    | none => (thread.goOn (Chain.failOwing owed unreadableBody), shared)
  | Chain.query _ issued next =>
    match thread.stage, issued.rejection with
    | Stage.idle, some error => (thread.goOn (next (Except.error error)), shared)
    | Stage.idle, none => thread.acquire shared fun error => next (Except.error error)
    | Stage.waiting, _ =>
      if shared.pool.isAvailable then
        (Progress.moved { thread with stage := Stage.connected },
          { shared with pool := shared.pool.grant })
      else (thread.goOn (next (Except.error shared.pool.acquireTimeout)), shared)
    | Stage.connected, _ =>
      let shared := shared.note (Event.executing issued.statement)
      let (rows, pool) := shared.pool.execute issued.statement
      (Progress.moved { thread with stage := Stage.answered rows }, { shared with pool })
    | Stage.answered rows, _ =>
      let shared := shared.note Event.released
      (thread.goOn (next (issued.resolve rows)), { shared with pool := shared.pool.release })
    | Stage.settled outcome next, _ => (thread.goOn (next outcome), shared)
  | Chain.task _ call next =>
    match thread.stage with
    | Stage.settled outcome next => (thread.goOn (next outcome), shared)
    | _ => thread.await setup shared call next
  | Chain.detach aside rest =>
    (Progress.split { chain := aside, scope := thread.scope.detached }
      { thread with chain := rest, stage := Stage.idle }, shared)
  | Chain.ensure guarded cleanup =>
    (goOn { thread with cleanups := cleanup :: thread.cleanups } guarded, shared)
  | Chain.note event rest => (thread.goOn rest, shared.note event.served)
  | Chain.fresh next =>
    (thread.goOn (next (Uuid.drawn (shared.drawn + 1))), { shared with drawn := shared.drawn + 1 })
  | Chain.observe next => (thread.goOn (next shared.world), shared)

/-- Whether a thread that is started goes on at once, because nothing is waited for at the head of
its chain. -/
def startsAtOnce (thread : Thread world) : Bool :=
  match thread.chain with
  | Chain.session .. => true
  | Chain.detach .. => true
  | Chain.note .. => true
  | Chain.fresh .. => true
  | Chain.observe .. => true
  | _ => false

/-- Whether a thread holds a connection. -/
def holdsConnection (thread : Thread world) : Bool :=
  match thread.stage with
  | Stage.connected => true
  | Stage.answered _ => true
  | _ => false

/-- Give a thread up where it waits: it returns its connection, and does the cleanups that it owes.
What its chain notes has happened when the thread comes to wait. -/
def abandon (thread : Thread world) (shared : Shared world) : Shared world :=
  let shared :=
    if thread.holdsConnection then
      { shared.note Event.released with pool := shared.pool.release }
    else shared
  (thread.chain.discarded ++ thread.cleanups.map Event.cleaned).foldl
    (fun shared event => shared.note event.served) shared

end Thread

end Serve

end Screencast
