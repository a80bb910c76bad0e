import Screencast.Serve.Thread

/-!
# The system

One thread is at work at a time. It goes on until it lets the others go on, falls asleep or has
finished. Threads that are ready take turns in the order in which they became ready. Those that let
the others go on come after them, the last one first, and those that sleep are woken when their time
has come. A thread that is detached is started before the one that detached it goes on: it is at
work up to the first effect that it has to wait for, and then takes its turn like the others. What a
detached thread sends reaches nobody; a failure is put into the log.
-/

namespace Screencast

namespace Serve

/-- What a thread answers to. -/
inductive Role
  | main
  | detached (isNew : Bool)
  deriving DecidableEq, Repr

/-- A thread with its role. -/
structure Job (world : Type) where
  role : Role
  thread : Thread world

/-- Something that is ready: a thread, a thread whose wait for a task is over and that lets the
others go on first, or the response of a detached thread that is looked at. -/
inductive Ready (world : Type)
  | job (job : Job world)
  | resumed (job : Job world)
  | report (response : Http.Response)

/-- A thread that sleeps until a point in time. -/
structure Sleeper (world : Type) where
  due : Nat
  job : Job world

/-- The method and the path of a request, for the log. -/
structure RequestLine where
  method : String
  path : String

/-- All threads of a request, and what they share. The starters are the threads that go on when the
one at work has been started, the latest first. -/
structure System (world : Type) where
  line : RequestLine
  shared : Shared world
  current : Option (Job world) := none
  starters : List (Job world) := []
  ready : List (Ready world) := []
  deferred : List (Job world) := []
  sleepers : List (Sleeper world) := []
  response : Option Http.Response := none

namespace System

variable {world : Type}

/-- The entry of the log for a request that the server failed to answer. -/
def completedEntry (line : RequestLine) (response : Http.Response) : LogEntry where
  level := Level.warning
  message := "request completed"
  fields :=
    [("method", line.method), ("path", line.path), ("status", toString response.status.code)]

/-- The entry of the log for a detached thread that failed. -/
def detachedEntry (line : RequestLine) (response : Http.Response) : LogEntry where
  level := Level.error
  message := "detached effect chain failed"
  fields :=
    [("path", line.path), ("status", response.status.text),
      ("detail", Text.decodeLossy response.body)]

/-- Put an entry into the log if the server is at fault. -/
def logFault (system : System world) (response : Http.Response) (entry : LogEntry) :
    System world :=
  if response.status.isServerError then
    { system with shared := system.shared.note (Event.logged entry) }
  else system

/-- Look at the response of a detached thread. -/
def report (system : System world) (response : Http.Response) : System world :=
  system.logFault response (detachedEntry system.line response)

/-- Put the end of a request into the log if the server is at fault. A request that somebody
cancelled is nobody's fault. -/
def complete (system : System world) (thread : Thread world) (response : Http.Response) :
    System world :=
  if thread.scope.cancelled.isSome then system
  else system.logFault response (completedEntry system.line response)

/-- Take in that a thread has finished. A new detached thread is looked at at once, one that had
stopped in between when its turn comes. -/
def finish (system : System world) (job : Job world) (response : Http.Response) : System world :=
  match job.role with
  | Role.main => { system.complete job.thread response with response := some response }
  | Role.detached true => system.report response
  | Role.detached false => { system with ready := system.ready ++ [Ready.report response] }

/-- The role of a thread that has stopped in between. -/
def Role.resumed : Role → Role
  | Role.main => Role.main
  | Role.detached _ => Role.detached false

/-- Let the thread at work take a step. -/
def work (setup : Setup world) (system : System world) (job : Job world) : System world :=
  let (progress, shared) := job.thread.step setup system.shared
  let system := { system with shared, current := none }
  let role := Role.resumed job.role
  match progress with
  | Progress.moved thread => { system with current := some { job with thread } }
  | Progress.split aside rest =>
    { system with
      current := some { role := Role.detached true, thread := aside }
      starters := { job with thread := rest } :: system.starters }
  | Progress.yielded thread => { system with deferred := { role, thread } :: system.deferred }
  | Progress.asleep due thread =>
    { system with sleepers := system.sleepers ++ [{ due, job := { role, thread } }] }
  | Progress.stuck => system
  | Progress.finished response => system.finish job response

/-- The earliest point in time at which a thread wakes up. -/
def earliest? (sleepers : List (Sleeper world)) : Option Nat :=
  (sleepers.map Sleeper.due).min?

/-- A thread that has been woken. -/
def wakened (sleeper : Sleeper world) : Ready world :=
  match sleeper.job.thread.stage with
  | Stage.waiting => Ready.job sleeper.job
  | _ => Ready.resumed sleeper.job

/-- Wake the threads whose time has come, in the order in which they fell asleep. -/
def wake (system : System world) (due : Nat) : System world :=
  let (awake, asleep) := system.sleepers.partition fun sleeper => sleeper.due ≤ due
  { system with
    shared := { system.shared with clock := due }
    sleepers := asleep
    ready := awake.map wakened }

/-- Let the thread at work go on. One that has been started waits for its turn, and its starter goes
on. -/
def proceed (setup : Setup world) (system : System world) (job : Job world) : System world :=
  match system.starters with
  | [] => system.work setup job
  | starter :: starters =>
    if job.thread.startsAtOnce then system.work setup job
    else { system with current := some starter, starters, ready := system.ready ++ [Ready.job job] }

/-- Take one step, unless nothing is left to do. -/
def step? (setup : Setup world) (system : System world) : Option (System world) :=
  match system.current, system.ready, system.deferred, earliest? system.sleepers with
  | some job, _, _, _ => some (system.proceed setup job)
  | none, Ready.job job :: rest, _, _ => some { system with current := some job, ready := rest }
  | none, Ready.resumed job :: rest, _, _ =>
    some { system with ready := rest, deferred := job :: system.deferred }
  | none, Ready.report response :: rest, _, _ =>
    some ({ system with ready := rest }.report response)
  | none, [], [], some due => some (system.wake due)
  | none, [], [], none => none
  | none, [], deferred, _ => some { system with ready := deferred.map Ready.job, deferred := [] }

/-- Take steps until nothing is left to do, at most as many as the fuel says. -/
def run (setup : Setup world) : Nat → System world → System world
  | 0, system => system
  | fuel + 1, system =>
    match system.step? setup with
    | some system => system.run setup fuel
    | none => system

/-- The number of steps after which a request is given up. -/
def patience : Nat := 1000000

end System

/-- Answer a request by a chain. -/
def answer {world : Type} (setup : Setup world) (line : RequestLine) (scope : Scope)
    (chain : Chain world) (shared : Shared world) : System world :=
  let start : System world :=
    { line, shared, current := some { role := Role.main, thread := { chain, scope } } }
  start.run setup System.patience

end Serve

end Screencast
