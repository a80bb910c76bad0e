import Screencast.Proofs.Effect.Passage
import Screencast.Proofs.Serve.Thread

/-!
# What a thread can do in one step

A step of a thread is a step of its chain, or it stays at a query, begins to look up a session, or
comes to its end. Each of them notes a few events. This is said here once for all threads, whatever
the pool and the world outside are like.
-/

namespace Screencast

namespace Event

/-- Whether an event is about a connection. -/
def isOfConnection : Event → Bool
  | acquiring => true
  | executing _ => true
  | released => true
  | _ => false

/-- No cleanup is done where connections are dealt with. -/
theorem cleanups_of_isOfConnection
    {events : List Event}
    (only : ∀ event ∈ events, event.isOfConnection = true) :
    cleanups events = [] := by
  refine List.filterMap_eq_nil_iff.2 fun event present => ?_
  have isOne := only event present
  cases event <;> first | rfl | cases isOne

@[simp] theorem cleanups_map_served (events : List Event) :
    cleanups (events.map served) = cleanups events := by
  unfold cleanups
  rw [List.filterMap_map]
  refine congrArg (List.filterMap · events) (funext fun event => ?_)
  cases event <;> rfl

@[simp] theorem cleanups_map_logged (entries : List LogEntry) :
    cleanups (entries.map logged) = [] := by
  simp [cleanups]

end Event

namespace Serve

variable {world : Type}

namespace Shared

@[simp] theorem journal_note (shared : Shared world) (event : Event) :
    (shared.note event).journal = shared.journal ++ [event] := rfl

@[simp] theorem journal_injectPlanned (shared : Shared world) :
    shared.injectPlanned.journal = shared.journal := by
  unfold injectPlanned
  split <;> rfl

end Shared

namespace Thread

open Http

/-- What one step of a thread notes, and what it leads to. -/
inductive Turn (setup : Setup world) (thread : Thread world) :
    List Event → Progress world → Prop
  /-- The response is sent, and the cleanups are done that are owed for the time after it. -/
  | finished {terminal : Terminal} (atEnd : thread.chain = Chain.respond terminal) :
      Turn setup thread
        ((Response.ofTerminal setup.files terminal).2.map Event.logged ++
          thread.cleanups.map Event.cleaned)
        (Progress.finished (Response.ofTerminal setup.files terminal).1)
  /-- The session that the cookie names is to be looked up. -/
  | lookUp {owed : List Cleanup} {next : Option Session → Chain world} {token : Uuid}
      (atSession : thread.chain = Chain.session owed next)
      (named : thread.scope.token = some token) :
      Turn setup thread []
        (Progress.moved
          { thread with
            chain := (setup.resolver token).run { next, owed }
            stage := Stage.idle })
  /-- The chain takes a step. -/
  | took {given : List (Delivery world)} {told : List Event} {opened : List Cleanup}
      {chain : Chain world} {progress : Progress world}
      (takes : thread.chain.Takes given told opened chain)
      (left : progress.threads =
        [{ thread with
            chain
            stage := Stage.idle
            cleanups := opened ++ thread.cleanups }]) :
      Turn setup thread (told.map Event.served) progress
  /-- The query is over. -/
  | answered {result : Type} {owed : List Cleanup} {issued : Query result}
      {next : Except QueryError result → Chain world} {outcome : Except QueryError result}
      {events : List Event} {progress : Progress world}
      (atQuery : thread.chain = Chain.query owed issued next)
      (only : ∀ event ∈ events, event.isOfConnection = true)
      (left : progress.threads = [{ thread with chain := next outcome, stage := Stage.idle }]) :
      Turn setup thread events progress
  /-- The query goes on. -/
  | within {events : List Event} {stage : Stage world} {progress : Progress world}
      (atQuery : thread.isAtQuery = true)
      (only : ∀ event ∈ events, event.isOfConnection = true)
      (left : progress.threads = [{ thread with stage }]) :
      Turn setup thread events progress
  /-- It is known what the wait for the task comes to. -/
  | waits {result : Type} {owed : List Cleanup} {call : Task world result}
      {next : Except TaskError result → Chain world} {outcome : Except TaskError result}
      {progress : Progress world} (atTask : thread.chain = Chain.task owed call next)
      (left : progress.threads = [{ thread with stage := Stage.settled outcome next }]) :
      Turn setup thread [] progress
  /-- The wait for the task is over. -/
  | continues {result : Type} {next : Except TaskError result → Chain world}
      {outcome : Except TaskError result} (isSettled : thread.stage = Stage.settled outcome next) :
      Turn setup thread [] (thread.goOn (next outcome))
  /-- What the chain detaches becomes a thread of its own. -/
  | split {aside rest : Chain world} (atDetach : thread.chain = Chain.detach aside rest) :
      Turn setup thread []
        (Progress.split { chain := aside, scope := thread.scope.detached }
          { thread with chain := rest, stage := Stage.idle })
  /-- The task that is waited for never completes. -/
  | stuck : Turn setup thread [] Progress.stuck

/-- The events by which a step grows the journal, with the turn that the step is. -/
def TakesTurn (setup : Setup world) (thread : Thread world) (shared : Shared world)
    (after : Progress world × Shared world) : Prop :=
  ∃ events, after.2.journal = shared.journal ++ events ∧ Turn setup thread events after.1

variable {setup : Setup world} {thread : Thread world} {shared : Shared world}

/-- The chain takes a step that notes nothing. -/
theorem Turn.took_of_silent
    {given : List (Delivery world)}
    {opened : List Cleanup}
    {chain : Chain world}
    {progress : Progress world}
    (takes : thread.chain.Takes given [] opened chain)
    (left : progress.threads =
      [{ thread with chain, stage := Stage.idle, cleanups := opened ++ thread.cleanups }]) :
    Turn setup thread [] progress :=
  Turn.took takes left

/-- Asking for a connection stays at the query, or the query has failed. -/
theorem takesTurn_acquire
    {result : Type}
    {owed : List Cleanup}
    {issued : Query result}
    {next : Except QueryError result → Chain world}
    (atQuery : thread.chain = Chain.query owed issued next) :
    TakesTurn setup thread shared
      (thread.acquire shared fun error => next (Except.error error)) := by
  have only : ∀ event ∈ [Event.acquiring], event.isOfConnection = true := by
    intro event present
    obtain rfl := List.mem_singleton.1 present
    rfl
  have asked : (shared.injectPlanned.note Event.acquiring).journal =
      shared.journal ++ [Event.acquiring] := by
    simp
  have isAtQuery : thread.isAtQuery = true := by simp [isAtQuery, atQuery]
  unfold acquire
  dsimp only
  split
  next pool _ => exact ⟨_, asked, Turn.within isAtQuery only rfl⟩
  next pool _ => exact ⟨_, asked, Turn.answered atQuery only rfl⟩
  next pool _ =>
    split
    · exact ⟨_, asked, Turn.answered atQuery only rfl⟩
    · exact ⟨_, asked, Turn.within isAtQuery only rfl⟩

/-- It is known what waiting for a task comes to, or it never ends. -/
theorem takesTurn_await
    {result : Type}
    {owed : List Cleanup}
    {call : Task world result}
    {next : Except TaskError result → Chain world}
    (atTask : thread.chain = Chain.task owed call next) :
    TakesTurn setup thread shared (thread.await setup shared call next) := by
  unfold await
  dsimp only
  split
  next => exact ⟨[], (List.append_nil _).symm, Turn.stuck⟩
  next millis outcome _ =>
    split
    · exact ⟨[], (List.append_nil _).symm, Turn.waits atTask rfl⟩
    · exact ⟨[], (List.append_nil _).symm, Turn.waits atTask rfl⟩

/-- Every step of a thread is one of the turns. -/
theorem takesTurn_step (setup : Setup world) (thread : Thread world) (shared : Shared world) :
    TakesTurn setup thread shared (thread.step setup shared) := by
  have nothing : shared.journal = shared.journal ++ [] := (List.append_nil _).symm
  obtain ⟨chain, scope, stage, cleanups⟩ := thread
  cases chain with
  | respond terminal => exact ⟨_, by simp [step, close], Turn.finished rfl⟩
  | session owed next =>
      simp only [step]
      split
      next => exact ⟨[], nothing, Turn.took_of_silent (Chain.Takes.session owed next none) rfl⟩
      next token named => exact ⟨[], nothing, Turn.lookUp rfl named⟩
  | body owed next =>
      simp only [step]
      split
      next bytes _ =>
        exact ⟨[], nothing, Turn.took_of_silent (Chain.Takes.body owed next bytes) rfl⟩
      next =>
        have takes := Chain.Takes.noBody owed next unreadableBody
        exact ⟨[], nothing, Turn.took_of_silent takes rfl⟩
  | query owed issued next =>
      have onlyOne {event : Event} (isOne : event.isOfConnection = true) :
          ∀ other ∈ [event], other.isOfConnection = true :=
        List.forall_mem_singleton.2 isOne
      cases stage with
      | idle =>
          simp only [step]
          split
          next error _ => exact ⟨[], nothing, Turn.answered rfl (List.forall_mem_nil _) rfl⟩
          next => exact takesTurn_acquire rfl
          next isWaiting => cases isWaiting
          next isConnected => cases isConnected
          next isAnswered => cases isAnswered
          next isSettled => cases isSettled
      | waiting =>
          simp only [step]
          split
          · exact ⟨[], nothing, Turn.within rfl (List.forall_mem_nil _) rfl⟩
          · exact ⟨[], nothing, Turn.answered rfl (List.forall_mem_nil _) rfl⟩
      | connected =>
          exact ⟨[Event.executing issued.statement], rfl, Turn.within rfl (onlyOne rfl) rfl⟩
      | answered rows => exact ⟨[Event.released], rfl, Turn.answered rfl (onlyOne rfl) rfl⟩
      | settled => exact ⟨[], nothing, Turn.continues rfl⟩
  | task owed call next =>
      cases stage with
      | settled => exact ⟨[], nothing, Turn.continues rfl⟩
      | _ => exact takesTurn_await rfl
  | detach aside rest => exact ⟨[], nothing, Turn.split rfl⟩
  | ensure guarded cleanup =>
      exact ⟨[], nothing, Turn.took_of_silent (Chain.Takes.ensure guarded cleanup) rfl⟩
  | note event rest =>
      exact ⟨[event].map Event.served, rfl, Turn.took (Chain.Takes.note event rest) rfl⟩
  | fresh next => exact ⟨[], nothing, Turn.took_of_silent (Chain.Takes.fresh next _) rfl⟩
  | observe next =>
      exact ⟨[], nothing, Turn.took_of_silent (Chain.Takes.observe next shared.world) rfl⟩

end Thread

end Serve

end Screencast
