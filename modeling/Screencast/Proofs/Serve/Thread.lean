import Screencast.Proofs.Store.Pool
import Screencast.Serve.Thread

/-!
# Threads and the connections they hold

A thread that is in the middle of something is at a query, or at a task whose end it waits for. What
one of its steps does with the connections of the pool is one of four dealings, and a thread that is
given up returns what it holds.
-/

namespace Screencast

namespace Serve

variable {world : Type}

namespace Shared

@[simp] theorem pool_note (shared : Shared world) (event : Event) :
    (shared.note event).pool = shared.pool := rfl

/-- Events that are noted one after the other change nothing but the journal. -/
@[simp] theorem foldl_note
    {item : Type}
    (shared : Shared world)
    (event : item → Event)
    (items : List item) :
    items.foldl (fun shared item => shared.note (event item)) shared =
      { shared with journal := shared.journal ++ items.map event } := by
  induction items generalizing shared with
  | nil => simp
  | cons item items inductionHypothesis =>
      rw [List.foldl_cons, inductionHypothesis]
      simp [note]

@[simp] theorem log_eq (shared : Shared world) (entries : List LogEntry) :
    shared.log entries =
      { shared with journal := shared.journal ++ entries.map Event.logged } :=
  foldl_note shared Event.logged entries

@[simp] theorem accounts_injectPlanned (shared : Shared world) :
    shared.injectPlanned.pool.accounts = shared.pool.accounts := by
  unfold injectPlanned
  split <;> rfl

/-- Time passes, and events are noted, but nothing else changes. -/
def Passes (before after : Shared world) : Prop :=
  ∃ clock journal, after = { before with clock, journal }

theorem Passes.refl (shared : Shared world) : shared.Passes shared :=
  ⟨shared.clock, shared.journal, rfl⟩

/-- Time that passes before and after is time that passes. -/
theorem Passes.trans
    {before between after : Shared world}
    (first : before.Passes between)
    (second : between.Passes after) :
    before.Passes after := by
  obtain ⟨_, _, rfl⟩ := first
  obtain ⟨clock, journal, rfl⟩ := second
  exact ⟨clock, journal, rfl⟩

theorem Passes.pool_eq
    {before after : Shared world}
    (passes : before.Passes after) :
    after.pool = before.pool := by
  obtain ⟨clock, journal, rfl⟩ := passes
  rfl

end Shared

namespace Stage

/-- Whether nothing has happened yet. -/
def isIdle : Stage world → Bool
  | idle => true
  | _ => false

@[simp] theorem isIdle_idle : (idle : Stage world).isIdle = true := rfl

@[simp] theorem isIdle_waiting : (waiting : Stage world).isIdle = false := rfl

@[simp] theorem isIdle_connected : (connected : Stage world).isIdle = false := rfl

@[simp] theorem isIdle_answered (rows : Except QueryError (List Row)) :
    (answered rows : Stage world).isIdle = false := rfl

@[simp] theorem isIdle_settled
    {result : Type}
    (outcome : Except TaskError result)
    (next : Except TaskError result → Chain world) :
    (settled outcome next).isIdle = false := rfl

/-- Whether it is known what a wait comes to. -/
def isSettled : Stage world → Bool
  | settled _ _ => true
  | _ => false

theorem eq_idle_of_isIdle {stage : Stage world} (isIdle : stage.isIdle = true) : stage = idle := by
  cases stage with
  | idle => rfl
  | waiting | connected | answered | settled => cases isIdle

end Stage

namespace Progress

/-- The threads that are left after a step, the one that took it first. -/
def threads : Progress world → List (Thread world)
  | moved thread => [thread]
  | split aside rest => [rest, aside]
  | yielded thread => [thread]
  | asleep _ thread => [thread]
  | stuck => []
  | finished _ => []

end Progress

namespace Thread

/-- Whether a query is at the head of the chain. -/
def isAtQuery (thread : Thread world) : Bool :=
  match thread.chain with
  | Chain.query .. => true
  | _ => false

/-- Whether a query or a task is at the head of the chain. -/
def isAtCall (thread : Thread world) : Bool :=
  match thread.chain with
  | Chain.query .. => true
  | Chain.task .. => true
  | _ => false

/-- Whether a thread is inside a query: it waits for a connection, or it has one. -/
def isInQuery (thread : Thread world) : Bool := thread.isAtQuery && !thread.stage.isIdle

/-- A thread is in the middle of something only at a query, or at a task with the continuation of
which it goes on. -/
inductive IsOrderly (thread : Thread world) : Prop
  | idle (isIdle : thread.stage.isIdle = true) : IsOrderly thread
  | inQuery (atQuery : thread.isAtQuery = true)
      (isOfQuery : thread.stage.isSettled = false) : IsOrderly thread
  | settled {result : Type} {owed : List Cleanup} {call : Task world result}
      {outcome : Except TaskError result} {next : Except TaskError result → Chain world}
      (atTask : thread.chain = Chain.task owed call next)
      (isSettled : thread.stage = Stage.settled outcome next) : IsOrderly thread

/-- An orderly thread that is elsewhere than at a query or a task is not in the middle of something.
-/
theorem IsOrderly.stage_eq_idle
    {thread : Thread world}
    (orderly : thread.IsOrderly)
    (isElsewhere : thread.isAtCall = false) :
    thread.stage = Stage.idle := by
  cases orderly with
  | idle isIdle => exact Stage.eq_idle_of_isIdle isIdle
  | inQuery atQuery =>
      unfold isAtQuery at atQuery
      split at atQuery
      next isQuery => simp [isAtCall, isQuery] at isElsewhere
      next => cases atQuery
  | settled atTask => simp [isAtCall, atTask] at isElsewhere

/-- An orderly thread that is at a task has yet to wait for it, or goes on with what the wait comes
to. -/
theorem IsOrderly.stage_of_task
    {thread : Thread world}
    {result : Type}
    {owed : List Cleanup}
    {call : Task world result}
    {next : Except TaskError result → Chain world}
    (orderly : thread.IsOrderly)
    (atTask : thread.chain = Chain.task owed call next) :
    thread.stage = Stage.idle ∨ ∃ outcome, thread.stage = Stage.settled outcome next := by
  cases orderly with
  | idle isIdle => exact Or.inl (Stage.eq_idle_of_isIdle isIdle)
  | inQuery atQuery => simp [isAtQuery, atTask] at atQuery
  | settled atOther isSettled =>
      cases atTask.symm.trans atOther
      exact Or.inr ⟨_, isSettled⟩

/-- An orderly thread that knows what its wait comes to is at the task that it waits for. -/
theorem IsOrderly.task_of_settled
    {thread : Thread world}
    {result : Type}
    {outcome : Except TaskError result}
    {next : Except TaskError result → Chain world}
    (orderly : thread.IsOrderly)
    (isSettled : thread.stage = Stage.settled outcome next) :
    ∃ owed call, thread.chain = Chain.task owed call next := by
  cases orderly with
  | idle isIdle => simp [isSettled] at isIdle
  | inQuery _ isOfQuery => simp [isSettled, Stage.isSettled] at isOfQuery
  | settled atTask isOther =>
      cases isSettled.symm.trans isOther
      exact ⟨_, _, atTask⟩

/-- A thread without anything at work holds no connection. -/
theorem holdsConnection_of_isIdle
    {thread : Thread world}
    (isIdle : thread.stage.isIdle = true) :
    thread.holdsConnection = false := by
  unfold holdsConnection
  cases stage : thread.stage with
  | idle | waiting | settled => rfl
  | connected => simp [stage] at isIdle
  | answered rows => simp [stage] at isIdle

/-- An orderly thread is inside a query if it holds a connection. -/
theorem isInQuery_of_holdsConnection
    {thread : Thread world}
    (orderly : thread.IsOrderly)
    (holds : thread.holdsConnection = true) :
    thread.isInQuery = true := by
  have isBusy : thread.stage.isIdle = false := by
    cases isIdle : thread.stage.isIdle with
    | false => rfl
    | true => simp [holdsConnection_of_isIdle isIdle] at holds
  cases orderly with
  | idle isIdle => simp [isIdle] at isBusy
  | inQuery atQuery => simp [isInQuery, atQuery, isBusy]
  | settled atTask isSettled => simp [holdsConnection, isSettled] at holds

/-- What a step of a thread does with the connections of a pool. -/
inductive Dealing (thread : Thread world) (pool : Pool) : Progress world → Pool → Prop
  /-- Nothing: the thread has none, and nobody gets one. -/
  | apart {progress : Progress world} {after : Pool}
      (hadNone : thread.holdsConnection = false)
      (haveNone : ∀ next ∈ progress.threads, next.IsOrderly ∧ next.holdsConnection = false)
      (same : after.accounts = pool.accounts) : Dealing thread pool progress after
  /-- The thread gets an available connection. -/
  | granted {after : Pool}
      (atQuery : thread.isAtQuery = true)
      (hadNone : thread.holdsConnection = false)
      (available : pool.held < pool.capacity)
      (accounts : after.accounts = pool.accounts.grant) :
      Dealing thread pool (Progress.moved { thread with stage := Stage.connected }) after
  /-- The thread runs its statement on the connection that it has. -/
  | executed {after : Pool} (rows : Except QueryError (List Row))
      (isConnected : thread.stage = Stage.connected)
      (same : after.accounts = pool.accounts) :
      Dealing thread pool (Progress.moved { thread with stage := Stage.answered rows }) after
  /-- The thread returns its connection and continues with the rest of its chain. -/
  | returned {after : Pool} (rows : Except QueryError (List Row)) (rest : Chain world)
      (isAnswered : thread.stage = Stage.answered rows)
      (accounts : after.accounts = pool.accounts.release) :
      Dealing thread pool
        (Progress.moved { thread with chain := rest, stage := Stage.idle }) after

/-- A thread that goes on with nothing at work does not deal with connections. -/
theorem Dealing.of_isIdle
    {thread : Thread world}
    {pool after : Pool}
    {progress : Progress world}
    (hadNone : thread.holdsConnection = false)
    (areIdle : ∀ next ∈ progress.threads, next.stage.isIdle = true)
    (same : after.accounts = pool.accounts) :
    Dealing thread pool progress after :=
  Dealing.apart hadNone
    (fun next present =>
      ⟨IsOrderly.idle (areIdle next present), holdsConnection_of_isIdle (areIdle next present)⟩)
    same

/-- Asking for a connection gets one, or leads to somewhere without one. -/
theorem dealing_acquire
    (thread : Thread world)
    (shared : Shared world)
    (failed : QueryError → Chain world)
    (atQuery : thread.isAtQuery = true)
    (hadNone : thread.holdsConnection = false) :
    Dealing thread shared.pool (thread.acquire shared failed).1
      (thread.acquire shared failed).2.pool := by
  have planned : (shared.injectPlanned.note Event.acquiring).pool.accounts = shared.pool.accounts :=
    Shared.accounts_injectPlanned shared
  unfold acquire
  generalize shared.injectPlanned.note Event.acquiring = asked at planned ⊢
  obtain ⟨granted, available⟩ | ⟨isNotGranted, same⟩ := asked.pool.request_cases
  · have capacity : asked.pool.capacity = shared.pool.capacity :=
      congrArg Pool.Accounts.capacity planned
    have held : asked.pool.held = shared.pool.held := congrArg Pool.Accounts.held planned
    simp only [granted]
    exact Dealing.granted atQuery hadNone (by omega) (by rw [Pool.accounts_grant, planned])
  · have unchanged : asked.pool.request.2.accounts = shared.pool.accounts := same.trans planned
    cases answer : asked.pool.request with
    | mk acquisition pool =>
        rw [answer] at isNotGranted unchanged
        cases acquisition with
        | granted => exact absurd rfl isNotGranted
        | faulted =>
            simp only [answer]
            exact Dealing.of_isIdle hadNone (by simp [goOn, Progress.threads]) unchanged
        | mustWait =>
            simp only [answer]
            split
            · exact Dealing.of_isIdle hadNone (by simp [goOn, Progress.threads]) unchanged
            · refine Dealing.apart hadNone (List.forall_mem_singleton.2 ⟨?_, rfl⟩) unchanged
              exact IsOrderly.inQuery atQuery rfl

/-- Waiting for a task does not deal with connections. -/
theorem dealing_await
    {result : Type}
    {owed : List Cleanup}
    {call : Task world result}
    {next : Except TaskError result → Chain world}
    {thread : Thread world}
    (setup : Setup world)
    (shared : Shared world)
    (atTask : thread.chain = Chain.task owed call next)
    (hadNone : thread.holdsConnection = false) :
    Dealing thread shared.pool (thread.await setup shared call next).1
      (thread.await setup shared call next).2.pool := by
  have stays (outcome : Except TaskError result) :
      ∀ left ∈ [{ thread with stage := Stage.settled outcome next }],
        left.IsOrderly ∧ left.holdsConnection = false :=
    List.forall_mem_singleton.2 ⟨IsOrderly.settled atTask rfl, rfl⟩
  unfold await
  dsimp only
  split
  · exact Dealing.of_isIdle hadNone (List.forall_mem_nil _) rfl
  · split <;> exact Dealing.apart hadNone (stays _) rfl

/-- Every step of an orderly thread is one of the four dealings. -/
theorem dealing_step
    (setup : Setup world)
    (thread : Thread world)
    (shared : Shared world)
    (orderly : thread.IsOrderly) :
    Dealing thread shared.pool (thread.step setup shared).1 (thread.step setup shared).2.pool := by
  obtain ⟨chain, scope, stage, cleanups⟩ := thread
  have none_of_not_query (isElsewhere : isAtQuery ⟨chain, scope, stage, cleanups⟩ = false) :
      holdsConnection ⟨chain, scope, stage, cleanups⟩ = false := by
    cases orderly with
    | idle isIdle => exact holdsConnection_of_isIdle isIdle
    | inQuery atQuery => simp [isElsewhere] at atQuery
    | settled _ isSettled =>
        obtain rfl := isSettled
        rfl
  cases chain with
  | respond terminal =>
      simp only [step, close]
      exact Dealing.of_isIdle (none_of_not_query rfl) (by simp [Progress.threads]) (by simp)
  | session owed next =>
      simp only [step]
      split <;>
        exact Dealing.of_isIdle (none_of_not_query rfl) (by simp [goOn, Progress.threads]) rfl
  | body owed next =>
      simp only [step]
      split <;>
        exact Dealing.of_isIdle (none_of_not_query rfl) (by simp [goOn, Progress.threads]) rfl
  | query owed issued next =>
      cases stage with
      | idle =>
          simp only [step]
          cases rejection : issued.rejection with
          | some error => exact Dealing.of_isIdle rfl (by simp [goOn, Progress.threads]) rfl
          | none => exact dealing_acquire _ shared _ rfl rfl
      | waiting =>
          simp only [step]
          split
          next available =>
            have isFree : shared.pool.held < shared.pool.capacity := by
              simpa [Pool.isAvailable] using available
            exact Dealing.granted rfl rfl isFree (Pool.accounts_grant shared.pool)
          next => exact Dealing.of_isIdle rfl (by simp [goOn, Progress.threads]) rfl
      | connected =>
          exact Dealing.executed _ rfl (Pool.accounts_execute shared.pool issued.statement)
      | answered rows =>
          exact Dealing.returned rows _ rfl (Pool.accounts_release shared.pool)
      | settled => exact Dealing.of_isIdle rfl (by simp [step, goOn, Progress.threads]) rfl
  | task owed call next =>
      simp only [step]
      split
      · exact Dealing.of_isIdle (none_of_not_query rfl) (by simp [goOn, Progress.threads]) rfl
      · exact dealing_await setup shared rfl (none_of_not_query rfl)
  | detach aside rest =>
      exact Dealing.of_isIdle (none_of_not_query rfl) (by simp [step, Progress.threads]) rfl
  | ensure guarded cleanup =>
      exact Dealing.of_isIdle (none_of_not_query rfl) (by simp [step, goOn, Progress.threads]) rfl
  | note event rest =>
      exact Dealing.of_isIdle (none_of_not_query rfl) (by simp [step, goOn, Progress.threads]) rfl
  | fresh next =>
      exact Dealing.of_isIdle (none_of_not_query rfl) (by simp [step, goOn, Progress.threads]) rfl
  | observe next =>
      exact Dealing.of_isIdle (none_of_not_query rfl) (by simp [step, goOn, Progress.threads]) rfl

/-- The threads that are left after a step of an orderly thread are orderly. -/
theorem Dealing.isOrderly
    {thread : Thread world}
    {pool after : Pool}
    {progress : Progress world}
    (dealing : Dealing thread pool progress after)
    (orderly : thread.IsOrderly) :
    ∀ next ∈ progress.threads, next.IsOrderly := by
  intro next present
  cases dealing with
  | apart _ haveNone _ => exact (haveNone next present).1
  | granted atQuery _ _ _ =>
      obtain rfl := List.mem_singleton.1 present
      exact IsOrderly.inQuery atQuery rfl
  | executed rows isConnected _ =>
      obtain rfl := List.mem_singleton.1 present
      cases orderly with
      | idle isIdle => simp [isConnected] at isIdle
      | inQuery atQuery => exact IsOrderly.inQuery atQuery rfl
      | settled _ isSettled => cases isConnected.symm.trans isSettled
  | returned rows rest _ _ =>
      obtain rfl := List.mem_singleton.1 present
      exact IsOrderly.idle rfl

theorem accounts_abandon (thread : Thread world) (shared : Shared world) :
    (thread.abandon shared).pool.accounts =
      if thread.holdsConnection then shared.pool.accounts.release else shared.pool.accounts := by
  simp only [abandon, Shared.foldl_note]
  split <;> rfl

end Thread

end Serve

end Screencast
