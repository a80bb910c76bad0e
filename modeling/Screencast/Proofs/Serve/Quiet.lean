import Screencast.Proofs.Account.Resolve
import Screencast.Proofs.Serve.Thread

/-!
# Threads in quiet times

In quiet times no faults come up, and a thread waits for a connection as long as it takes. A query
is then answered from the tables when its statement is executed, and the steps before and after that
one make no difference. A thread may also be inside a query because its chain looks up a session.
-/

namespace Screencast

namespace Serve

variable {world : Type}

namespace Shared

/-- No fault is queued or planned, nobody stops waiting for a connection, and the world outside is
as it may be. -/
structure IsQuiet (mayBe : world → Prop) (shared : Shared world) : Prop where
  faults : shared.pool.faults = []
  planned : shared.planned = []
  patient : 0 < shared.pool.timeoutMillis
  world : mayBe shared.world

/-- What threads share has become something else of which the rows of every table and the world
outside are the given ones. Only the connections may have changed besides. -/
structure Becomes (before after : Shared world) (rows : String → List Row) (outside : world) :
    Prop where
  faults : after.pool.faults = before.pool.faults
  planned : after.planned = before.planned
  timeoutMillis : after.pool.timeoutMillis = before.pool.timeoutMillis
  rows : ∀ table, after.pool.rows table = rows table
  world : after.world = outside

/-- Nothing has changed but connections. -/
def Stays (before after : Shared world) : Prop :=
  before.Becomes after before.pool.rows before.world

theorem Stays.refl (shared : Shared world) : shared.Stays shared :=
  ⟨rfl, rfl, rfl, fun _ => rfl, rfl⟩

theorem stays_note (shared : Shared world) (event : Event) : shared.Stays (shared.note event) :=
  ⟨rfl, rfl, rfl, fun _ => rfl, rfl⟩

/-- If nothing has changed before and after, nothing has changed. -/
theorem Stays.trans
    {before between after : Shared world}
    (first : before.Stays between)
    (second : between.Stays after) :
    before.Stays after where
  faults := second.faults.trans first.faults
  planned := second.planned.trans first.planned
  timeoutMillis := second.timeoutMillis.trans first.timeoutMillis
  rows table := (second.rows table).trans (first.rows table)
  world := second.world.trans first.world

/-- Events that are noted one after the other change nothing else. -/
theorem stays_foldl_note
    {item : Type}
    (shared : Shared world)
    (event : item → Event)
    (items : List item) :
    shared.Stays (items.foldl (fun shared item => shared.note (event item)) shared) := by
  rw [foldl_note]
  exact ⟨rfl, rfl, rfl, fun _ => rfl, rfl⟩

/-- It stays quiet as long as the world outside is as it may be. -/
theorem IsQuiet.becomes
    {mayBe : world → Prop}
    {before after : Shared world}
    {rows : String → List Row}
    {outside : world}
    (quiet : before.IsQuiet mayBe)
    (becomes : before.Becomes after rows outside)
    (isPossible : mayBe outside) :
    after.IsQuiet mayBe where
  faults := becomes.faults.trans quiet.faults
  planned := becomes.planned.trans quiet.planned
  patient := becomes.timeoutMillis ▸ quiet.patient
  world := becomes.world ▸ isPossible

end Shared

/-- How much a stage of a query or a task leaves to be done until the next one begins. -/
def Stage.rank : Stage world → Nat
  | idle => 3
  | waiting => 2
  | connected => 1
  | answered _ => 4
  | settled _ _ => 4

theorem Stage.rank_pos_and_le (stage : Stage world) : 0 < stage.rank ∧ stage.rank ≤ 4 := by
  cases stage <;> simp [rank]

namespace Thread

/-- What is ahead of a thread: its chain, or what follows the query whose statement was executed or
the task that is known to come to something. -/
def ahead (thread : Thread world) : Chain world :=
  match thread.chain, thread.stage with
  | Chain.query _ issued next, Stage.answered rows => next (issued.resolve rows)
  | _, Stage.settled outcome next => next outcome
  | chain, _ => chain

/-- Between two queries, the chain of a thread is ahead of it. -/
@[simp] theorem ahead_of_isIdle
    {thread : Thread world}
    (isIdle : thread.stage.isIdle = true) :
    thread.ahead = thread.chain := by
  obtain ⟨chain, scope, stage, cleanups⟩ := thread
  cases stage with
  | idle => cases chain <;> rfl
  | waiting | connected | answered | settled => cases isIdle

variable {setup : Setup world} {thread : Thread world} {shared : Shared world}
  {mayBe : world → Prop}

/-- A step leaves a thread with another chain or in another stage, the rank of which has a bound.
What is ahead of the thread is given, and so is what has become of the rows. -/
def ComesTo (setup : Setup world) (thread : Thread world) (shared : Shared world)
    (ahead : Chain world) (rows : String → List Row) (bound : Nat) : Prop :=
  ∃ chain stage,
    (thread.step setup shared).1.threads = [{ thread with chain, stage }] ∧
      ahead = Thread.ahead { thread with chain, stage } ∧
      shared.Becomes (thread.step setup shared).2 rows shared.world ∧
      stage.rank < bound

/-- What a thread comes to is seen when it takes its step. -/
theorem ComesTo.of_step
    {progress : Progress world}
    {after : Shared world}
    {ahead chain : Chain world}
    {stage : Stage world}
    {rows : String → List Row}
    {bound : Nat}
    (steps : thread.step setup shared = (progress, after))
    (left : progress.threads = [{ thread with chain, stage }])
    (isAhead : ahead = Thread.ahead { thread with chain, stage })
    (becomes : shared.Becomes after rows shared.world)
    (isBound : stage.rank < bound) :
    ComesTo setup thread shared ahead rows bound :=
  ⟨chain, stage, by rw [steps, left], isAhead, by rw [steps]; exact becomes, isBound⟩

section Query

variable {result : Type} {owed : List Cleanup} {issued : Query result}
  {next : Except QueryError result → Chain world}

/-- In quiet times, a thread that asks for a connection gets one that is available, and waits
otherwise. -/
theorem step_acquire
    (setup : Setup world)
    (quiet : shared.IsQuiet mayBe)
    (atQuery : thread.chain = Chain.query owed issued next)
    (isIdle : thread.stage = Stage.idle)
    (accepted : issued.rejection = none) :
    thread.step setup shared =
      if shared.pool.isAvailable then
        (Progress.moved { thread with stage := Stage.connected },
          { shared.note Event.acquiring with pool := shared.pool.grant })
      else
        (Progress.asleep (shared.clock + shared.pool.timeoutMillis)
            { thread with stage := Stage.waiting },
          shared.note Event.acquiring) := by
  obtain ⟨faults, planned, patient, _⟩ := quiet
  have noPlan : shared.injectPlanned = shared := by
    unfold Shared.injectPlanned
    rw [planned]
  have noFault (fault : Fault) : shared.pool.takeFault fault = none := by
    simp [Pool.takeFault, faults]
  unfold step
  simp only [atQuery, isIdle, accepted, acquire, noPlan, Pool.request, Shared.note, noFault]
  cases shared.pool.isAvailable with
  | true => rfl
  | false => simp [Nat.ne_of_gt patient]

/-- In quiet times, asking for a connection makes no difference. -/
theorem comesTo_acquire
    (quiet : shared.IsQuiet mayBe)
    (atQuery : thread.chain = Chain.query owed issued next)
    (isIdle : thread.stage = Stage.idle)
    (accepted : issued.rejection = none) :
    ComesTo setup thread shared thread.chain shared.pool.rows thread.stage.rank := by
  have asks := step_acquire setup quiet atQuery isIdle accepted
  rw [isIdle, atQuery]
  cases available : shared.pool.isAvailable with
  | true =>
      rw [available, if_pos rfl] at asks
      have isAhead : Chain.query owed issued next =
          ahead { thread with stage := Stage.connected } := by
        simp [ahead, atQuery]
      exact ComesTo.of_step asks rfl isAhead ⟨rfl, rfl, rfl, fun _ => rfl, rfl⟩
        (by simp [Stage.rank])
  | false =>
      rw [available, if_neg Bool.false_ne_true] at asks
      have isAhead : Chain.query owed issued next =
          ahead { thread with stage := Stage.waiting } := by
        simp [ahead, atQuery]
      exact ComesTo.of_step asks rfl isAhead ⟨rfl, rfl, rfl, fun _ => rfl, rfl⟩
        (by simp [Stage.rank])

/-- A thread that goes on with what is ahead of it makes no difference. -/
theorem comesTo_goOn
    {chain : Chain world}
    {after : Shared world}
    (goesOn : thread.step setup shared = (thread.goOn chain, after))
    (isAhead : thread.ahead = chain)
    (stays : shared.Stays after)
    (isLast : 3 < thread.stage.rank) :
    ComesTo setup thread shared thread.ahead shared.pool.rows thread.stage.rank := by
  have isNext : ahead { thread with chain, stage := Stage.idle } = chain := ahead_of_isIdle rfl
  exact ComesTo.of_step goesOn rfl (isAhead.trans isNext.symm) stays isLast

/-- A query comes to be answered from the tables in one of the steps of its thread, and the other
steps make no difference. -/
theorem comesTo_query
    (quiet : shared.IsQuiet mayBe)
    (atQuery : thread.chain = Chain.query owed issued next)
    (accepted : thread.stage = Stage.idle → issued.rejection = none)
    (mayGo : thread.stage = Stage.waiting → shared.pool.isAvailable = true) :
    ComesTo setup thread shared thread.ahead shared.pool.rows thread.stage.rank ∨
      thread.ahead = thread.chain ∧
        ComesTo setup thread shared (next (shared.pool.ask issued))
          (shared.pool.apply issued.statement).2.rows 5 := by
  obtain ⟨chain, scope, stage, cleanups⟩ := thread
  dsimp only at atQuery
  subst atQuery
  cases stage with
  | idle => exact Or.inl (comesTo_acquire quiet rfl rfl (accepted rfl))
  | waiting =>
      have granted : step setup ⟨Chain.query owed issued next, scope, Stage.waiting, cleanups⟩
            shared =
          (Progress.moved ⟨Chain.query owed issued next, scope, Stage.connected, cleanups⟩,
            { shared with pool := shared.pool.grant }) := by
        simp [step, mayGo rfl]
      exact Or.inl (ComesTo.of_step granted rfl rfl ⟨rfl, rfl, rfl, fun _ => rfl, rfl⟩
        (Nat.lt_succ_self 1))
  | connected =>
      have noFault : shared.pool.takeFault Fault.execute = none := by
        simp [Pool.takeFault, quiet.faults]
      let ran := shared.pool.apply issued.statement
      have executed : step setup ⟨Chain.query owed issued next, scope, Stage.connected, cleanups⟩
            shared =
          (Progress.moved
              ⟨Chain.query owed issued next, scope, Stage.answered (Except.ok ran.1), cleanups⟩,
            { shared.note (Event.executing issued.statement) with pool := ran.2 }) := by
        simp [ran, step, Pool.execute, Shared.note, noFault]
      refine Or.inr ⟨rfl, ComesTo.of_step executed rfl rfl ?_ (Nat.lt_succ_self 4)⟩
      constructor
      case faults => exact Pool.faults_apply shared.pool issued.statement
      case timeoutMillis => exact Pool.timeoutMillis_apply shared.pool issued.statement
      case rows => exact fun _ => rfl
      all_goals rfl
  | answered rows =>
      exact Or.inl (comesTo_goOn rfl rfl ⟨rfl, rfl, rfl, fun _ => rfl, rfl⟩
        (Nat.lt_succ_self 3))
  | settled =>
      exact Or.inl (comesTo_goOn rfl rfl (Shared.Stays.refl shared) (Nat.lt_succ_self 3))

end Query

/-- A thread has come to a point of its chain: the point is ahead of it, or its chain waits for the
session there. In that case the thread finds the session on the tables. A round has been used up for
each selection that it has come to, and the others will not be more than four in all. -/
inductive IsAt (session : Option Session) (pool : Pool) (used : Nat) (thread : Thread world)
    (point : Chain world) : Prop
  | here (isAhead : thread.ahead = point) (noneUsed : used = 0) :
      IsAt session pool used thread point
  | lookingUp {owed ownOwed : List Cleanup} {next : Option Session → Chain world} {result : Type}
      {issued : Query result} {follow : Except QueryError result → Chain world} {most : Nat}
      (isSession : point = Chain.session owed next)
      (isAhead : thread.ahead = Chain.query ownOwed issued follow)
      (accepted : issued.rejection = none)
      (isSelect : issued.statement.isSelect = true)
      (ofSessions : issued.statement.table ∈ Session.tables)
      (finds : Chain.Finds Session.tables pool (next session) most (follow (pool.ask issued)))
      (isWithin : used + most ≤ 4) :
      IsAt session pool used thread point

end Thread

end Serve

end Screencast
