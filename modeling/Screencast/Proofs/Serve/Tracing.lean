import Screencast.Proofs.Effect.Tracing
import Screencast.Proofs.Serve.Alone

/-!
# Serving a chain that logs more

A system that serves a chain with further entries of the log takes a step more for each of them. But
for these steps it goes along with the system that serves the chain itself: whatever one of them
comes to, the other one comes to as well, but for the log.
-/

namespace Screencast

namespace Serve

variable {world : Type}

/-! ## What is shared -/

/-- What is shared is the same but for the log. -/
def Shared.SameButLog (left right : Shared world) : Prop :=
  ∃ journal, Event.unlogged left.journal = Event.unlogged journal ∧ right = { left with journal }

namespace Shared.SameButLog

variable {left right : Shared world}

theorem refl (shared : Shared world) : shared.SameButLog shared := ⟨shared.journal, rfl, rfl⟩

theorem note (same : left.SameButLog right) (event : Event) :
    (left.note event).SameButLog (right.note event) := by
  obtain ⟨journal, journals, rfl⟩ := same
  exact ⟨journal ++ [event], by simp [Shared.note, journals], rfl⟩

theorem logged (same : left.SameButLog right) (entry : LogEntry) :
    left.SameButLog (right.note (Event.logged entry)) := by
  obtain ⟨journal, journals, rfl⟩ := same
  exact ⟨journal ++ [Event.logged entry], by simp [journals], rfl⟩

theorem log (same : left.SameButLog right) (entries : List LogEntry) :
    (left.log entries).SameButLog (right.log entries) := by
  unfold Shared.log
  induction entries generalizing left right with
  | nil => exact same
  | cons entry entries inductionHypothesis => exact inductionHypothesis (same.note _)

theorem clean (same : left.SameButLog right) (cleanups : List Cleanup) :
    (cleanups.foldl (fun shared cleanup => shared.note (Event.cleaned cleanup)) left).SameButLog
      (cleanups.foldl (fun shared cleanup => shared.note (Event.cleaned cleanup)) right) := by
  induction cleanups generalizing left right with
  | nil => exact same
  | cons cleanup cleanups inductionHypothesis => exact inductionHypothesis (same.note _)

theorem withPool (same : left.SameButLog right) (pool : Pool) :
    Shared.SameButLog { left with pool } { right with pool } := by
  obtain ⟨journal, journals, rfl⟩ := same
  exact ⟨journal, journals, rfl⟩

theorem injectPlanned (same : left.SameButLog right) :
    left.injectPlanned.SameButLog right.injectPlanned := by
  obtain ⟨journal, journals, rfl⟩ := same
  unfold Shared.injectPlanned
  dsimp only
  split <;> exact ⟨journal, journals, rfl⟩

end Shared.SameButLog

/-! ## Threads -/

/-- What is at the head of two chains has come equally far. If it is known what a wait comes to, it
is the same, and what follows is the same, with further entries of the log. -/
inductive Stage.AddsLog : Stage world → Stage world → Prop
  | idle : AddsLog idle idle
  | waiting : AddsLog waiting waiting
  | connected : AddsLog connected connected
  | answered (rows : Except QueryError (List Row)) : AddsLog (answered rows) (answered rows)
  | settled {result : Type} (outcome : Except TaskError result)
      {next follow : Except TaskError result → Chain world}
      (follows : ∀ outcome, (next outcome).AddsLog (follow outcome)) :
      AddsLog (settled outcome next) (settled outcome follow)

/-- The second thread is the first one, with further entries of the log. -/
def Thread.AddsLog (plain logging : Thread world) : Prop :=
  logging.IsOrderly ∧ ∃ chain stage, plain.chain.AddsLog chain ∧ plain.stage.AddsLog stage ∧
    logging = { plain with chain, stage }

/-- A step of the second thread leads to the same as one of the first. -/
inductive Progress.AddsLog : Progress world → Progress world → Prop
  | moved {plain logging : Thread world} (adds : plain.AddsLog logging) :
      AddsLog (moved plain) (moved logging)
  | split {aside rest otherAside otherRest : Thread world} (asideAdds : aside.AddsLog otherAside)
      (restAdds : rest.AddsLog otherRest) : AddsLog (split aside rest) (split otherAside otherRest)
  | yielded {plain logging : Thread world} (adds : plain.AddsLog logging) :
      AddsLog (yielded plain) (yielded logging)
  | asleep (due : Nat) {plain logging : Thread world} (adds : plain.AddsLog logging) :
      AddsLog (asleep due plain) (asleep due logging)
  | stuck : AddsLog stuck stuck
  | finished (response : Http.Response) : AddsLog (finished response) (finished response)

namespace Thread

variable {setup : Setup world} {plain logging : Thread world} {left right : Shared world}

/-- A thread that has nothing at work goes along with one that has another chain. -/
theorem addsLog_of_chain
    {next follow : Chain world}
    (follows : next.AddsLog follow)
    (scope : Scope)
    (cleanups : List Cleanup) :
    AddsLog ⟨next, scope, Stage.idle, cleanups⟩ ⟨follow, scope, Stage.idle, cleanups⟩ :=
  ⟨IsOrderly.idle rfl, follow, Stage.idle, follows, Stage.AddsLog.idle, rfl⟩

/-- Both threads go on with their chains. -/
theorem AddsLog.goOn
    {next follow : Chain world}
    (adds : plain.AddsLog logging)
    (follows : next.AddsLog follow) :
    (plain.goOn next).AddsLog (logging.goOn follow) := by
  obtain ⟨_, chain, stage, _, _, rfl⟩ := adds
  exact Progress.AddsLog.moved (addsLog_of_chain follows _ _)

/-- What is at the head of both threads may have come further. -/
theorem AddsLog.atStage
    {stage stageToo : Stage world}
    (adds : plain.AddsLog logging)
    (stages : stage.AddsLog stageToo)
    (orderly : IsOrderly { logging with stage := stageToo }) :
    AddsLog { plain with stage } { logging with stage := stageToo } := by
  obtain ⟨_, chain, _, follows, _, rfl⟩ := adds
  exact ⟨orderly, chain, stageToo, follows, stages, rfl⟩

/-- Both threads ask for a connection with the same result. -/
theorem AddsLog.acquire
    {failed failedToo : QueryError → Chain world}
    (adds : plain.AddsLog logging)
    (atQuery : logging.isAtQuery = true)
    (same : left.SameButLog right)
    (follows : ∀ error, (failed error).AddsLog (failedToo error)) :
    (plain.acquire left failed).1.AddsLog (logging.acquire right failedToo).1 ∧
      (plain.acquire left failed).2.SameButLog (logging.acquire right failedToo).2 := by
  have asked := same.injectPlanned.note Event.acquiring
  unfold Thread.acquire
  dsimp only
  generalize left.injectPlanned.note Event.acquiring = before at asked ⊢
  generalize right.injectPlanned.note Event.acquiring = beforeToo at asked ⊢
  obtain ⟨journal, journals, rfl⟩ := asked
  dsimp only
  split
  next =>
    have further := adds.atStage Stage.AddsLog.connected (IsOrderly.inQuery atQuery rfl)
    exact ⟨Progress.AddsLog.moved further, journal, journals, rfl⟩
  next => exact ⟨adds.goOn (follows _), journal, journals, rfl⟩
  next =>
    split
    · exact ⟨adds.goOn (follows _), journal, journals, rfl⟩
    · have further := adds.atStage Stage.AddsLog.waiting (IsOrderly.inQuery atQuery rfl)
      exact ⟨Progress.AddsLog.asleep _ further, journal, journals, rfl⟩

/-- Both threads wait for a task with the same result. -/
theorem AddsLog.await
    {result : Type}
    {owed : List Cleanup}
    {call : Task world result}
    {next follow : Except TaskError result → Chain world}
    (adds : plain.AddsLog logging)
    (atTask : logging.chain = Chain.task owed call follow)
    (same : left.SameButLog right)
    (follows : ∀ outcome, (next outcome).AddsLog (follow outcome)) :
    (plain.await setup left call next).1.AddsLog (logging.await setup right call follow).1 ∧
      (plain.await setup left call next).2.SameButLog
        (logging.await setup right call follow).2 := by
  have waits (outcome : Except TaskError result) :=
    adds.atStage (Stage.AddsLog.settled outcome follows) (IsOrderly.settled atTask rfl)
  obtain ⟨_, chain, stage, _, _, rfl⟩ := adds
  obtain ⟨journal, journals, rfl⟩ := same
  unfold Thread.await
  dsimp only
  generalize Completion.settle _ _ _ _ = settled
  cases settled with
  | none => exact ⟨Progress.AddsLog.stuck, journal, journals, rfl⟩
  | some settlement =>
      obtain ⟨millis, outcome⟩ := settlement
      dsimp only
      split
      · exact ⟨Progress.AddsLog.yielded (waits outcome), journal, journals, rfl⟩
      · exact ⟨Progress.AddsLog.asleep _ (waits outcome), journal, journals, rfl⟩

/-- Both threads take the next step of a query with the same result. -/
theorem AddsLog.ask
    {result : Type}
    {issued : Query result}
    {next follow : Except QueryError result → Chain world}
    {owed cleanups : List Cleanup}
    {scope : Scope}
    {stage stageToo : Stage world}
    (adds : AddsLog ⟨Chain.query owed issued next, scope, stage, cleanups⟩
      ⟨Chain.query owed issued follow, scope, stageToo, cleanups⟩)
    (stages : stage.AddsLog stageToo)
    (same : left.SameButLog right)
    (follows : ∀ outcome, (next outcome).AddsLog (follow outcome)) :
    let plain : Thread world := ⟨Chain.query owed issued next, scope, stage, cleanups⟩
    let logging : Thread world := ⟨Chain.query owed issued follow, scope, stageToo, cleanups⟩
    (plain.step setup left).1.AddsLog (logging.step setup right).1 ∧
      (plain.step setup left).2.SameButLog (logging.step setup right).2 := by
  intro plain logging
  cases stages with
  | idle =>
      cases rejected : issued.rejection with
      | some error =>
          simp only [plain, logging, step, rejected]
          exact ⟨adds.goOn (follows (Except.error error)), same⟩
      | none =>
          simp only [plain, logging, step, rejected]
          exact adds.acquire rfl same fun error => follows (Except.error error)
  | waiting =>
      obtain ⟨journal, journals, rfl⟩ := same
      simp only [plain, logging, step]
      split
      · have further := adds.atStage Stage.AddsLog.connected (IsOrderly.inQuery rfl rfl)
        exact ⟨Progress.AddsLog.moved further, journal, journals, rfl⟩
      · exact ⟨adds.goOn (follows _), journal, journals, rfl⟩
  | connected =>
      have noted := same.note (Event.executing issued.statement)
      obtain ⟨_, _, rfl⟩ := same
      have further (rows : Except QueryError (List Row)) :=
        adds.atStage (Stage.AddsLog.answered rows) (IsOrderly.inQuery rfl rfl)
      exact ⟨Progress.AddsLog.moved (further _), noted.withPool _⟩
  | answered rows =>
      have noted := same.note Event.released
      obtain ⟨_, _, rfl⟩ := same
      exact ⟨adds.goOn (follows _), noted.withPool _⟩
  | settled outcome onward => exact ⟨adds.goOn (onward outcome), same⟩

/-- The second thread is at an entry of the log that the first one does not make. -/
def IsAhead (plain logging : Thread world) : Prop :=
  ∃ entry rest, logging.chain = Chain.note (Event.logged entry) rest ∧ plain.chain.AddsLog rest

/-- The second thread makes a further entry of the log, or a step of it leads to the same as one of
the first. -/
theorem AddsLog.step
    (adds : plain.AddsLog logging)
    (same : left.SameButLog right)
    (resolves : ∀ token, (setup.resolver token).KeepsLog) :
    plain.IsAhead logging ∨
      ((plain.step setup left).1.AddsLog (logging.step setup right).1 ∧
        (plain.step setup left).2.SameButLog (logging.step setup right).2 ∧
        plain.startsAtOnce = logging.startsAtOnce) := by
  have related := adds
  obtain ⟨_, other, stageToo, chains, stages, rfl⟩ := adds
  obtain ⟨chain, scope, stage, cleanups⟩ := plain
  dsimp only at chains stages
  cases chains with
  | logged entry follows => exact Or.inl ⟨entry, _, rfl, follows⟩
  | respond terminal =>
      exact Or.inr ⟨Progress.AddsLog.finished _, (same.log _).clean cleanups, rfl⟩
  | session owed follows =>
      right
      cases given : scope.token with
      | none =>
          simp only [step, given]
          exact ⟨related.goOn (follows none), same, rfl⟩
      | some token =>
          simp only [step, given]
          exact ⟨related.goOn (resolves token _ _ rfl follows), same, rfl⟩
  | body owed follows =>
      right
      cases given : scope.body with
      | none =>
          simp only [step, given]
          exact ⟨related.goOn (Chain.AddsLog.refl _), same, rfl⟩
      | some bytes =>
          simp only [step, given]
          exact ⟨related.goOn (follows bytes), same, rfl⟩
  | query owed issued follows =>
      obtain ⟨progress, after⟩ := AddsLog.ask related stages same follows
      exact Or.inr ⟨progress, after, rfl⟩
  | task owed call follows =>
      right
      obtain ⟨progress, after⟩ := related.await rfl same follows
      cases stages with
      | settled outcome onward => exact ⟨related.goOn (onward outcome), same, rfl⟩
      | idle | waiting | connected | answered => exact ⟨progress, after, rfl⟩
  | detach asideAdds restAdds =>
      exact Or.inr ⟨Progress.AddsLog.split (addsLog_of_chain asideAdds _ _)
        (addsLog_of_chain restAdds _ _), same, rfl⟩
  | ensure cleanup follows =>
      exact Or.inr ⟨Progress.AddsLog.moved (addsLog_of_chain follows _ _), same, rfl⟩
  | note event follows => exact Or.inr ⟨related.goOn follows, same.note _, rfl⟩
  | fresh follows =>
      obtain ⟨journal, journals, rfl⟩ := same
      exact Or.inr ⟨related.goOn (follows _), ⟨journal, journals, rfl⟩, rfl⟩
  | observe follows =>
      obtain ⟨journal, journals, rfl⟩ := same
      exact Or.inr ⟨related.goOn (follows _), ⟨journal, journals, rfl⟩, rfl⟩

end Thread

/-! ## Systems -/

/-- The second job is the first one, with further entries of the log. -/
structure Job.AddsLog (plain logging : Job world) : Prop where
  role : plain.role = logging.role
  thread : plain.thread.AddsLog logging.thread

/-- What is ready is the same, with further entries of the log. -/
inductive Ready.AddsLog : Ready world → Ready world → Prop
  | job {plain logging : Job world} (adds : plain.AddsLog logging) :
      AddsLog (job plain) (job logging)
  | resumed {plain logging : Job world} (adds : plain.AddsLog logging) :
      AddsLog (resumed plain) (resumed logging)
  | report (response : Http.Response) : AddsLog (report response) (report response)

/-- The second sleeper is the first one, with further entries of the log. -/
structure Sleeper.AddsLog (plain logging : Sleeper world) : Prop where
  due : plain.due = logging.due
  job : plain.job.AddsLog logging.job

namespace System

/-- The second system is at the same point as the first one, with further entries of the log. -/
structure AddsLog (plain logging : System world) : Prop where
  line : plain.line = logging.line
  shared : plain.shared.SameButLog logging.shared
  current : Option.Rel Job.AddsLog plain.current logging.current
  starters : List.Forall₂ Job.AddsLog plain.starters logging.starters
  ready : List.Forall₂ Ready.AddsLog plain.ready logging.ready
  deferred : List.Forall₂ Job.AddsLog plain.deferred logging.deferred
  sleepers : List.Forall₂ Sleeper.AddsLog plain.sleepers logging.sleepers
  response : plain.response = logging.response

namespace AddsLog

variable {setup : Setup world} {plain logging : System world} {job other : Job world}

/-- A failure is put into the log of both systems. -/
theorem logFault
    (adds : plain.AddsLog logging)
    (response : Http.Response)
    (entry : LogEntry) :
    (plain.logFault response entry).AddsLog (logging.logFault response entry) := by
  unfold System.logFault
  split
  · exact { adds with shared := adds.shared.note _ }
  · exact adds

theorem report (adds : plain.AddsLog logging) (response : Http.Response) :
    (plain.report response).AddsLog (logging.report response) := by
  unfold System.report
  rw [adds.line]
  exact adds.logFault response _

/-- A thread of both systems has finished. -/
theorem finish
    (adds : plain.AddsLog logging)
    (jobs : job.AddsLog other)
    (response : Http.Response) :
    (plain.finish job response).AddsLog (logging.finish other response) := by
  obtain ⟨_, _, _, _, _, sameThread⟩ := jobs.thread
  unfold System.finish
  rw [jobs.role]
  split
  next =>
    have completed : (plain.complete job.thread response).AddsLog
        (logging.complete other.thread response) := by
      unfold System.complete
      rw [sameThread, adds.line]
      split
      · exact adds
      · exact adds.logFault response _
    exact { completed with response := rfl }
  next => exact adds.report response
  next =>
    exact { adds with
      ready := List.rel_append adds.ready (List.Forall₂.cons (Ready.AddsLog.report response) .nil) }

/-- The threads at work take steps with the same results. -/
theorem work
    (adds : plain.AddsLog logging)
    (jobs : job.AddsLog other)
    (progress : (job.thread.step setup plain.shared).1.AddsLog
      (other.thread.step setup logging.shared).1)
    (shared : (job.thread.step setup plain.shared).2.SameButLog
      (other.thread.step setup logging.shared).2) :
    (plain.work setup job).AddsLog (logging.work setup other) := by
  unfold System.work
  generalize job.thread.step setup plain.shared = after at progress shared ⊢
  generalize other.thread.step setup logging.shared = afterToo at progress shared ⊢
  obtain ⟨progressed, after⟩ := after
  obtain ⟨progressedToo, afterToo⟩ := afterToo
  dsimp only at progress shared ⊢
  have idle : AddsLog { plain with shared := after, current := none }
      { logging with shared := afterToo, current := none } :=
    { adds with shared, current := Option.Rel.none }
  cases progress with
  | moved threads => exact { idle with current := Option.Rel.some ⟨jobs.role, threads⟩ }
  | split asides rests =>
      exact { idle with
        current := Option.Rel.some ⟨rfl, asides⟩
        starters := List.Forall₂.cons ⟨jobs.role, rests⟩ adds.starters }
  | yielded threads =>
      exact { idle with
        deferred := List.Forall₂.cons ⟨congrArg Role.resumed jobs.role, threads⟩ adds.deferred }
  | asleep due threads =>
      exact { idle with
        sleepers := List.rel_append adds.sleepers
          (List.Forall₂.cons ⟨rfl, congrArg Role.resumed jobs.role, threads⟩ .nil) }
  | stuck => exact idle
  | finished response => exact idle.finish jobs response

/-- The threads at work go on with the same results. -/
theorem proceed
    (adds : plain.AddsLog logging)
    (jobs : job.AddsLog other)
    (worked : (plain.work setup job).AddsLog (logging.work setup other))
    (startsAtOnce : job.thread.startsAtOnce = other.thread.startsAtOnce) :
    (plain.proceed setup job).AddsLog (logging.proceed setup other) := by
  obtain ⟨line, shared, current, starters, ready, deferred, sleepers, response⟩ := plain
  obtain ⟨lineToo, sharedToo, currentToo, startersToo, readyToo, deferredToo, sleepersToo,
    responseToo⟩ := logging
  have sameStarters := adds.starters
  dsimp only at sameStarters
  cases sameStarters with
  | nil => exact worked
  | cons starter starters =>
      unfold System.proceed
      dsimp only
      rw [startsAtOnce]
      split
      · exact worked
      · exact { adds with
          current := Option.Rel.some starter
          starters := starters
          ready := List.rel_append adds.ready (List.Forall₂.cons (Ready.AddsLog.job jobs) .nil) }

/-- The same threads are woken in both systems. -/
theorem wake (adds : plain.AddsLog logging) (due : Nat) :
    (plain.wake due).AddsLog (logging.wake due) := by
  have wakened : ∀ left right : Sleeper world, left.AddsLog right →
      (System.wakened left).AddsLog (System.wakened right) := by
    intro left right related
    obtain ⟨_, _, stage, _, stages, sameThread⟩ := related.job.thread
    have sameStage : right.job.thread.stage = stage := congrArg Thread.stage sameThread
    unfold System.wakened
    rw [sameStage]
    generalize left.job.thread.stage = stageLeft at stages
    cases stages with
    | waiting => exact Ready.AddsLog.job related.job
    | idle | connected | answered | settled => exact Ready.AddsLog.resumed related.job
  have chosen (choice : Nat → Bool) : List.Forall₂ Sleeper.AddsLog
      (plain.sleepers.filter fun sleeper => choice sleeper.due)
      (logging.sleepers.filter fun sleeper => choice sleeper.due) :=
    List.rel_filter (fun _ _ related => Iff.of_eq (congrArg (choice · = true) related.due))
      adds.sleepers
  obtain ⟨journal, journals, sameShared⟩ := adds.shared
  unfold System.wake
  rw [List.partition_eq_filter_filter, List.partition_eq_filter_filter, sameShared]
  exact { adds with
    shared := ⟨journal, journals, rfl⟩
    ready := List.rel_map wakened (chosen fun moment => moment ≤ due)
    sleepers := chosen fun moment => !decide (moment ≤ due) }

/-- The next thread wakes up at the same time in both systems. -/
theorem earliest?_eq (adds : plain.AddsLog logging) :
    earliest? plain.sleepers = earliest? logging.sleepers := by
  have sameTimes : plain.sleepers.map Sleeper.due = logging.sleepers.map Sleeper.due := by
    have sleepers := adds.sleepers
    generalize plain.sleepers = left at sleepers ⊢
    generalize logging.sleepers = right at sleepers ⊢
    induction sleepers with
    | nil => rfl
    | cons sleeper _ inductionHypothesis =>
        rw [List.map_cons, List.map_cons, sleeper.due, inductionHypothesis]
  unfold earliest?
  rw [sameTimes]

end AddsLog

/-! ## Steps -/

/-- How many notes the thread at work makes before it does something else. -/
def notesAhead (system : System world) : Nat :=
  match system.current with
  | some job => job.thread.chain.leadingNotes
  | none => 0

variable {setup : Setup world} {plain logging : System world}

/-- A thread that makes an entry of the log which the other one does not make comes closer to where
the other one is. -/
theorem AddsLog.catchUp
    {job other : Job world}
    (adds : plain.AddsLog logging)
    (isCurrent : plain.current = some job)
    (isCurrentToo : logging.current = some other)
    (jobs : job.AddsLog other)
    (isAhead : job.thread.IsAhead other.thread) :
    plain.AddsLog (logging.proceed setup other) ∧
      (logging.proceed setup other).notesAhead < logging.notesAhead := by
  obtain ⟨entry, rest, atEntry, follows⟩ := isAhead
  obtain ⟨role, ⟨chain, scope, stage, cleanups⟩⟩ := other
  dsimp only at atEntry
  subst atEntry
  obtain ⟨orderly, _, ownStage, _, stages, sameThread⟩ := jobs.thread
  obtain rfl : stage = Stage.idle := orderly.stage_eq_idle rfl
  obtain rfl : Stage.idle = ownStage := congrArg Thread.stage sameThread
  have proceeded : logging.proceed setup
      ⟨role, ⟨Chain.note (Event.logged entry) rest, scope, Stage.idle, cleanups⟩⟩ =
        { logging with
          shared := logging.shared.note (Event.logged entry)
          current := some ⟨role, ⟨rest, scope, Stage.idle, cleanups⟩⟩ } := by
    unfold System.proceed
    split <;> rfl
  rw [proceeded]
  constructor
  · have threads : job.thread.AddsLog ⟨rest, scope, Stage.idle, cleanups⟩ := by
      refine ⟨Thread.IsOrderly.idle rfl, rest, Stage.idle, follows, stages, ?_⟩
      rw [Thread.mk.injEq] at sameThread ⊢
      exact ⟨rfl, sameThread.2⟩
    exact { adds with
      shared := adds.shared.logged entry
      current := isCurrent ▸ Option.Rel.some ⟨jobs.role, threads⟩ }
  · unfold notesAhead
    rw [isCurrentToo]
    exact Nat.lt_succ_self _

/-- The second system makes a further entry of the log, or both systems take a step to the same
point, or both are at a halt. -/
theorem AddsLog.step
    (adds : plain.AddsLog logging)
    (resolves : ∀ token, (setup.resolver token).KeepsLog) :
    (∃ after, logging.step? setup = some after ∧ plain.AddsLog after ∧
        after.notesAhead < logging.notesAhead) ∨
      Option.Rel AddsLog (plain.step? setup) (logging.step? setup) := by
  obtain ⟨line, shared, current, starters, ready, deferred, sleepers, response⟩ := plain
  obtain ⟨lineToo, sharedToo, currentToo, startersToo, readyToo, deferredToo, sleepersToo,
    responseToo⟩ := logging
  have current := adds.current
  dsimp only at current
  cases current with
  | @some job other jobs =>
      rcases jobs.thread.step adds.shared resolves with isAhead | ⟨progress, shared, startsAtOnce⟩
      · exact Or.inl ⟨_, rfl, adds.catchUp rfl rfl jobs isAhead⟩
      · exact Or.inr (Option.Rel.some
          (adds.proceed jobs (adds.work jobs progress shared) startsAtOnce))
  | none =>
      right
      have ready := adds.ready
      dsimp only at ready
      cases ready with
      | cons first later =>
          cases first with
          | job jobs =>
              exact Option.Rel.some { adds with current := Option.Rel.some jobs, ready := later }
          | resumed jobs =>
              exact Option.Rel.some { adds with
                ready := later
                deferred := List.Forall₂.cons jobs adds.deferred }
          | report response =>
              refine Option.Rel.some (AddsLog.report ?_ response)
              exact { adds with ready := later }
      | nil =>
          have deferred := adds.deferred
          dsimp only at deferred
          cases deferred with
          | cons first later =>
              refine Option.Rel.some { adds with ready := ?_, deferred := List.Forall₂.nil }
              exact List.rel_map (fun _ _ jobs => Ready.AddsLog.job jobs)
                (List.Forall₂.cons first later)
          | nil =>
              have sameTime : earliest? sleepers = earliest? sleepersToo := adds.earliest?_eq
              unfold step?
              dsimp only
              rw [sameTime]
              cases earliest? sleepersToo with
              | none => exact Option.Rel.none
              | some due => exact Option.Rel.some (adds.wake due)

/-! ## Runs -/

/-- Whatever the plain system comes to, the other one comes to as well. -/
theorem AddsLog.exists_run
    (adds : plain.AddsLog logging)
    (resolves : ∀ token, (setup.resolver token).KeepsLog)
    (fuel : Nat) :
    ∃ more, (plain.run setup fuel).AddsLog (logging.run setup more) := by
  induction fuel generalizing plain logging with
  | zero => exact ⟨0, adds⟩
  | succ fuel inductionHypothesis =>
      -- The second system catches up first, which takes as many steps as it has notes ahead.
      induction ahead : logging.notesAhead using Nat.strongRecOn generalizing logging with
      | ind notes catchesUp =>
          rcases adds.step resolves with ⟨after, steps, addsStill, fewer⟩ | together
          · obtain ⟨more, comes⟩ := catchesUp _ (ahead ▸ fewer) addsStill rfl
            exact ⟨more + 1, by simpa only [run, steps] using comes⟩
          · generalize stepsPlain : plain.step? setup = afterPlain at together
            generalize stepsToo : logging.step? setup = afterToo at together
            cases together with
            | none => exact ⟨0, by simpa only [run, stepsPlain] using adds⟩
            | some addsStill =>
                obtain ⟨more, comes⟩ := inductionHypothesis addsStill
                exact ⟨more + 1, by simpa only [run, stepsPlain, stepsToo] using comes⟩

/-- Whatever the system with further entries comes to, the plain one comes to as well. -/
theorem AddsLog.exists_plain_run
    (adds : plain.AddsLog logging)
    (resolves : ∀ token, (setup.resolver token).KeepsLog)
    (fuel : Nat) :
    ∃ less, (plain.run setup less).AddsLog (logging.run setup fuel) := by
  induction fuel generalizing plain logging with
  | zero => exact ⟨0, adds⟩
  | succ fuel inductionHypothesis =>
      rcases adds.step resolves with ⟨after, steps, addsStill, _⟩ | together
      · obtain ⟨less, comes⟩ := inductionHypothesis addsStill
        exact ⟨less, by simpa only [run, steps] using comes⟩
      · generalize stepsPlain : plain.step? setup = afterPlain at together
        generalize stepsToo : logging.step? setup = afterToo at together
        cases together with
        | none => exact ⟨0, by simpa only [run, stepsToo] using adds⟩
        | some addsStill =>
            obtain ⟨less, comes⟩ := inductionHypothesis addsStill
            exact ⟨less + 1, by simpa only [run, stepsPlain, stepsToo] using comes⟩

/-- A chain with further entries of the log starts where the chain itself does. -/
theorem addsLog_start
    {chain logged : Chain world}
    (adds : chain.AddsLog logged)
    (line : RequestLine)
    (scope : Scope)
    (shared : Shared world) :
    (start line scope chain shared).AddsLog (start line scope logged shared) where
  line := rfl
  shared := Shared.SameButLog.refl shared
  current := Option.Rel.some ⟨rfl, Thread.addsLog_of_chain adds scope []⟩
  starters := List.Forall₂.nil
  ready := List.Forall₂.nil
  deferred := List.Forall₂.nil
  sleepers := List.Forall₂.nil
  response := rfl

end System

end Serve

end Screencast
