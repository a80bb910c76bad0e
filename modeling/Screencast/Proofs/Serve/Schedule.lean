import Mathlib.Algebra.GroupWithZero.Nat
import Screencast.Proofs.Serve.Fleet
import Screencast.Serve.System

/-!
# The scheduler and fleets

The threads of a system take turns in a fixed way. That is one of the ways in which a fleet of the
same threads can go on, so what holds of fleets holds while a request is answered.
-/

namespace Screencast

namespace Serve

variable {world : Type}

namespace Ready

/-- The thread of something that is ready. -/
def thread? : Ready world → Option (Thread world)
  | job started => some started.thread
  | resumed woken => some woken.thread
  | report _ => none

end Ready

namespace Thread

/-- A thread that is started and goes on at once is not in the middle of something afterwards. -/
theorem moved_or_split_of_startsAtOnce
    {setup : Setup world}
    {thread : Thread world}
    {shared : Shared world}
    (startsAtOnce : thread.startsAtOnce = true) :
    (∃ next, (thread.step setup shared).1 = Progress.moved next ∧ next.stage = Stage.idle) ∨
      ∃ aside rest, (thread.step setup shared).1 = Progress.split aside rest := by
  obtain ⟨chain, scope, stage, cleanups⟩ := thread
  cases chain with
  | session owed next =>
      left
      cases given : scope.token with
      | none => exact ⟨⟨next none, scope, Stage.idle, cleanups⟩, by simp [step, given, goOn], rfl⟩
      | some token =>
          exact ⟨⟨(setup.resolver token).run { next, owed }, scope, Stage.idle, cleanups⟩,
            by simp [step, given, goOn], rfl⟩
  | detach aside rest => exact Or.inr ⟨_, _, rfl⟩
  | note event rest => exact Or.inl ⟨_, rfl, rfl⟩
  | fresh next => exact Or.inl ⟨_, rfl, rfl⟩
  | observe next => exact Or.inl ⟨_, rfl, rfl⟩
  | respond | body | query | task | ensure => cases startsAtOnce

end Thread

namespace System

/-- The threads that are not at work. -/
def others (system : System world) : List (Thread world) :=
  system.starters.map Job.thread ++ (system.ready.filterMap Ready.thread? ++
    (system.deferred.map Job.thread ++ system.sleepers.map fun sleeper => sleeper.job.thread))

/-- All threads of a system. -/
def threads (system : System world) : List (Thread world) :=
  system.current.toList.map Job.thread ++ system.others

variable {system : System world}

/-- How often something occurs among the threads. -/
theorem count_threads [BEq (Thread world)] (system : System world) (thread : Thread world) :
    system.threads.count thread =
      (system.current.toList.map Job.thread).count thread +
        (system.starters.map Job.thread).count thread +
        (system.ready.filterMap Ready.thread?).count thread +
        (system.deferred.map Job.thread).count thread +
        (system.sleepers.map fun sleeper => sleeper.job.thread).count thread := by
  simp only [threads, others, List.count_append]
  omega

theorem threads_logFault (response : Http.Response) (entry : LogEntry) :
    (system.logFault response entry).threads = system.threads := by
  unfold logFault
  split <;> rfl

theorem passes_logFault (response : Http.Response) (entry : LogEntry) :
    system.shared.Passes (system.logFault response entry).shared := by
  unfold logFault
  split
  next => exact ⟨_, _, rfl⟩
  next => exact Shared.Passes.refl system.shared

/-- Taking in the end of a thread changes neither the threads nor what they share, but for an entry
of the log. -/
theorem finish_spec (system : System world) (job : Job world) (response : Http.Response) :
    (system.finish job response).threads = system.threads ∧
      system.shared.Passes (system.finish job response).shared := by
  unfold finish
  split
  next =>
    unfold complete
    split
    next => exact ⟨rfl, Shared.Passes.refl system.shared⟩
    next => exact ⟨threads_logFault _ _, passes_logFault _ _⟩
  next => exact ⟨threads_logFault _ _, passes_logFault _ _⟩
  next => exact ⟨by simp [threads, others, Ready.thread?], Shared.Passes.refl system.shared⟩

/-- A thread that takes a step is replaced by the threads that are left of it. -/
theorem work_spec (setup : Setup world) (system : System world) (job : Job world) :
    (system.work setup job).threads.Perm
        ((job.thread.step setup system.shared).1.threads ++ system.others) ∧
      (job.thread.step setup system.shared).2.Passes (system.work setup job).shared := by
  unfold work
  generalize job.thread.step setup system.shared = after
  obtain ⟨progress, shared⟩ := after
  cases progress with
  | moved thread => exact ⟨List.Perm.refl _, Shared.Passes.refl shared⟩
  | split aside rest => exact ⟨List.Perm.swap _ _ _, Shared.Passes.refl shared⟩
  | yielded thread =>
      refine ⟨?_, Shared.Passes.refl shared⟩
      -- Only the place of the thread differs, so every thread occurs equally often on both sides.
      classical
      refine List.perm_iff_count.2 fun other => ?_
      simp only [count_threads, others, Progress.threads, List.map_cons, List.count_append,
        List.count_cons, Option.toList_none, List.map_nil, List.count_nil]
      omega
  | asleep due thread =>
      refine ⟨?_, Shared.Passes.refl shared⟩
      classical
      refine List.perm_iff_count.2 fun other => ?_
      simp only [count_threads, others, Progress.threads, List.map_cons, List.map_append,
        List.count_append, List.count_cons, Option.toList_none, List.map_nil, List.count_nil]
      omega
  | stuck => exact ⟨List.Perm.refl _, Shared.Passes.refl shared⟩
  | finished response =>
      obtain ⟨sameThreads, passes⟩ :=
        finish_spec { system with shared, current := none } job response
      exact ⟨List.Perm.of_eq sameThreads, passes⟩

/-- How many turns something that is ready is away from being at work. -/
def turnsOf : Ready world → Nat
  | Ready.job _ => 1
  | Ready.resumed _ => 3
  | Ready.report _ => 1

/-- How many turns the threads are away from being at work, all in all. -/
def turns (system : System world) : Nat :=
  2 * system.starters.length + (system.ready.map turnsOf).sum + 2 * system.deferred.length +
    4 * system.sleepers.length

/-- Threads have changed their places and are closer to being at work, and time may have passed.
That happens if no thread is at work, or if the one that is has been started by another one. -/
structure Reorders (system after : System world) : Prop where
  threads : after.threads.Perm system.threads
  shared : system.shared.Passes after.shared
  turns : after.turns < system.turns
  halts : system.current = none ∨ system.starters ≠ []
  starters : (system.current = none → system.starters = []) →
    after.current = none → after.starters = []

/-- A thread that has been started waits for its turn, and its starter goes on. -/
theorem reorders_giveWay
    {job starter : Job world}
    {starters : List (Job world)}
    (isCurrent : system.current = some job)
    (isStarted : system.starters = starter :: starters) :
    system.Reorders
      { system with current := some starter, starters, ready := system.ready ++ [Ready.job job] }
    where
  threads := by
    classical
    refine List.perm_iff_count.2 fun other => ?_
    simp only [count_threads, isCurrent, isStarted, Ready.thread?, List.map_cons,
      List.filterMap_append, List.filterMap_cons, List.filterMap_nil, List.count_append,
      List.count_cons, Option.toList_some, List.map_nil, List.count_nil]
    omega
  shared := Shared.Passes.refl system.shared
  turns := by
    simp only [turns, turnsOf, isStarted, List.length_cons, List.map_append, List.map_cons,
      List.map_nil, List.sum_append, List.sum_cons, List.sum_nil]
    omega
  halts := Or.inr (isStarted ▸ List.cons_ne_nil starter starters)
  starters := fun _ isNone => nomatch isNone

/-- The thread at work takes a step, or it waits for its turn and its starter goes on. -/
theorem proceed_cases
    {setup : Setup world}
    {job : Job world}
    (isCurrent : system.current = some job) :
    (system.proceed setup job = system.work setup job ∧
        (system.starters = [] ∨ job.thread.startsAtOnce = true)) ∨
      system.Reorders (system.proceed setup job) := by
  unfold proceed
  split
  next noStarters => exact Or.inl ⟨rfl, Or.inl noStarters⟩
  next isStarted =>
    split
    next startsAtOnce => exact Or.inl ⟨rfl, Or.inr startsAtOnce⟩
    next => exact Or.inr (reorders_giveWay isCurrent isStarted)

/-- Threads that are woken are ready. -/
theorem filterMap_map_wakened (sleepers : List (Sleeper world)) :
    (sleepers.map wakened).filterMap Ready.thread? =
      sleepers.map fun sleeper => sleeper.job.thread := by
  induction sleepers with
  | nil => rfl
  | cons sleeper sleepers inductionHypothesis =>
      have isReady : (wakened sleeper).thread? = some sleeper.job.thread := by
        unfold wakened
        split <;> rfl
      rw [List.map_cons, List.filterMap_cons, isReady, inductionHypothesis]
      rfl

/-- Waking threads changes their order at most. -/
theorem threads_wake (nothingReady : system.ready = []) (due : Nat) :
    (system.wake due).threads.Perm system.threads := by
  classical
  refine List.perm_iff_count.2 fun other => ?_
  have parted := ((List.filter_append_perm (fun sleeper => decide (sleeper.due ≤ due))
    system.sleepers).map fun sleeper => sleeper.job.thread).count_eq other
  rw [List.map_append, List.count_append] at parted
  unfold wake
  rw [List.partition_eq_filter_filter]
  simp only [count_threads, filterMap_map_wakened, nothingReady, List.filterMap_nil,
    List.count_nil, Function.comp_def]
  omega

/-- An entry of the log leaves the threads in their places. -/
theorem Reorders.logFault
    {after : System world}
    (reorders : system.Reorders after)
    (response : Http.Response)
    (entry : LogEntry) :
    system.Reorders (after.logFault response entry) where
  threads := (List.Perm.of_eq (threads_logFault response entry)).trans reorders.threads
  shared := reorders.shared.trans (passes_logFault response entry)
  turns := by
    unfold System.logFault
    split <;> exact reorders.turns
  halts := reorders.halts
  starters := by
    unfold System.logFault
    split <;> exact reorders.starters

/-- Threads that are woken are closer to being at work. -/
theorem sum_turnsOf_wakened (sleepers : List (Sleeper world)) :
    ((sleepers.map wakened).map turnsOf).sum ≤ 3 * sleepers.length := by
  induction sleepers with
  | nil => exact Nat.le_refl 0
  | cons sleeper sleepers inductionHypothesis =>
      have atMost : turnsOf (wakened sleeper) ≤ 3 := by
        unfold wakened
        split <;> simp [turnsOf]
      simp only [List.map_cons, List.sum_cons, List.length_cons]
      omega

/-- When the earliest of the threads that sleep wake, the threads are closer to being at work. -/
theorem turns_wake
    {due : Nat}
    (nothingReady : system.ready = [])
    (isDue : earliest? system.sleepers = some due) :
    (system.wake due).turns < system.turns := by
  obtain ⟨sleeper, isAsleep, rfl⟩ := List.mem_map.1 (List.min?_mem isDue)
  let isAwake (other : Sleeper world) : Bool := other.due ≤ sleeper.due
  have parted := (List.filter_append_perm isAwake system.sleepers).length_eq
  have someAwake : 0 < (system.sleepers.filter isAwake).length :=
    List.length_pos_of_mem (List.mem_filter.2 ⟨isAsleep, by simp [isAwake]⟩)
  have fewer := sum_turnsOf_wakened (system.sleepers.filter isAwake)
  rw [List.length_append] at parted
  unfold wake
  rw [List.partition_eq_filter_filter]
  simp only [turns, nothingReady, List.map_nil, List.sum_nil]
  dsimp only [isAwake, Function.comp_def] at *
  omega

/-! Each way in which no thread is at work only changes places. -/

/-- The thread that is ready first is taken up. -/
theorem reorders_takeUp
    {job : Job world}
    {rest : List (Ready world)}
    (isIdle : system.current = none)
    (isReady : system.ready = Ready.job job :: rest) :
    system.Reorders { system with current := some job, ready := rest } where
  threads := by
    classical
    refine List.perm_iff_count.2 fun other => ?_
    simp only [count_threads, isIdle, isReady, Ready.thread?, List.filterMap_cons, List.map_cons,
      List.count_cons, Option.toList_some, Option.toList_none, List.map_nil, List.count_nil]
    omega
  shared := Shared.Passes.refl system.shared
  turns := by
    simp only [turns, turnsOf, isReady, List.map_cons, List.sum_cons]
    omega
  halts := Or.inl isIdle
  starters := fun _ isNone => nomatch isNone

/-- A thread that has been woken up is put off until nothing else is ready. -/
theorem reorders_putOff
    {job : Job world}
    {rest : List (Ready world)}
    (isIdle : system.current = none)
    (isReady : system.ready = Ready.resumed job :: rest) :
    system.Reorders { system with ready := rest, deferred := job :: system.deferred } where
  threads := by
    classical
    refine List.perm_iff_count.2 fun other => ?_
    simp only [count_threads, isReady, Ready.thread?, List.filterMap_cons, List.map_cons,
      List.count_cons]
    omega
  shared := Shared.Passes.refl system.shared
  turns := by
    simp only [turns, turnsOf, isReady, List.map_cons, List.sum_cons, List.length_cons]
    omega
  halts := Or.inl isIdle
  starters := fun noStarters isNone => noStarters isNone

/-- The response of a detached thread is looked at. -/
theorem reorders_report
    {response : Http.Response}
    {rest : List (Ready world)}
    (isIdle : system.current = none)
    (isReady : system.ready = Ready.report response :: rest) :
    system.Reorders ({ system with ready := rest }.report response) := by
  have dropped : system.Reorders { system with ready := rest } := by
    constructor
    case threads =>
      simp only [threads, others, isReady, Ready.thread?, List.filterMap_cons]
      exact List.Perm.refl _
    case shared => exact Shared.Passes.refl system.shared
    case turns =>
      simp only [turns, turnsOf, isReady, List.map_cons, List.sum_cons]
      omega
    case halts => exact Or.inl isIdle
    case starters => exact fun noStarters isNone => noStarters isNone
  exact dropped.logFault response _

/-- The threads that sleep the shortest are woken up when nothing is ready. -/
theorem reorders_wake
    {due : Nat}
    (isIdle : system.current = none)
    (isReady : system.ready = [])
    (isDue : earliest? system.sleepers = some due) :
    system.Reorders (system.wake due) where
  threads := threads_wake isReady due
  shared := ⟨due, system.shared.journal, rfl⟩
  turns := turns_wake isReady isDue
  halts := Or.inl isIdle
  starters := fun noStarters isNone => noStarters isNone

/-- The threads that were put off are ready again when nothing else is. -/
theorem reorders_takeBack
    (isIdle : system.current = none)
    (isReady : system.ready = [])
    (isDeferred : system.deferred ≠ []) :
    system.Reorders { system with ready := system.deferred.map Ready.job, deferred := [] } where
  threads := by
    refine List.Perm.of_eq ?_
    simp [threads, others, isReady, Ready.thread?, List.filterMap_map, Function.comp_def]
  shared := Shared.Passes.refl system.shared
  turns := by
    have someDeferred : 0 < system.deferred.length := List.length_pos_iff.2 isDeferred
    have oneEach :
        ((system.deferred.map Ready.job).map turnsOf).sum = system.deferred.length := by
      simp [Function.comp_def, turnsOf, List.map_const']
    simp only [turns, isReady, oneEach, List.map_nil, List.sum_nil, List.length_nil]
    omega
  halts := Or.inl isIdle
  starters := fun noStarters isNone => noStarters isNone

/-- A step of a system is a step of the thread at work, or it changes the places of the threads. -/
theorem step?_cases
    {setup : Setup world}
    {after : System world}
    (steps : system.step? setup = some after) :
    (∃ job, system.current = some job ∧ after = system.work setup job ∧
        (system.starters = [] ∨ job.thread.startsAtOnce = true)) ∨
      system.Reorders after := by
  unfold step? at steps
  split at steps
  next job isCurrent =>
    obtain rfl := Option.some.inj steps
    rcases proceed_cases isCurrent with ⟨worked, goesOn⟩ | reorders
    · exact Or.inl ⟨job, isCurrent, worked, goesOn⟩
    · exact Or.inr reorders
  next isIdle isReady =>
    obtain rfl := Option.some.inj steps
    exact Or.inr (reorders_takeUp isIdle isReady)
  next isIdle isReady =>
    obtain rfl := Option.some.inj steps
    exact Or.inr (reorders_putOff isIdle isReady)
  next isIdle isReady =>
    obtain rfl := Option.some.inj steps
    exact Or.inr (reorders_report isIdle isReady)
  next isIdle isReady _ isDue =>
    obtain rfl := Option.some.inj steps
    exact Or.inr (reorders_wake isIdle isReady isDue)
  next => cases steps
  next isIdle isReady noneDue noneAsleep =>
    obtain rfl := Option.some.inj steps
    refine Or.inr (reorders_takeBack isIdle isReady fun noneDeferred => ?_)
    cases isDue : earliest? system.sleepers with
    | some due => exact noneDue due noneDeferred isDue
    | none => exact noneAsleep noneDeferred isDue

theorem places_logFault (system : System world) (response : Http.Response) (entry : LogEntry) :
    (system.logFault response entry).starters = system.starters ∧
      (system.logFault response entry).turns = system.turns := by
  unfold logFault
  split <;> exact ⟨rfl, rfl⟩

/-- Taking in the end of a thread leaves the other threads in their places. At most a response is
still to be looked at. -/
theorem places_finish (job : Job world) (response : Http.Response) :
    (system.finish job response).starters = system.starters ∧
      (system.finish job response).turns ≤ system.turns + 1 := by
  unfold finish
  split
  next =>
    unfold complete
    split
    next => exact ⟨rfl, Nat.le_succ _⟩
    next =>
      obtain ⟨starters, same⟩ := places_logFault system response _
      exact ⟨starters, Nat.le_succ_of_le (Nat.le_of_eq same)⟩
  next =>
    obtain ⟨starters, same⟩ := places_logFault system response _
    exact ⟨starters, Nat.le_succ_of_le (Nat.le_of_eq same)⟩
  next =>
    refine ⟨rfl, ?_⟩
    simp only [turns, turnsOf, List.map_append, List.map_cons, List.map_nil, List.sum_append,
      List.sum_cons, List.sum_nil]
    omega

/-- Whoever waits for the thread at work to be started has a thread at work to wait for. -/
theorem starters_work
    {setup : Setup world}
    {job : Job world}
    (goesOn : system.starters = [] ∨ job.thread.startsAtOnce = true)
    (isNone : (system.work setup job).current = none) :
    (system.work setup job).starters = [] := by
  have isFirst : (∃ next, (job.thread.step setup system.shared).1 = Progress.moved next) ∨
      (∃ aside rest, (job.thread.step setup system.shared).1 = Progress.split aside rest) ∨
      system.starters = [] := by
    rcases goesOn with noStarters | startsAtOnce
    · exact Or.inr (Or.inr noStarters)
    · rcases Thread.moved_or_split_of_startsAtOnce startsAtOnce with ⟨next, moved, _⟩ | isSplit
      · exact Or.inl ⟨next, moved⟩
      · exact Or.inr (Or.inl isSplit)
  unfold work at isNone ⊢
  generalize job.thread.step setup system.shared = after at isNone isFirst ⊢
  obtain ⟨progress, shared⟩ := after
  rcases isFirst with ⟨next, rfl⟩ | ⟨aside, rest, rfl⟩ | noStarters
  · cases isNone
  · cases isNone
  cases progress with
  | moved thread => cases isNone
  | split aside rest => cases isNone
  | yielded thread => exact noStarters
  | asleep due thread => exact noStarters
  | stuck => exact noStarters
  | finished response => exact (places_finish job response).1.trans noStarters

/-- No thread waits for the thread at work to be started if none is at work. -/
def StartersWait (system : System world) : Prop := system.current = none → system.starters = []

/-- Whoever waits for the thread at work to be started has one to wait for, after a step too. -/
theorem StartersWait.step?
    {setup : Setup world}
    {after : System world}
    (startersWait : system.StartersWait)
    (steps : system.step? setup = some after) :
    after.StartersWait := by
  rcases step?_cases steps with ⟨job, _, rfl, goesOn⟩ | reorders
  · exact starters_work goesOn
  · exact reorders.starters startersWait

end System

/-! ## Fleets that go along -/

namespace Fleet

variable {setup : Setup world} {fleet : Fleet world} {system : System world}

/-- A fleet goes along with a system: it has the same threads, and they share the same. -/
structure GoesAlong (fleet : Fleet world) (system : System world) : Prop where
  shared : fleet.shared = system.shared
  threads : (fleet.runners.map Runner.thread).Perm system.threads

/-- One of the threads of a fleet can be told from the others. -/
theorem exists_runner
    {thread : Thread world}
    {rest : List (Thread world)}
    (threads : (fleet.runners.map Runner.thread).Perm (thread :: rest)) :
    ∃ runner others, fleet.runners.Perm (runner :: others) ∧ runner.thread = thread ∧
      (others.map Runner.thread).Perm rest := by
  obtain ⟨runner, present, isIt⟩ := List.mem_map.1 (threads.mem_iff.2 List.mem_cons_self)
  obtain ⟨before, behind, parts⟩ := List.append_of_mem present
  have isRunning : fleet.runners.Perm (runner :: (before ++ behind)) := parts ▸ List.perm_middle
  refine ⟨runner, before ++ behind, isRunning, isIt, ?_⟩
  have sameThreads := (isRunning.map Runner.thread).symm.trans threads
  rw [List.map_cons, isIt] at sameThreads
  exact sameThreads.cons_inv

/-- A thread of a fleet that takes a step is replaced by the threads that are left of it. -/
theorem work_spec
    (setup : Setup world)
    (fleet : Fleet world)
    (runner : Runner world)
    (others : List (Runner world)) :
    (fleet.work setup runner others).runners.map Runner.thread =
        (runner.thread.step setup fleet.shared).1.threads ++ others.map Runner.thread ∧
      (fleet.work setup runner others).shared = (runner.thread.step setup fleet.shared).2 :=
  ⟨by simp [work, replace], rfl⟩

/-- A fleet that goes along with a system can still do so after a step of the system. -/
theorem GoesAlong.step?
    {after : System world}
    (along : fleet.GoesAlong system)
    (steps : system.step? setup = some after) :
    ∃ next, Relation.ReflTransGen (Move setup) fleet next ∧ next.GoesAlong after := by
  rcases System.step?_cases steps with ⟨job, isCurrent, rfl, _⟩ | reorders
  · have split : system.threads = job.thread :: system.others := by
      rw [System.threads, isCurrent]
      rfl
    obtain ⟨runner, others, isRunning, isIt, rest⟩ := exists_runner (split ▸ along.threads)
    obtain ⟨left, passes⟩ := System.work_spec setup system job
    obtain ⟨leftInFleet, sharedInFleet⟩ := work_spec setup fleet runner others
    rw [isIt, along.shared] at leftInFleet sharedInFleet
    have same : (system.work setup job).shared.pool.accounts =
        (fleet.work setup runner others).shared.pool.accounts := by
      rw [passes.pool_eq, sharedInFleet]
    have worked : Relation.ReflTransGen (Move setup) fleet (fleet.work setup runner others) :=
      Relation.ReflTransGen.single (Move.work isRunning)
    refine ⟨_, worked.tail (Move.disturb same), rfl, ?_⟩
    change ((fleet.work setup runner others).runners.map Runner.thread).Perm _
    rw [leftInFleet]
    exact (rest.append_left _).trans left.symm
  · have same : after.shared.pool.accounts = fleet.shared.pool.accounts := by
      rw [reorders.shared.pool_eq, along.shared]
    refine ⟨_, Relation.ReflTransGen.single (Move.disturb same), rfl, ?_⟩
    exact along.threads.trans reorders.threads.symm

/-- A fleet that goes along with a system can do so for any number of steps. -/
theorem GoesAlong.run
    (along : fleet.GoesAlong system)
    (fuel : Nat) :
    ∃ last, Relation.ReflTransGen (Move setup) fleet last ∧
      last.GoesAlong (system.run setup fuel) := by
  induction fuel generalizing fleet system with
  | zero => exact ⟨fleet, Relation.ReflTransGen.refl, along⟩
  | succ fuel inductionHypothesis =>
      unfold System.run
      split
      next after steps =>
        obtain ⟨next, moved, alongNext⟩ := along.step? steps
        obtain ⟨last, run, alongLast⟩ := inductionHypothesis alongNext
        exact ⟨last, moved.trans run, alongLast⟩
      next => exact ⟨fleet, Relation.ReflTransGen.refl, along⟩

end Fleet

/-- While a request is answered by any chain, there are never more connections in use than the pool
has, and they are all back whenever no thread is inside a query. -/
theorem System.held_le_and_all_released_of_run
    {setup : Setup world}
    {line : RequestLine}
    {scope : Scope}
    {chain : Chain world}
    {shared : Shared world}
    {capacity : Nat}
    (unused : shared.pool.accounts = { capacity, held := 0, acquired := 0, released := 0 })
    (fuel : Nat) :
    let start : System world :=
      { line, shared, current := some { role := Role.main, thread := { chain, scope } } }
    let last := start.run setup fuel
    last.shared.pool.held ≤ last.shared.pool.capacity ∧
      ((∀ thread ∈ last.threads, thread.isInQuery = false) →
        last.shared.pool.acquired = last.shared.pool.released ∧ last.shared.pool.held = 0) := by
  intro start last
  have arrived : Relation.ReflTransGen (Fleet.Move setup) { shared }
      { shared, runners := [{ thread := { chain, scope } }] } :=
    Relation.ReflTransGen.single (Fleet.Move.arrive { shared } chain scope)
  have along : Fleet.GoesAlong { shared, runners := [{ thread := { chain, scope } }] } start :=
    ⟨rfl, List.Perm.refl _⟩
  obtain ⟨fleet, run, alongLast⟩ := along.run fuel
  have balanced := Fleet.IsBalanced.of_run unused (arrived.trans run)
  have sameShared : fleet.shared = last.shared := alongLast.shared
  refine ⟨sameShared ▸ balanced.bounded, fun outside => sameShared ▸ balanced.all_released ?_⟩
  intro runner present
  exact outside runner.thread (alongLast.threads.mem_iff.1 (List.mem_map_of_mem present))

end Serve

end Screencast
