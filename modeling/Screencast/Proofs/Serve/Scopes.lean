import Screencast.Proofs.Serve.Alone
import Screencast.Proofs.Serve.Halting
import Screencast.Proofs.Serve.Turn

/-!
# Who can be cancelled

The thread of a request stays in the scope of the request. What it detaches outlives the request, so
nobody cancels it, and the same is true of what is detached from there. This holds whatever happens,
even if the request is dropped.
-/

namespace Screencast

namespace Serve

variable {world : Type} {setup : Setup world}

/-- The threads that are left after a step are in a scope, and what was detached outlives it. -/
def Progress.IsWithin (scope : Scope) : Progress world → Prop
  | moved thread => thread.scope = scope
  | split aside rest => aside.scope = scope.detached ∧ rest.scope = scope
  | yielded thread => thread.scope = scope
  | asleep _ thread => thread.scope = scope
  | stuck => True
  | finished _ => True

/-- If one thread is left, its scope is what counts. -/
theorem Progress.isWithin_of_threads_eq
    {progress : Progress world}
    {left : Thread world}
    {scope : Scope}
    (isLeft : progress.threads = [left])
    (isWithin : left.scope = scope) :
    progress.IsWithin scope := by
  subst isWithin
  cases progress with
  | moved thread => exact congrArg Thread.scope (List.singleton_inj.1 isLeft)
  | yielded thread => exact congrArg Thread.scope (List.singleton_inj.1 isLeft)
  | asleep due thread => exact congrArg Thread.scope (List.singleton_inj.1 isLeft)
  | split aside rest => cases isLeft
  | stuck => cases isLeft
  | finished response => cases isLeft

/-- A thread stays in its scope. -/
theorem Thread.isWithin_step
    (setup : Setup world)
    (thread : Thread world)
    (shared : Shared world) :
    (thread.step setup shared).1.IsWithin thread.scope := by
  obtain ⟨events, _, turn⟩ := thread.takesTurn_step setup shared
  generalize (thread.step setup shared).1 = progress at turn
  cases turn with
  | finished atEnd => exact trivial
  | lookUp atSession named => rfl
  | took takes left => exact Progress.isWithin_of_threads_eq left rfl
  | answered atQuery only left => exact Progress.isWithin_of_threads_eq left rfl
  | within atQuery only left => exact Progress.isWithin_of_threads_eq left rfl
  | waits atTask left => exact Progress.isWithin_of_threads_eq left rfl
  | continues isSettled => rfl
  | split atDetach => exact ⟨rfl, rfl⟩
  | stuck => exact trivial

/-- The thread of a request is in the scope of the request, and a thread that was detached is
cancelled by nobody. -/
structure Job.IsWithin (scope : Scope) (job : Job world) : Prop where
  main : job.role = Role.main → job.thread.scope = scope
  detached : job.role ≠ Role.main → job.thread.scope.cancelled = none

@[simp] theorem Role.resumed_eq_main_iff (role : Role) :
    System.Role.resumed role = Role.main ↔ role = Role.main := by
  cases role <;> simp [System.Role.resumed]

namespace System

/-- Something holds of all threads of a system. -/
structure Each (holds : Job world → Prop) (system : System world) : Prop where
  current : ∀ job, system.current = some job → holds job
  starters : ∀ job ∈ system.starters, holds job
  ready : ∀ entry ∈ system.ready, ∀ job, entry.job? = some job → holds job
  deferred : ∀ job ∈ system.deferred, holds job
  sleepers : ∀ sleeper ∈ system.sleepers, holds sleeper.job

variable {scope : Scope} {job : Job world} {system after : System world}

theorem job?_wakened (sleeper : Sleeper world) : (wakened sleeper).job? = some sleeper.job := by
  unfold wakened
  split <;> rfl

/-- An entry of the log leaves the threads alone. -/
theorem Each.logFault
    {holds : Job world → Prop}
    (each : system.Each holds)
    (response : Http.Response)
    (entry : LogEntry) :
    (system.logFault response entry).Each holds := by
  unfold System.logFault
  split
  · exact { each with }
  · exact each

/-- What the end of a thread leads to leaves the threads alone. -/
theorem Each.finish
    {holds : Job world → Prop}
    (each : system.Each holds)
    (worker : Job world)
    (response : Http.Response) :
    (system.finish worker response).Each holds := by
  unfold System.finish
  split
  · unfold System.complete
    split
    · exact { each with }
    · exact { each.logFault response _ with }
  · exact each.logFault response _
  · refine { each with ready := fun entry present => ?_ }
    rcases List.mem_append.1 present with isReady | isReport
    · exact each.ready entry isReady
    · obtain rfl := List.mem_singleton.1 isReport
      rintro _ ⟨⟩

/-- The threads stay where they belong while one of them takes a step. -/
theorem Each.work
    (each : system.Each (Job.IsWithin scope))
    (isWithin : job.IsWithin scope) :
    (system.work setup job).Each (Job.IsWithin scope) := by
  have stays := job.thread.isWithin_step setup system.shared
  -- Whatever is left of the thread in its own scope belongs where the thread did.
  have onward {thread : Thread world} (sameScope : thread.scope = job.thread.scope) :
      Job.IsWithin scope { job with thread } :=
    ⟨fun isMain => sameScope.trans (isWithin.main isMain),
      fun isDetached => (congrArg Scope.cancelled sameScope).trans (isWithin.detached isDetached)⟩
  have stopped {thread : Thread world} (sameScope : thread.scope = job.thread.scope) :
      Job.IsWithin scope { role := Role.resumed job.role, thread } :=
    ⟨fun isMain => (onward sameScope).main ((Role.resumed_eq_main_iff _).1 isMain),
      fun isDetached => (onward sameScope).detached
        fun isMain => isDetached ((Role.resumed_eq_main_iff _).2 isMain)⟩
  unfold System.work
  generalize job.thread.step setup system.shared = after at stays
  obtain ⟨progress, shared⟩ := after
  cases progress with
  | moved thread =>
      refine { each with current := ?_ }
      rintro _ ⟨⟩
      exact onward stays
  | split aside rest =>
      refine { each with current := ?_, starters := ?_ }
      · rintro _ ⟨⟩
        exact ⟨fun isMain => (nomatch isMain), fun _ => congrArg Scope.cancelled stays.1⟩
      · exact List.forall_mem_cons.2 ⟨onward stays.2, each.starters⟩
  | yielded thread =>
      exact { each with
        current := fun _ isSome => (nomatch isSome)
        deferred := List.forall_mem_cons.2 ⟨stopped stays, each.deferred⟩ }
  | asleep due thread =>
      refine { each with
        current := fun _ isSome => (nomatch isSome)
        sleepers := fun sleeper present => ?_ }
      rcases List.mem_append.1 present with isAsleep | isNew
      · exact each.sleepers sleeper isAsleep
      · obtain rfl := List.mem_singleton.1 isNew
        exact stopped stays
  | stuck => exact { each with current := fun _ isSome => (nomatch isSome) }
  | finished response =>
      have idle : Each (Job.IsWithin scope) { system with shared, current := none } :=
        { each with current := fun _ isSome => (nomatch isSome) }
      exact idle.finish job response

/-- The threads stay where they belong while one of them goes on. -/
theorem Each.proceed
    (each : system.Each (Job.IsWithin scope))
    (isCurrent : system.current = some job) :
    (system.proceed setup job).Each (Job.IsWithin scope) := by
  have isWithin := each.current job isCurrent
  unfold System.proceed
  split
  · exact each.work isWithin
  next starter starters isStarted =>
    split
    · exact each.work isWithin
    · have belong := each.starters
      rw [isStarted] at belong
      refine { each with current := ?_, starters := ?_, ready := fun entry present => ?_ }
      · rintro _ ⟨⟩
        exact belong starter List.mem_cons_self
      · exact fun other present => belong other (List.mem_cons_of_mem starter present)
      · rcases List.mem_append.1 present with isReady | isNew
        · exact each.ready entry isReady
        · obtain rfl := List.mem_singleton.1 isNew
          rintro _ ⟨⟩
          exact isWithin

/-- Threads that are woken are still there. -/
theorem Each.wake
    {holds : Job world → Prop}
    (each : system.Each holds)
    (due : Nat) :
    (system.wake due).Each holds := by
  unfold System.wake
  rw [List.partition_eq_filter_filter]
  refine { each with ready := fun entry present => ?_, sleepers := fun sleeper present => ?_ }
  · obtain ⟨sleeper, isAwake, rfl⟩ := List.mem_map.1 present
    intro other isIts
    obtain rfl := Option.some.inj ((job?_wakened sleeper).symm.trans isIts)
    exact each.sleepers sleeper (List.mem_filter.1 isAwake).1
  · exact each.sleepers sleeper (List.mem_filter.1 present).1

/-- The threads stay where they belong while the system takes a step. -/
theorem Each.step
    (each : system.Each (Job.IsWithin scope))
    (steps : system.step? setup = some after) :
    after.Each (Job.IsWithin scope) := by
  unfold step? at steps
  split at steps
  next worker isCurrent =>
    obtain rfl := Option.some.inj steps
    exact each.proceed isCurrent
  next other rest nobody isReady =>
    obtain rfl := Option.some.inj steps
    obtain ⟨first, others⟩ := List.forall_mem_cons.1 (isReady ▸ each.ready)
    refine { each with current := ?_, ready := others }
    rintro _ ⟨⟩
    exact first other rfl
  next other rest nobody isReady =>
    obtain rfl := Option.some.inj steps
    obtain ⟨first, others⟩ := List.forall_mem_cons.1 (isReady ▸ each.ready)
    exact { each with
      ready := others
      deferred := List.forall_mem_cons.2 ⟨first other rfl, each.deferred⟩ }
  next response rest nobody isReady =>
    obtain rfl := Option.some.inj steps
    obtain ⟨_, others⟩ := List.forall_mem_cons.1 (isReady ▸ each.ready)
    have remaining : Each (Job.IsWithin scope) { system with ready := rest } :=
      { each with ready := others }
    exact remaining.logFault response _
  next first nobody noneReady noneDeferred isFirst =>
    obtain rfl := Option.some.inj steps
    exact each.wake first
  next => cases steps
  next nobody noneReady noneDue noneAsleep =>
    obtain rfl := Option.some.inj steps
    refine { each with ready := fun entry present => ?_, deferred := List.forall_mem_nil _ }
    obtain ⟨other, isDeferred, rfl⟩ := List.mem_map.1 present
    rintro _ ⟨⟩
    exact each.deferred other isDeferred

/-- The threads stay where they belong when another one is given up. -/
theorem Each.givesUp
    {holds : Job world → Prop}
    (each : system.Each holds)
    (givesUp : GivesUp job system after) :
    after.Each holds := by
  cases givesUp with
  | @ready entry before behind isReady isIts =>
      have stay : before ++ behind ⊆ system.ready :=
        isReady ▸ ((List.sublist_cons_self entry behind).append_left before).subset
      exact { each with ready := fun other present => each.ready other (stay present) }
  | @deferred before behind isDeferred =>
      have stay : before ++ behind ⊆ system.deferred :=
        isDeferred ▸ ((List.sublist_cons_self job behind).append_left before).subset
      exact { each with deferred := fun other present => each.deferred other (stay present) }
  | @asleep sleeper before behind isAsleep isIts =>
      have stay : before ++ behind ⊆ system.sleepers :=
        isAsleep ▸ ((List.sublist_cons_self sleeper behind).append_left before).subset
      exact { each with sleepers := fun other present => each.sleepers other (stay present) }

/-- The threads stay where they belong, whatever happens. -/
theorem Each.move
    {mayDrop : Prop}
    (each : system.Each (Job.IsWithin scope))
    (move : Move setup mayDrop system after) :
    after.Each (Job.IsWithin scope) := by
  cases move with
  | step steps => exact each.step steps
  | drop may isMain givesUp => exact each.givesUp givesUp

/-- At any time the thread of a request is in the scope of the request, and the threads that were
detached are cancelled by nobody. -/
theorem each_isWithin_of_moves
    {mayDrop : Prop}
    {line : RequestLine}
    {chain : Chain world}
    {shared : Shared world}
    (moves : Relation.ReflTransGen (Move setup mayDrop) (start line scope chain shared) system) :
    system.Each (Job.IsWithin scope) := by
  induction moves with
  | refl =>
      refine ⟨?_, List.forall_mem_nil _, List.forall_mem_nil _, List.forall_mem_nil _,
        List.forall_mem_nil _⟩
      rintro job ⟨⟩
      exact ⟨fun _ => rfl, fun isDetached => absurd rfl isDetached⟩
  | tail _ move inductionHypothesis => exact inductionHypothesis.move move

end System

end Serve

end Screencast
