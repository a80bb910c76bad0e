import Screencast.Proofs.Serve.Alone
import Screencast.Proofs.Serve.Halting

/-!
# Waiting for a turn

A thread that has stopped in between sleeps until a point in time, is woken, lets the others go on,
and is ready. It cannot be lost on the way: every move leaves it where it is or brings it closer to
being at work, and time does not pass while it could go on. So it is certain to go on when its
time has come.
-/

namespace Screencast

namespace Serve

variable {world : Type} {setup : Setup world}

/-! ## The clock -/

namespace Shared

@[simp] theorem clock_note (shared : Shared world) (event : Event) :
    (shared.note event).clock = shared.clock := rfl

@[simp] theorem clock_injectPlanned (shared : Shared world) :
    shared.injectPlanned.clock = shared.clock := by
  unfold injectPlanned
  split <;> rfl

end Shared

namespace Thread

/-- The clock stands still while a thread takes a step. -/
theorem clock_step
    (setup : Setup world)
    (thread : Thread world)
    (shared : Shared world) :
    (thread.step setup shared).2.clock = shared.clock := by
  obtain ⟨chain, scope, stage, cleanups⟩ := thread
  cases chain with
  | respond terminal => simp [step, close]
  | session owed next =>
      simp only [step]
      split <;> rfl
  | body owed next =>
      simp only [step]
      split <;> rfl
  | query owed issued next =>
      simp only [step]
      split
      · rfl
      · simp only [acquire]
        split
        · simp
        · simp
        · split <;> simp
      · split <;> rfl
      · rfl
      · rfl
      · rfl
  | task owed call next =>
      simp only [step]
      split
      · rfl
      · simp only [await]
        split
        · rfl
        · split <;> rfl
  | detach aside rest => rfl
  | ensure guarded cleanup => rfl
  | note event rest => rfl
  | fresh next => rfl
  | observe next => rfl

/-- The clock stands still while a thread is given up. -/
theorem clock_abandon
    (thread : Thread world)
    (shared : Shared world) :
    (thread.abandon shared).clock = shared.clock := by
  unfold abandon
  rw [Shared.foldl_note]
  split <;> rfl

end Thread

/-! ## Places -/

namespace System

/-- A thread sleeps until a point in time, or this time has come and it waits for its turn. -/
inductive Holds (due : Nat) (job : Job world) (system : System world) : Prop
  | asleep (isAsleep : { due, job } ∈ system.sleepers)
  | resumed (isReady : Ready.resumed job ∈ system.ready) (isDue : system.shared.clock = due)
  | deferred (isDeferred : job ∈ system.deferred) (isDue : system.shared.clock = due)
  | ready (isReady : Ready.job job ∈ system.ready) (isDue : system.shared.clock = due)

/-- Nothing that waits is lost, and time does not pass. -/
structure Keeps (system after : System world) : Prop where
  clock : after.shared.clock = system.shared.clock
  ready : system.ready ⊆ after.ready
  deferred : system.deferred ⊆ after.deferred
  sleepers : system.sleepers ⊆ after.sleepers

variable {due : Nat} {job : Job world} {system after : System world}

/-- A thread that waits for its turn still does if nothing is lost. -/
theorem Holds.keeps
    (holds : system.Holds due job)
    (keeps : system.Keeps after) :
    after.Holds due job := by
  cases holds with
  | asleep isAsleep => exact Holds.asleep (keeps.sleepers isAsleep)
  | resumed isReady isDue => exact Holds.resumed (keeps.ready isReady) (keeps.clock.trans isDue)
  | deferred isDeferred isDue =>
      exact Holds.deferred (keeps.deferred isDeferred) (keeps.clock.trans isDue)
  | ready isReady isDue => exact Holds.ready (keeps.ready isReady) (keeps.clock.trans isDue)

/-- An entry of the log changes nothing else. -/
theorem keeps_logFault
    (system : System world)
    (response : Http.Response)
    (entry : LogEntry) :
    system.Keeps (system.logFault response entry) := by
  unfold logFault
  split <;> exact ⟨rfl, List.Subset.refl _, List.Subset.refl _, List.Subset.refl _⟩

/-- What the end of a thread leads to does not change what waits. -/
theorem keeps_finish
    (system : System world)
    (worker : Job world)
    (response : Http.Response) :
    system.Keeps (system.finish worker response) := by
  unfold finish
  split
  · unfold complete
    split
    · exact ⟨rfl, List.Subset.refl _, List.Subset.refl _, List.Subset.refl _⟩
    · obtain ⟨clock, ready, deferred, sleepers⟩ := keeps_logFault system response
        (completedEntry system.line response)
      exact ⟨clock, ready, deferred, sleepers⟩
  · exact keeps_logFault system response _
  · exact ⟨rfl, List.subset_append_left _ _, List.Subset.refl _, List.Subset.refl _⟩

/-- The thread at work does not change what waits. -/
theorem keeps_work
    (setup : Setup world)
    (system : System world)
    (worker : Job world) :
    system.Keeps (system.work setup worker) := by
  have clock := worker.thread.clock_step setup system.shared
  unfold work
  generalize worker.thread.step setup system.shared = after at clock
  obtain ⟨progress, shared⟩ := after
  cases progress with
  | moved thread =>
      exact ⟨clock, List.Subset.refl _, List.Subset.refl _, List.Subset.refl _⟩
  | split aside rest =>
      exact ⟨clock, List.Subset.refl _, List.Subset.refl _, List.Subset.refl _⟩
  | yielded thread =>
      exact ⟨clock, List.Subset.refl _, List.subset_cons_self _ _, List.Subset.refl _⟩
  | asleep due thread =>
      exact ⟨clock, List.Subset.refl _, List.Subset.refl _, List.subset_append_left _ _⟩
  | stuck => exact ⟨clock, List.Subset.refl _, List.Subset.refl _, List.Subset.refl _⟩
  | finished response =>
      obtain ⟨sameClock, ready, deferred, sleepers⟩ :=
        keeps_finish { system with shared, current := none } worker response
      exact ⟨sameClock.trans clock, ready, deferred, sleepers⟩

/-- Whoever goes on does not change what waits. -/
theorem keeps_proceed
    (setup : Setup world)
    (system : System world)
    (worker : Job world) :
    system.Keeps (system.proceed setup worker) := by
  unfold proceed
  split
  · exact keeps_work setup system worker
  · split
    · exact keeps_work setup system worker
    · exact ⟨rfl, List.subset_append_left _ _, List.Subset.refl _, List.Subset.refl _⟩

/-- The system takes a step while a thread waits for its turn. -/
theorem Holds.exists_step
    (holds : system.Holds due job)
    (setup : Setup world) :
    ∃ after, system.step? setup = some after := by
  refine Option.ne_none_iff_exists'.1 fun halted => ?_
  unfold step? at halted
  split at halted <;> try cases halted
  next noReady noDeferred noSleepers =>
    cases holds with
    | asleep isAsleep =>
        have isThere : due ∈ system.sleepers.map Sleeper.due := List.mem_map_of_mem isAsleep
        rw [List.min?_eq_none_iff.1 noSleepers] at isThere
        cases isThere
    | resumed isReady => simp [noReady] at isReady
    | deferred isDeferred => simp [noDeferred] at isDeferred
    | ready isReady => simp [noReady] at isReady

/-- A thread that waits for its turn still does so when something else that is ready goes on. -/
theorem Holds.of_ready_cons
    {entry : Ready world}
    {rest : List (Ready world)}
    (holds : system.Holds due job)
    (isReady : system.ready = entry :: rest) :
    Holds due job { system with ready := rest } ∨
      ((entry = Ready.job job ∨ entry = Ready.resumed job) ∧ system.shared.clock = due) := by
  cases holds with
  | asleep isAsleep => exact Or.inl (Holds.asleep isAsleep)
  | deferred isDeferred isDue => exact Or.inl (Holds.deferred isDeferred isDue)
  | resumed isThere isDue =>
      rw [isReady] at isThere
      rcases List.mem_cons.1 isThere with isNext | isLater
      · exact Or.inr ⟨Or.inr isNext.symm, isDue⟩
      · exact Or.inl (Holds.resumed isLater isDue)
  | ready isThere isDue =>
      rw [isReady] at isThere
      rcases List.mem_cons.1 isThere with isNext | isLater
      · exact Or.inr ⟨Or.inl isNext.symm, isDue⟩
      · exact Or.inl (Holds.ready isLater isDue)

/-- A thread that sleeps is woken when its time has come, and goes on sleeping before that. -/
theorem Holds.wake
    {first : Nat}
    (forTask : job.thread.stage ≠ Stage.waiting)
    (isAsleep : { due, job } ∈ system.sleepers)
    (isFirst : earliest? system.sleepers = some first) :
    (system.wake first).Holds due job := by
  have notLater : first ≤ due :=
    (List.min?_eq_some_iff.1 isFirst).2 due (List.mem_map_of_mem (f := Sleeper.due) isAsleep)
  unfold System.wake
  rw [List.partition_eq_filter_filter]
  by_cases isDue : due ≤ first
  · obtain rfl := Nat.le_antisymm isDue notLater
    have isAwake : { due, job } ∈ system.sleepers.filter fun sleeper => sleeper.due ≤ due :=
      List.mem_filter.2 ⟨isAsleep, by simp⟩
    have wakes : wakened { due, job } = Ready.resumed job := wakened_of_ne_waiting forTask
    exact Holds.resumed (wakes ▸ List.mem_map_of_mem (f := wakened) isAwake) rfl
  · exact Holds.asleep (List.mem_filter.2 ⟨isAsleep, by simpa using isDue⟩)

/-- The time of a thread has come, and it is at work. -/
structure Resumes (due : Nat) (job : Job world) (system : System world) : Prop where
  current : system.current = some job
  starters : system.starters = []
  clock : system.shared.clock = due

/-- A thread that waits for its turn still does so after a step, or it is at work when its time has
come. -/
theorem Holds.step
    (forTask : job.thread.stage ≠ Stage.waiting)
    (holds : system.Holds due job)
    (startersWait : system.StartersWait)
    (steps : system.step? setup = some after) :
    after.Holds due job ∨ after.Resumes due job := by
  unfold step? at steps
  split at steps
  next worker isCurrent =>
    obtain rfl := Option.some.inj steps
    exact Or.inl (holds.keeps (keeps_proceed setup system worker))
  next other rest nobody isReady =>
    obtain rfl := Option.some.inj steps
    rcases holds.of_ready_cons isReady with holds | ⟨isNext | isNext, isDue⟩
    · exact Or.inl (holds.keeps ⟨rfl, List.Subset.refl _, List.Subset.refl _, List.Subset.refl _⟩)
    · obtain rfl := Ready.job.inj isNext
      exact Or.inr ⟨rfl, startersWait nobody, isDue⟩
    · cases isNext
  next other rest nobody isReady =>
    obtain rfl := Option.some.inj steps
    left
    rcases holds.of_ready_cons isReady with holds | ⟨isNext | isNext, isDue⟩
    · exact holds.keeps
        ⟨rfl, List.Subset.refl _, List.subset_cons_self _ _, List.Subset.refl _⟩
    · cases isNext
    · obtain rfl := Ready.resumed.inj isNext
      exact Holds.deferred List.mem_cons_self isDue
  next response rest nobody isReady =>
    obtain rfl := Option.some.inj steps
    left
    rcases holds.of_ready_cons isReady with holds | ⟨isNext | isNext, isDue⟩
    · exact holds.keeps (keeps_logFault { system with ready := rest } response _)
    · cases isNext
    · cases isNext
  next first nobody noneReady noneDeferred isFirst =>
    obtain rfl := Option.some.inj steps
    left
    cases holds with
    | asleep isAsleep => exact Holds.wake forTask isAsleep isFirst
    | resumed isThere => simp [noneReady] at isThere
    | deferred isThere => simp [noneDeferred] at isThere
    | ready isThere => simp [noneReady] at isThere
  next => cases steps
  next nobody noneReady noneDue noneAsleep =>
    obtain rfl := Option.some.inj steps
    left
    cases holds with
    | asleep isAsleep => exact Holds.asleep isAsleep
    | resumed isThere => simp [noneReady] at isThere
    | deferred isThere isDue => exact Holds.ready (List.mem_map_of_mem isThere) isDue
    | ready isThere => simp [noneReady] at isThere

/-- A thread still waits for its turn when another one is given up. -/
theorem Holds.givesUp
    {other : Job world}
    (holds : system.Holds due job)
    (isOther : other ≠ job)
    (givesUp : GivesUp other system after) :
    after.Holds due job := by
  have clock := other.thread.clock_abandon system.shared
  cases givesUp with
  | @ready entry before behind isReady isIts =>
      have stays (own : Ready world) (isOwn : own.job? = some job) (isThere : own ∈ system.ready) :
          own ∈ before ++ behind := by
        rw [isReady] at isThere
        have isAnother : own ≠ entry := fun same =>
          isOther (Option.some.inj (isIts.symm.trans (same ▸ isOwn)))
        simpa [isAnother] using isThere
      cases holds with
      | asleep isAsleep => exact Holds.asleep isAsleep
      | deferred isDeferred isDue => exact Holds.deferred isDeferred (clock.trans isDue)
      | resumed isThere isDue => exact Holds.resumed (stays _ rfl isThere) (clock.trans isDue)
      | ready isThere isDue => exact Holds.ready (stays _ rfl isThere) (clock.trans isDue)
  | @deferred before behind isDeferred =>
      cases holds with
      | asleep isAsleep => exact Holds.asleep isAsleep
      | resumed isThere isDue => exact Holds.resumed isThere (clock.trans isDue)
      | ready isThere isDue => exact Holds.ready isThere (clock.trans isDue)
      | deferred isThere isDue =>
          rw [isDeferred] at isThere
          have stays : job ∈ before ++ behind := by simpa [isOther.symm] using isThere
          exact Holds.deferred stays (clock.trans isDue)
  | @asleep sleeper before behind isAsleep isIts =>
      cases holds with
      | deferred isDeferred isDue => exact Holds.deferred isDeferred (clock.trans isDue)
      | resumed isThere isDue => exact Holds.resumed isThere (clock.trans isDue)
      | ready isThere isDue => exact Holds.ready isThere (clock.trans isDue)
      | asleep isThere =>
          rw [isAsleep] at isThere
          have isAnother : { due, job } ≠ sleeper := by
            rintro rfl
            exact isOther isIts.symm
          have stays : { due, job } ∈ before ++ behind := by simpa [isAnother] using isThere
          exact Holds.asleep stays

theorem step?_of_starters_eq_nil
    (isCurrent : system.current = some job)
    (isItsTurn : system.starters = []) :
    system.step? setup = some (system.work setup job) := by
  simp [step?, isCurrent, proceed, isItsTurn]

/-- A thread that is at work still is when another one is given up. -/
theorem Resumes.givesUp
    {other : Job world}
    (resumes : system.Resumes due job)
    (givesUp : GivesUp other system after) :
    after.Resumes due job := by
  obtain ⟨current, starters, clock⟩ := resumes
  have sameClock := (other.thread.clock_abandon system.shared).trans clock
  cases givesUp <;> exact ⟨current, starters, sameClock⟩

/-- A thread that waits for its turn is certain to go on when its time has come, unless it is the
thread of a request that is dropped. -/
theorem Holds.isCertain
    {mayDrop : Prop}
    {goal : System world → Prop}
    (holds : system.Holds due job)
    (startersWait : system.StartersWait)
    (forTask : job.thread.stage ≠ Stage.waiting)
    (resolves : setup.Resolves)
    (spared : mayDrop → job.role ≠ Role.main)
    (reaches : ∀ later : System world, later.Resumes due job → goal (later.work setup job)) :
    IsCertain setup mayDrop goal system := by
  refine isCertain_of_until
    (fun later => later.StartersWait ∧ (later.Holds due job ∨ later.Resumes due job))
    resolves ?goesOn ?stays system ⟨startersWait, Or.inl holds⟩
  case goesOn =>
    rintro system ⟨_, holds | resumes⟩
    · obtain ⟨after, steps⟩ := holds.exists_step setup
      exact ⟨after, Move.step steps⟩
    · exact ⟨_, Move.step (step?_of_starters_eq_nil resumes.current resumes.starters)⟩
  case stays =>
    rintro system after ⟨startersWait, place⟩ move
    have startersStillWait := move.startersWait startersWait
    rcases place with holds | resumes
    · refine Or.inl ⟨startersStillWait, ?_⟩
      cases move with
      | step steps => exact holds.step forTask startersWait steps
      | drop may isMain givesUp =>
          refine Or.inl (holds.givesUp ?_ givesUp)
          rintro rfl
          exact spared may isMain
    · cases move with
      | step steps =>
          have goesOn : system.step? setup = some (system.work setup job) :=
            step?_of_starters_eq_nil resumes.current resumes.starters
          obtain rfl := Option.some.inj (goesOn.symm.trans steps)
          exact Or.inr (reaches system resumes)
      | drop may isMain givesUp =>
          exact Or.inl ⟨startersStillWait, Or.inr (resumes.givesUp givesUp)⟩

end System

end Serve

end Screencast
