import Screencast.Effect.Task
import Screencast.Proofs.Serve.Places
import Screencast.Proofs.Serve.Scopes

/-!
# Waiting for tasks

A thread that waits for a task continues with what the wait comes to, at this time, and once. The
wait is settled when it begins; until it is over, the thread waits for its turn. A thread that was
detached is cancelled by nobody, so it continues with the task's own result or with the failure that
the task has timed out.
-/

namespace Screencast

/-! ## What a wait comes to

A task that is waited for completes after some time or never, there may be a deadline, and the one
who waits may be cancelled at a point in time. What happens first decides, and there is one rule for
each of the three. A cancellation goes before what happens at the same time, and a completion before
the deadline.
-/

namespace Completion

variable {result : Type}

/-- What a wait that begins at a point in time comes to, and when. It was cancelled by the time at
which the task completes and at which the deadline passes, or the task completes no later than the
deadline and yields its own result, or it is late. -/
inductive ComesTo (completion : Completion result) (late : TaskError) (limit : Option Nat)
    (begun : Nat) (cancelled : Option Nat) : Nat → Except TaskError result → Prop
  | cancelled {moment : Nat}
      (isCancelled : cancelled = some moment)
      (byCompletion : ∀ millis own, completion = after millis own → moment ≤ begun + millis)
      (byDeadline : ∀ most, limit = some most → moment ≤ begun + most) :
      ComesTo completion late limit begun cancelled (max begun moment)
        (Except.error TaskError.cancelled)
  | completed {millis : Nat} {own : Except TaskError result}
      (completes : completion = after millis own)
      (inTime : ∀ most, limit = some most → millis ≤ most)
      (uncancelled : ∀ moment, cancelled = some moment → begun + millis < moment) :
      ComesTo completion late limit begun cancelled (begun + millis) own
  | late {most : Nat}
      (isLimit : limit = some most)
      (isLate : ∀ millis own, completion = after millis own → most < millis)
      (uncancelled : ∀ moment, cancelled = some moment → begun + most < moment) :
      ComesTo completion late limit begun cancelled (begun + most) (Except.error late)

variable {completion : Completion result} {late : TaskError} {limit cancelled : Option Nat}
  {begun time : Nat} {outcome : Except TaskError result}

/-! ## What is settled -/

/-- A cancellation that comes no later than everything else decides. -/
theorem settle_of_cancelled
    {moment : Nat}
    (byCompletion : ∀ millis own, completion = after millis own → moment ≤ millis)
    (byDeadline : ∀ most, limit = some most → moment ≤ most) :
    completion.settle late limit (some moment) =
      some (moment, Except.error TaskError.cancelled) := by
  cases completion with
  | never =>
      cases limit with
      | none => rfl
      | some most => simp [settle, byDeadline most rfl]
  | after millis own =>
      have inTime := byCompletion millis own rfl
      cases limit with
      | none => simp [settle, inTime]
      | some most => by_cases early : millis ≤ most <;> simp [settle, early, inTime, byDeadline]

/-- A cancellation that comes later than what happens first does not matter. -/
theorem settle_of_uncancelled
    {millis : Nat}
    (settled : completion.settle late limit none = some (millis, outcome))
    (uncancelled : ∀ moment, cancelled = some moment → millis < moment) :
    completion.settle late limit cancelled = some (millis, outcome) := by
  cases cancelled with
  | none => exact settled
  | some moment =>
      have isLater : ¬ moment ≤ millis := Nat.not_le.2 (uncancelled moment rfl)
      simp only [settle] at settled ⊢
      simp [settled, isLater]

/-- A completion no later than the deadline decides. -/
theorem settle_of_completed
    {millis : Nat}
    {own : Except TaskError result}
    (inTime : ∀ most, limit = some most → millis ≤ most) :
    (after millis own).settle late limit none = some (millis, own) := by
  cases limit with
  | none => rfl
  | some most => simp [settle, inTime]

/-- The deadline decides if the task completes later. -/
theorem settle_of_late
    {most : Nat}
    (isLate : ∀ millis own, completion = after millis own → most < millis) :
    completion.settle late (some most) none = some (most, Except.error late) := by
  cases completion with
  | never => rfl
  | after millis own =>
      have notInTime : ¬ millis ≤ most := Nat.not_le.2 (isLate millis own rfl)
      simp [settle, notInTime]

/-- A cancellation that is later than a point in time is later by as much as it is to come. -/
theorem lt_of_map_sub
    {millis moment : Nat}
    (uncancelled : ∀ moment, cancelled = some moment → begun + millis < moment)
    (isCancelled : cancelled.map (· - begun) = some moment) :
    millis < moment := by
  obtain ⟨instant, isInstant, rfl⟩ := Option.map_eq_some_iff.1 isCancelled
  have isLater := uncancelled instant isInstant
  omega

/-- What a wait comes to is settled when it begins. -/
theorem ComesTo.settle_eq
    (comesTo : completion.ComesTo late limit begun cancelled time outcome) :
    completion.settle late limit (cancelled.map (· - begun)) = some (time - begun, outcome) ∧
      begun ≤ time := by
  cases comesTo with
  | @cancelled moment isCancelled byCompletion byDeadline =>
      subst isCancelled
      have settled : completion.settle late limit (some (moment - begun)) =
          some (moment - begun, Except.error TaskError.cancelled) := by
        apply settle_of_cancelled
        · intro millis own completes
          have isLater := byCompletion millis own completes
          omega
        · intro most isLimit
          have isLater := byDeadline most isLimit
          omega
      have sameTime : max begun moment - begun = moment - begun := by omega
      exact ⟨sameTime ▸ settled, Nat.le_max_left begun moment⟩
  | @completed millis own completes inTime uncancelled =>
      subst completes
      rw [Nat.add_sub_cancel_left]
      exact ⟨settle_of_uncancelled (settle_of_completed inTime)
        fun _ isCancelled => lt_of_map_sub uncancelled isCancelled, Nat.le_add_right begun millis⟩
  | @late most isLimit isLate uncancelled =>
      subst isLimit
      rw [Nat.add_sub_cancel_left]
      exact ⟨settle_of_uncancelled (settle_of_late isLate)
        fun _ isCancelled => lt_of_map_sub uncancelled isCancelled, Nat.le_add_right begun most⟩

/-- A wait comes to something, unless the task never completes, there is no deadline, and nobody
cancels. -/
theorem exists_comesTo
    (happens : ¬ (completion = never ∧ limit = none ∧ cancelled = none)) :
    ∃ time outcome, completion.ComesTo late limit begun cancelled time outcome := by
  -- Whatever ends the wait, the cancellation has come by then or it has not.
  have byThen (ending : Nat) : (∃ moment, cancelled = some moment ∧ moment ≤ ending) ∨
      ∀ moment, cancelled = some moment → ending < moment := by
    cases cancelled with
    | none => exact Or.inr nofun
    | some moment => by_cases isBefore : moment ≤ ending <;> simp_all
  by_cases isLate : ∃ most, limit = some most ∧
      ∀ millis own, completion = after millis own → most < millis
  · obtain ⟨most, isLimit, isLate⟩ := isLate
    rcases byThen (begun + most) with ⟨moment, isCancelled, isBefore⟩ | uncancelled
    · refine ⟨_, _, ComesTo.cancelled isCancelled (fun millis own completes => ?_) ?_⟩
      · have later := isLate millis own completes
        omega
      · rintro other isOther
        obtain rfl := Option.some.inj (isLimit.symm.trans isOther)
        exact isBefore
    · exact ⟨_, _, ComesTo.late isLimit isLate uncancelled⟩
  · cases completion with
    | never =>
        cases limit with
        | some most => exact absurd ⟨most, rfl, nofun⟩ isLate
        | none =>
            cases cancelled with
            | none => exact absurd ⟨rfl, rfl, rfl⟩ happens
            | some moment => exact ⟨_, _, ComesTo.cancelled rfl nofun nofun⟩
    | after millis own =>
        have inTime (most : Nat) (isLimit : limit = some most) : millis ≤ most := by
          refine Nat.not_lt.1 fun isAfter => isLate ⟨most, isLimit, fun other _ same => ?_⟩
          obtain ⟨rfl, _⟩ := Completion.after.inj same
          exact isAfter
        rcases byThen (begun + millis) with ⟨moment, isCancelled, isBefore⟩ | uncancelled
        · refine ⟨_, _, ComesTo.cancelled isCancelled ?_ fun most isLimit => ?_⟩
          · rintro _ _ ⟨⟩
            exact isBefore
          · have inTime := inTime most isLimit
            omega
        · exact ⟨_, _, ComesTo.completed rfl inTime uncancelled⟩

/-- A wait comes to one thing at one time. -/
theorem ComesTo.unique
    {otherTime : Nat}
    {otherOutcome : Except TaskError result}
    (comesTo : completion.ComesTo late limit begun cancelled time outcome)
    (other : completion.ComesTo late limit begun cancelled otherTime otherOutcome) :
    time = otherTime ∧ outcome = otherOutcome := by
  obtain ⟨settled, isLater⟩ := comesTo.settle_eq
  obtain ⟨otherSettled, otherIsLater⟩ := other.settle_eq
  obtain ⟨sameMillis, sameOutcome⟩ :=
    Prod.mk.inj (Option.some.inj (settled.symm.trans otherSettled))
  exact ⟨by omega, sameOutcome⟩

/-- A wait comes to nothing exactly if the task never completes, there is no deadline, and nobody
cancels. -/
theorem not_exists_comesTo_iff :
    (¬ ∃ time outcome, completion.ComesTo late limit begun cancelled time outcome) ↔
      completion = never ∧ limit = none ∧ cancelled = none := by
  constructor
  · exact fun nothing => Classical.not_not.1 fun happens => nothing (exists_comesTo happens)
  · rintro ⟨rfl, rfl, rfl⟩ ⟨time, outcome, comesTo⟩
    cases comesTo.settle_eq.1

end Completion

namespace Serve

variable {world : Type} {setup : Setup world}

/-! ## What a wait leads to -/

namespace Thread

variable {result : Type} {thread : Thread world} {shared : Shared world} {call : Task world result}
  {next : Except TaskError result → Chain world}

/-- A wait is settled by how the task would complete, even if it is not performed because the thread
was cancelled before. -/
theorem exists_await_eq
    (setup : Setup world)
    (thread : Thread world)
    (shared : Shared world)
    (call : Task world result)
    (next : Except TaskError result → Chain world) :
    ∃ left, thread.await setup shared call next =
      match (call.perform shared.world).1.settle call.late setup.taskTimeoutMillis
          (thread.scope.cancelled.map (· - shared.clock)) with
      | none => (Progress.stuck, { shared with world := left })
      | some (millis, outcome) =>
        let thread := { thread with stage := Stage.settled outcome next }
        if millis = 0 then (Progress.yielded thread, { shared with world := left })
        else (Progress.asleep (shared.clock + millis) thread, { shared with world := left }) := by
  cases isCancelled : thread.scope.cancelled.any (· ≤ shared.clock) with
  | false =>
      refine ⟨(call.perform shared.world).2, ?_⟩
      simp only [await, isCancelled]
      rfl
  | true =>
      refine ⟨shared.world, ?_⟩
      obtain ⟨moment, atMoment, isBefore⟩ := Option.any_eq_true _ _ |>.1 isCancelled
      have nothingLeft : thread.scope.cancelled.map (· - shared.clock) = some 0 := by
        rw [atMoment, Option.map_some, Nat.sub_eq_zero_of_le (of_decide_eq_true isBefore)]
      have settled (completion : Completion result) :
          completion.settle call.late setup.taskTimeoutMillis (some 0) =
            some (0, Except.error TaskError.cancelled) :=
        Completion.settle_of_cancelled (fun millis _ _ => Nat.zero_le millis)
          fun most _ => Nat.zero_le most
      simp only [await, isCancelled, nothingLeft, settled, if_true]

/-- A thread lets the others go on if its wait is over at once, and otherwise sleeps until it is
over. -/
theorem exists_await_of_comesTo
    {time : Nat}
    {outcome : Except TaskError result}
    (thread : Thread world)
    (next : Except TaskError result → Chain world)
    (comesTo : (call.perform shared.world).1.ComesTo call.late setup.taskTimeoutMillis shared.clock
      thread.scope.cancelled time outcome) :
    ∃ left, thread.await setup shared call next =
      let waiting := { thread with stage := Stage.settled outcome next }
      (if time = shared.clock then Progress.yielded waiting else Progress.asleep time waiting,
        { shared with world := left }) := by
  obtain ⟨left, awaits⟩ := exists_await_eq setup thread shared call next
  obtain ⟨settled, isLater⟩ := comesTo.settle_eq
  refine ⟨left, ?_⟩
  rw [awaits, settled]
  by_cases atOnce : time = shared.clock
  · simp [atOnce]
  · have isAfter : time - shared.clock ≠ 0 := by omega
    have sameTime : shared.clock + (time - shared.clock) = time := by omega
    simp [atOnce, isAfter, sameTime]

/-- A thread that waits for nothing does not continue. -/
theorem exists_await_of_not_comesTo
    (thread : Thread world)
    (next : Except TaskError result → Chain world)
    (nothing : ¬ ∃ time outcome, (call.perform shared.world).1.ComesTo call.late
      setup.taskTimeoutMillis shared.clock thread.scope.cancelled time outcome) :
    ∃ left, thread.await setup shared call next =
      (Progress.stuck, { shared with world := left }) := by
  obtain ⟨never, noLimit, uncancelled⟩ := Completion.not_exists_comesTo_iff.1 nothing
  obtain ⟨left, awaits⟩ := exists_await_eq setup thread shared call next
  refine ⟨left, ?_⟩
  rw [awaits, never, noLimit, uncancelled]
  rfl

/-- A thread whose wait is over continues. -/
theorem step_of_settled
    {owed : List Cleanup}
    {outcome : Except TaskError result}
    (setup : Setup world)
    (thread : Thread world)
    (shared : Shared world)
    (awaits : thread.chain = Chain.task owed call next)
    (isSettled : thread.stage = Stage.settled outcome next) :
    thread.step setup shared = (thread.goOn (next outcome), shared) := by
  simp [step, awaits, isSettled]

end Thread

/-! ## Continuing -/

/-- A thread that has stopped in between and knows what its wait comes to. -/
def Job.settled {result : Type} (job : Job world) (outcome : Except TaskError result)
    (next : Except TaskError result → Chain world) : Job world where
  role := System.Role.resumed job.role
  thread := { job.thread with stage := Stage.settled outcome next }

/-- A thread that continues with a chain after it has stopped in between. -/
def Job.onward (job : Job world) (chain : Chain world) : Job world where
  role := System.Role.resumed job.role
  thread := { job.thread with chain, stage := Stage.idle }

namespace System

variable {result : Type} {job : Job world} {system : System world} {owed : List Cleanup}
  {call : Task world result} {next : Except TaskError result → Chain world}

/-- While a request is answered, its threads are orderly. -/
theorem areOrderly_of_moves
    {mayDrop : Prop}
    {line : RequestLine}
    {scope : Scope}
    {chain : Chain world}
    {shared : Shared world}
    (moves : Relation.ReflTransGen (Move setup mayDrop) (start line scope chain shared) system) :
    ∀ thread ∈ system.threads, thread.IsOrderly := by
  induction moves with
  | refl => exact List.forall_mem_singleton.2 (Thread.IsOrderly.idle rfl)
  | tail _ move inductionHypothesis => exact move.areOrderly inductionHypothesis

/-- A thread that waits for a task is still there when its wait is over, and nobody else is. It
waits for its turn until then. -/
theorem work_of_comesTo
    {time : Nat}
    {outcome : Except TaskError result}
    (awaits : job.thread.chain = Chain.task owed call next)
    (begins : job.thread.stage = Stage.idle)
    (comesTo : (call.perform system.shared.world).1.ComesTo call.late setup.taskTimeoutMillis
      system.shared.clock job.thread.scope.cancelled time outcome) :
    (system.work setup job).threads.Perm ((job.settled outcome next).thread :: system.others) ∧
      (system.work setup job).Holds time (job.settled outcome next) := by
  obtain ⟨left, steps⟩ :=
    Thread.exists_await_of_comesTo job.thread next comesTo
  have isStep : job.thread.step setup system.shared =
      job.thread.await setup system.shared call next := by
    simp [Thread.step, awaits, begins]
  obtain ⟨perm, _⟩ := work_spec setup system job
  rw [isStep, steps] at perm
  by_cases atOnce : time = system.shared.clock
  · refine ⟨by simpa [atOnce, Progress.threads, Job.settled] using perm, ?_⟩
    simp only [work, isStep, steps, if_pos atOnce]
    exact Holds.deferred List.mem_cons_self atOnce.symm
  · refine ⟨by simpa [atOnce, Progress.threads, Job.settled] using perm, ?_⟩
    simp only [work, isStep, steps, if_neg atOnce]
    exact Holds.asleep (List.mem_append_right _ (List.mem_singleton.2 rfl))

/-- A thread continues when its wait is over, and nothing else happens. -/
theorem work_of_settled
    {outcome : Except TaskError result}
    (awaits : job.thread.chain = Chain.task owed call next)
    (isSettled : job.thread.stage = Stage.settled outcome next) :
    system.work setup job =
      { system with
        current := some
          { job with thread := { job.thread with chain := next outcome, stage := Stage.idle } } } := by
  unfold work
  rw [job.thread.step_of_settled setup system.shared awaits isSettled]
  rfl

/-- A thread that waits for nothing is not there any more. -/
theorem work_of_not_comesTo
    (awaits : job.thread.chain = Chain.task owed call next)
    (begins : job.thread.stage = Stage.idle)
    (nothing : ¬ ∃ time outcome, (call.perform system.shared.world).1.ComesTo call.late
      setup.taskTimeoutMillis system.shared.clock job.thread.scope.cancelled time outcome) :
    (system.work setup job).threads.Perm system.others := by
  obtain ⟨left, steps⟩ :=
    Thread.exists_await_of_not_comesTo job.thread next nothing
  have isStep : job.thread.step setup system.shared =
      job.thread.await setup system.shared call next := by
    simp [Thread.step, awaits, begins]
  obtain ⟨perm, _⟩ := work_spec setup system job
  rw [isStep, steps] at perm
  simpa [Progress.threads] using perm

end System

/-- Whenever a thread of a request waits for a task, it continues exactly once, with what the wait
comes to, and at this time: with the cancellation if it has come by the time at which the task
completes and at which the deadline passes, with the task's own result if it completes no later than
the deadline, and otherwise with the failure that the task has timed out. It does not continue if
the task never completes, there is no deadline, and nobody cancels. What was detached, however
deep, is cancelled by nobody, and continues even if the request is dropped. That its turn comes
takes that the other threads end, and so that sessions are resolved. A thread that is at work at a
task begins to wait for it, or its wait is over and its step is to continue. -/
theorem await_continues_once
    {mayDrop : Prop}
    {line : RequestLine}
    {scope : Scope}
    {chain : Chain world}
    {shared : Shared world}
    {system : System world}
    {job : Job world}
    {result : Type}
    {owed : List Cleanup}
    {call : Task world result}
    {next : Except TaskError result → Chain world}
    (reached : Relation.ReflTransGen (System.Move setup mayDrop)
      (System.start line scope chain shared) system)
    (isCurrent : system.current = some job)
    (isItsTurn : system.starters = [])
    (awaits : job.thread.chain = Chain.task owed call next) :
    let completion := (call.perform system.shared.world).1
    let timedOut := TaskError.failed (call.description.text ++ " timed out")
    let cancelled := if job.role = Role.main then scope.cancelled else none
    let ComesTo :=
      completion.ComesTo timedOut setup.taskTimeoutMillis system.shared.clock cancelled
    ∃ after, system.step? setup = some after ∧
      ((∃ outcome, job.thread.stage = Stage.settled outcome next ∧
          after = { system with
            current := some
              { job with
                thread := { job.thread with chain := next outcome, stage := Stage.idle } } }) ∨
        job.thread.stage = Stage.idle ∧
          (∀ time outcome, ComesTo time outcome →
            (∀ otherTime otherOutcome, ComesTo otherTime otherOutcome →
                otherTime = time ∧ otherOutcome = outcome) ∧
              after.threads.Perm ((job.settled outcome next).thread :: system.others) ∧
              (setup.Resolves → (mayDrop → job.role ≠ Role.main) →
                System.IsCertain setup mayDrop
                  (fun later => later.current = some (job.onward (next outcome)) ∧
                    later.shared.clock = time)
                  after)) ∧
          ((¬ ∃ time outcome, ComesTo time outcome) ↔
            completion = Completion.never ∧ setup.taskTimeoutMillis = none ∧ cancelled = none) ∧
          ((¬ ∃ time outcome, ComesTo time outcome) → after.threads.Perm system.others) ∧
          (job.role ≠ Role.main → ∀ time outcome, ComesTo time outcome →
            (∃ millis, completion = Completion.after millis outcome) ∨
              outcome = Except.error timedOut)) := by
  intro completion timedOut cancelled ComesTo
  have isWithin := (System.each_isWithin_of_moves reached).current job isCurrent
  have sameCancelled : job.thread.scope.cancelled = cancelled := by
    by_cases isMain : job.role = Role.main
    · simp [cancelled, isMain, isWithin.main isMain]
    · simp [cancelled, isMain, isWithin.detached isMain]
  have orderly : job.thread.IsOrderly := by
    refine System.areOrderly_of_moves reached job.thread (List.mem_append_left _ ?_)
    rw [isCurrent]
    exact List.mem_singleton.2 rfl
  refine ⟨_, System.step?_of_starters_eq_nil isCurrent isItsTurn, ?_⟩
  obtain begins | ⟨outcome, isSettled⟩ := orderly.stage_of_task awaits
  case inr => exact Or.inl ⟨outcome, isSettled, System.work_of_settled awaits isSettled⟩
  refine Or.inr ⟨begins, ?_, ?_, ?_, ?_⟩
  · intro time outcome comesTo
    refine ⟨fun otherTime otherOutcome other => other.unique comesTo, ?_⟩
    have comesTo : completion.ComesTo call.late setup.taskTimeoutMillis system.shared.clock
        job.thread.scope.cancelled time outcome := by
      rw [sameCancelled]
      exact comesTo
    obtain ⟨perm, holds⟩ := System.work_of_comesTo awaits begins comesTo
    refine ⟨perm, fun resolves spared => ?_⟩
    refine holds.isCertain ?startersWait nofun resolves ?isSpared fun later resumes => ?goesOn
    case startersWait => exact System.starters_work (Or.inl isItsTurn)
    case isSpared =>
      exact fun may isMain => spared may ((Role.resumed_eq_main_iff job.role).1 isMain)
    case goesOn =>
      have continues : later.work setup (job.settled outcome next) = _ :=
        System.work_of_settled awaits rfl
      rw [continues]
      exact ⟨rfl, resumes.clock⟩
  · exact Completion.not_exists_comesTo_iff
  · intro nothing
    refine System.work_of_not_comesTo awaits begins ?_
    rw [sameCancelled]
    exact nothing
  · intro isDetached time outcome comesTo
    have uncancelled : cancelled = none := if_neg isDetached
    cases comesTo with
    | cancelled isCancelled => exact absurd (uncancelled.symm.trans isCancelled) nofun
    | completed completes => exact Or.inl ⟨_, completes⟩
    | late => exact Or.inr rfl

/-- A request that is cancelled at two waits for a task, after it has detached a chain that waits
for a task too. Then the request is dropped, and what was detached continues with the result. -/
theorem await_continues_once_for_detached :
    let setup : Setup Unit :=
      { files := [], resolver := Session.resolve, taskTimeoutMillis := some 5 }
    let poll : Task Unit Unit :=
      Task.describe "poll" "" fun seen => (Completion.after 3 (Except.ok ()), seen)
    let waiting : Chain Unit := Chain.awaitTask poll fun _ => Chain.finish
    let scope : Scope := { token := none, body := some [], cancelled := some 2 }
    let start : System Unit :=
      System.start { method := "GET", path := "/" } scope (Chain.detach waiting waiting)
        { pool := {}, world := () }
    ∃ system job after,
      Relation.ReflTransGen (System.Move setup True) start system ∧
        system.current = some job ∧ job.role = Role.detached true ∧ system.others = [] ∧
        system.step? setup = some after ∧
        System.IsCertain setup True
          (fun later => later.current = some (job.onward Chain.finish) ∧ later.shared.clock = 3)
          after := by
  intro setup poll waiting scope start
  have reached : Relation.ReflTransGen (System.Move setup True) start _ :=
    ((((Relation.ReflTransGen.single (System.Move.step rfl)).tail (System.Move.step rfl)).tail
      (System.Move.step rfl)).tail
        (System.Move.drop trivial rfl (System.GivesUp.asleep (List.nil_append _).symm rfl))).tail
          (System.Move.step rfl)
  obtain ⟨after, steps, ⟨_, isSettled, _⟩ | ⟨_, continues, _⟩⟩ :=
    await_continues_once reached rfl rfl rfl
  · cases isSettled
  obtain ⟨_, _, certain⟩ := continues 3 (Except.ok ())
    (Completion.ComesTo.completed rfl (by simp [setup]) nofun)
  exact ⟨_, _, after, reached, rfl, rfl, rfl, steps,
    certain (Setup.resolves_of_onlyLooksUp Session.onlyLooksUp_resolve) fun _ => nofun⟩

end Serve

end Screencast
