import Mathlib.Logic.Hydra
import Screencast.Proofs.Account.Resolve
import Screencast.Proofs.Serve.Schedule

/-!
# Requests come to their end

A chain is a tree without infinite paths, so a thread takes finitely many steps, if sessions are
resolved in finitely many steps too. A system exchanges a thread for finitely many threads with less
to do, or it only moves threads closer to being at work, so whatever the threads do, sooner or later
nothing is left to be done. This remains true if the request is dropped on the way.
-/

namespace Screencast

namespace Serve

variable {world : Type} {setup : Setup world}

/-! ## Threads -/

namespace Thread

/-- A thread is one of those that are left after some step of another one. -/
def IsLeftOf (setup : Setup world) (left thread : Thread world) : Prop :=
  ∃ shared, left ∈ (thread.step setup shared).1.threads

end Thread

/-- A thread with a chain takes finitely many steps, unless it goes on with something else. -/
def Ends (setup : Setup world) (chain : Chain world) : Prop :=
  ∀ scope stage cleanups, stage.isSettled = false →
    Acc (Thread.IsLeftOf setup) { chain, scope, stage, cleanups }

/-- A chain ends if whatever is left of it after a step ends. -/
theorem ends_of_left
    {chain : Chain world}
    (ends : ∀ scope stage cleanups shared left, stage.isSettled = false →
      left ∈ (Thread.step setup { chain, scope, stage, cleanups } shared).1.threads →
        left.stage.isSettled = false ∧ Ends setup left.chain) :
    Ends setup chain := by
  refine fun scope stage cleanups isOwn => Acc.intro _ ?_
  rintro ⟨rest, restScope, restStage, restCleanups⟩ ⟨shared, isLeft⟩
  obtain ⟨isRestsOwn, restEnds⟩ := ends scope stage cleanups shared _ isOwn isLeft
  exact restEnds restScope restStage restCleanups isRestsOwn

theorem ends_respond (terminal : Terminal) : Ends setup (Chain.respond terminal) :=
  ends_of_left fun _ _ _ _ _ _ isLeft => by
    simp [Thread.step, Thread.close, Progress.threads] at isLeft

/-- A chain ends if what is behind a note ends. -/
theorem ends_note
    {rest : Chain world}
    (ends : Ends setup rest)
    (event : Event) :
    Ends setup (Chain.note event rest) := by
  refine ends_of_left fun scope stage cleanups shared left isOwn isLeft => ?_
  obtain rfl := List.mem_singleton.1 isLeft
  exact ⟨rfl, ends⟩

/-- The report of a failure ends. -/
theorem ends_failOwing (owed : List Cleanup) (error : ServerError) :
    Ends setup (Chain.failOwing owed error) := by
  have cleaned : Ends setup
      (Chain.clean owed (Chain.respond (Terminal.html error.page error.status))) := by
    induction owed with
    | nil => exact ends_respond _
    | cons cleanup owed inductionHypothesis => exact ends_note inductionHypothesis _
  unfold Chain.failOwing
  dsimp only
  split
  · exact ends_note cleaned _
  · exact cleaned

/-- A query ends if everything behind it does. It asks for a connection, waits for it, runs its
statement and returns the connection, in this order. -/
theorem ends_query
    {result : Type}
    {next : Except QueryError result → Chain world}
    (ends : ∀ outcome, Ends setup (next outcome))
    (owed : List Cleanup)
    (issued : Query result) :
    Ends setup (Chain.query owed issued next) := by
  intro scope stage cleanups isOwn
  have answered (rows : Except QueryError (List Row)) :
      Acc (Thread.IsLeftOf setup)
        ⟨Chain.query owed issued next, scope, Stage.answered rows, cleanups⟩ := by
    refine Acc.intro _ ?_
    rintro left ⟨shared, isLeft⟩
    obtain rfl := List.mem_singleton.1 isLeft
    exact ends _ scope Stage.idle cleanups rfl
  have connected : Acc (Thread.IsLeftOf setup)
      ⟨Chain.query owed issued next, scope, Stage.connected, cleanups⟩ := by
    refine Acc.intro _ ?_
    rintro left ⟨shared, isLeft⟩
    obtain rfl := List.mem_singleton.1 isLeft
    exact answered _
  have waiting : Acc (Thread.IsLeftOf setup)
      ⟨Chain.query owed issued next, scope, Stage.waiting, cleanups⟩ := by
    refine Acc.intro _ ?_
    rintro left ⟨shared, isLeft⟩
    simp only [Thread.step] at isLeft
    split at isLeft
    · obtain rfl := List.mem_singleton.1 isLeft
      exact connected
    · obtain rfl := List.mem_singleton.1 isLeft
      exact ends _ scope Stage.idle cleanups rfl
  cases stage with
  | settled => cases isOwn
  | answered rows => exact answered rows
  | connected => exact connected
  | waiting => exact waiting
  | idle =>
      refine Acc.intro _ ?_
      rintro left ⟨shared, isLeft⟩
      simp only [Thread.step] at isLeft
      cases rejection : issued.rejection with
      | some error =>
          rw [rejection] at isLeft
          obtain rfl := List.mem_singleton.1 isLeft
          exact ends _ scope Stage.idle cleanups rfl
      | none =>
          rw [rejection] at isLeft
          simp only [Thread.acquire] at isLeft
          split at isLeft
          · obtain rfl := List.mem_singleton.1 isLeft
            exact connected
          · obtain rfl := List.mem_singleton.1 isLeft
            exact ends _ scope Stage.idle cleanups rfl
          · split at isLeft
            · obtain rfl := List.mem_singleton.1 isLeft
              exact ends _ scope Stage.idle cleanups rfl
            · obtain rfl := List.mem_singleton.1 isLeft
              exact waiting

/-- A chain that looks up a session ends if what follows does. -/
theorem ends_of_looksUp
    {owed : List Cleanup}
    {next : Option Session → Chain world}
    {chain : Chain world}
    (looksUp : chain.LooksUp owed next)
    (ends : ∀ session, Ends setup (next session)) :
    Ends setup chain := by
  induction looksUp with
  | found session => exact ends session
  | failed error => exact ends_failOwing owed error
  | asks issued looksUp inductionHypothesis => exact ends_query inductionHypothesis owed issued

/-- A thread that knows what its wait comes to takes finitely many steps, if what it goes on with
ends. -/
theorem acc_settled
    {result : Type}
    {outcome : Except TaskError result}
    {next : Except TaskError result → Chain world}
    (ends : Ends setup (next outcome))
    (owed : List Cleanup)
    (call : Task world result)
    (scope : Scope)
    (cleanups : List Cleanup) :
    Acc (Thread.IsLeftOf setup)
      { chain := Chain.task owed call next
        scope
        stage := Stage.settled outcome next
        cleanups } := by
  refine Acc.intro _ ?_
  rintro left ⟨shared, isLeft⟩
  obtain rfl := List.mem_singleton.1 isLeft
  exact ends scope Stage.idle cleanups rfl

/-- A task ends if everything behind it does. -/
theorem ends_task
    {result : Type}
    {next : Except TaskError result → Chain world}
    (ends : ∀ outcome, Ends setup (next outcome))
    (owed : List Cleanup)
    (call : Task world result) :
    Ends setup (Chain.task owed call next) := by
  intro scope stage cleanups isOwn
  refine Acc.intro _ ?_
  rintro left ⟨shared, isLeft⟩
  have atTask : left ∈ (Thread.await setup ⟨Chain.task owed call next, scope, stage, cleanups⟩
      shared call next).1.threads := by
    cases stage with
    | settled => cases isOwn
    | _ => exact isLeft
  simp only [Thread.await] at atTask
  split at atTask
  · cases atTask
  · split at atTask
    · obtain rfl := List.mem_singleton.1 atTask
      exact acc_settled (ends _) owed call scope cleanups
    · obtain rfl := List.mem_singleton.1 atTask
      exact acc_settled (ends _) owed call scope cleanups

/-- A session is resolved in finitely many steps: a chain that resolves it ends if what follows
does. -/
def Setup.Resolves (setup : Setup world) : Prop :=
  ∀ token owed (next : Option Session → Chain world),
    (∀ session, Ends setup (next session)) →
      Ends setup ((setup.resolver token).run { next, owed })

/-- A session that is only looked up is resolved in finitely many steps. -/
theorem Setup.resolves_of_onlyLooksUp
    (looksUp : ∀ token, (setup.resolver token).OnlyLooksUp) :
    setup.Resolves := by
  intro token owed next ends
  have looks : Chain.LooksUp owed next ((setup.resolver token).run { next, owed }) :=
    looksUp token next { next, owed } Chain.LooksUp.found
  exact ends_of_looksUp looks ends

/-- Every chain ends, if sessions are resolved. -/
theorem Setup.Resolves.ends
    (resolves : setup.Resolves)
    (chain : Chain world) :
    Ends setup chain := by
  induction chain with
  | respond terminal => exact ends_respond terminal
  | query owed issued next inductionHypothesis =>
      exact ends_query inductionHypothesis owed issued
  | note event rest inductionHypothesis => exact ends_note inductionHypothesis event
  | session owed next inductionHypothesis =>
      refine ends_of_left fun scope stage cleanups shared left isOwn isLeft => ?_
      simp only [Thread.step] at isLeft
      split at isLeft
      next =>
        obtain rfl := List.mem_singleton.1 isLeft
        exact ⟨rfl, inductionHypothesis none⟩
      next token _ =>
        obtain rfl := List.mem_singleton.1 isLeft
        exact ⟨rfl, resolves token owed next inductionHypothesis⟩
  | body owed next inductionHypothesis =>
      refine ends_of_left fun scope stage cleanups shared left isOwn isLeft => ?_
      simp only [Thread.step] at isLeft
      split at isLeft
      · obtain rfl := List.mem_singleton.1 isLeft
        exact ⟨rfl, inductionHypothesis _⟩
      · obtain rfl := List.mem_singleton.1 isLeft
        exact ⟨rfl, ends_failOwing owed Thread.unreadableBody⟩
  | task owed call next inductionHypothesis => exact ends_task inductionHypothesis owed call
  | detach aside rest asideHypothesis restHypothesis =>
      refine ends_of_left fun scope stage cleanups shared left isOwn isLeft => ?_
      rcases List.mem_pair.1 isLeft with rfl | rfl
      · exact ⟨rfl, restHypothesis⟩
      · exact ⟨rfl, asideHypothesis⟩
  | ensure guarded cleanup inductionHypothesis =>
      refine ends_of_left fun scope stage cleanups shared left isOwn isLeft => ?_
      obtain rfl := List.mem_singleton.1 isLeft
      exact ⟨rfl, inductionHypothesis⟩
  | fresh next inductionHypothesis =>
      refine ends_of_left fun scope stage cleanups shared left isOwn isLeft => ?_
      obtain rfl := List.mem_singleton.1 isLeft
      exact ⟨rfl, inductionHypothesis _⟩
  | observe next inductionHypothesis =>
      refine ends_of_left fun scope stage cleanups shared left isOwn isLeft => ?_
      obtain rfl := List.mem_singleton.1 isLeft
      exact ⟨rfl, inductionHypothesis _⟩

/-- Threads take finitely many steps, if sessions are resolved. -/
theorem Thread.wellFounded_isLeftOf
    (resolves : setup.Resolves) :
    WellFounded (IsLeftOf setup) := by
  refine ⟨?_⟩
  rintro ⟨chain, scope, stage, cleanups⟩
  cases stage with
  | settled outcome next =>
      -- It goes on with what it knows where it can, and otherwise as if it knew nothing.
      have asIdle := resolves.ends chain scope Stage.idle cleanups rfl
      have goesOn := resolves.ends (next outcome) scope Stage.idle cleanups rfl
      refine Acc.intro _ fun left ⟨shared, isLeft⟩ => ?_
      cases chain with
      | query | task => exact List.mem_singleton.1 isLeft ▸ goesOn
      | _ => exact asIdle.inv ⟨shared, isLeft⟩
  | _ => exact resolves.ends chain scope _ cleanups rfl

/-! ## Systems -/

namespace Ready

/-- The thread of something that is ready, with its role. -/
def job? : Ready world → Option (Job world)
  | job started => some started
  | resumed woken => some woken
  | report _ => none

theorem thread?_eq (entry : Ready world) : entry.thread? = entry.job?.map Job.thread := by
  cases entry <;> rfl

end Ready

namespace System

/-- A thread that waits for its turn or for the time to pass is given up. -/
inductive GivesUp (job : Job world) : System world → System world → Prop
  | ready {system : System world} {entry : Ready world} {before behind : List (Ready world)}
      (isReady : system.ready = before ++ entry :: behind)
      (isIts : entry.job? = some job) :
      GivesUp job system
        { system with
          shared := job.thread.abandon system.shared
          ready := before ++ behind }
  | deferred {system : System world} {before behind : List (Job world)}
      (isDeferred : system.deferred = before ++ job :: behind) :
      GivesUp job system
        { system with
          shared := job.thread.abandon system.shared
          deferred := before ++ behind }
  | asleep {system : System world} {sleeper : Sleeper world} {before behind : List (Sleeper world)}
      (isAsleep : system.sleepers = before ++ sleeper :: behind)
      (isIts : sleeper.job = job) :
      GivesUp job system
        { system with
          shared := job.thread.abandon system.shared
          sleepers := before ++ behind }

/-- What can happen next: the system takes a step, or somebody drops the request, if that may
happen. Nothing else becomes of the threads that were detached. -/
inductive Move (setup : Setup world) (mayDrop : Prop) : System world → System world → Prop
  | step {system after : System world}
      (steps : system.step? setup = some after) :
      Move setup mayDrop system after
  | drop {system after : System world} {job : Job world}
      (may : mayDrop)
      (isMain : job.role = Role.main)
      (givesUp : GivesUp job system after) :
      Move setup mayDrop system after

/-- All threads but the one that is given up are left. -/
theorem GivesUp.threads_perm
    {job : Job world}
    {system after : System world}
    (givesUp : GivesUp job system after) :
    system.threads.Perm (job.thread :: after.threads) := by
  classical
  refine List.perm_iff_count.2 fun other => ?_
  cases givesUp with
  | ready isReady isIts =>
      simp only [count_threads, isReady, List.filterMap_append, List.filterMap_cons,
        Ready.thread?_eq, isIts, Option.map_some, List.count_append, List.count_cons]
      omega
  | deferred isDeferred =>
      simp only [count_threads, isDeferred, List.map_append, List.map_cons, List.count_append,
        List.count_cons]
      omega
  | asleep isAsleep isIts =>
      simp only [count_threads, isAsleep, isIts, List.map_append, List.map_cons, List.count_append,
        List.count_cons]
      omega

/-- Less is left to be done: a thread was exchanged for threads with less to do, or the threads are
closer to being at work. -/
def IsLess (setup : Setup world) (after before : System world) : Prop :=
  Prod.Lex (Relation.CutExpand (Thread.IsLeftOf setup)) (· < ·)
    (Multiset.ofList after.threads, after.turns) (Multiset.ofList before.threads, before.turns)

/-- After a move less is left to be done. -/
theorem Move.isLess
    {mayDrop : Prop}
    {system after : System world}
    (move : Move setup mayDrop system after) :
    IsLess setup after system := by
  cases move with
  | step steps =>
      rcases step?_cases steps with ⟨job, isCurrent, rfl, _⟩ | reorders
      · have left := Multiset.coe_eq_coe.2 (work_spec setup system job).1
        have before : system.threads = job.thread :: system.others := by
          rw [threads, isCurrent]
          rfl
        refine Prod.Lex.left _ _ ⟨(job.thread.step setup system.shared).1.threads, job.thread,
          fun thread isLeft => ⟨system.shared, Multiset.mem_coe.1 isLeft⟩, ?_⟩
        rw [left, before, ← Multiset.coe_add, ← Multiset.cons_coe, ← Multiset.singleton_add]
        ac_rfl
      · have same := Multiset.coe_eq_coe.2 reorders.threads
        unfold IsLess
        rw [same]
        exact Prod.Lex.right _ reorders.turns
  | @drop job may isMain givesUp =>
      have parts := Multiset.coe_eq_coe.2 givesUp.threads_perm
      refine Prod.Lex.left _ _ ⟨0, job.thread, fun _ isLeft => absurd isLeft (by simp), ?_⟩
      rw [parts, ← Multiset.cons_coe, ← Multiset.singleton_add, add_zero, add_comm]

/-- Orderly threads stay orderly, whatever happens. -/
theorem Move.areOrderly
    {mayDrop : Prop}
    {system after : System world}
    (move : Move setup mayDrop system after)
    (areOrderly : ∀ thread ∈ system.threads, thread.IsOrderly) :
    ∀ thread ∈ after.threads, thread.IsOrderly := by
  intro thread present
  cases move with
  | step steps =>
      rcases step?_cases steps with ⟨job, isCurrent, rfl, _⟩ | reorders
      · have before : system.threads = job.thread :: system.others := by
          rw [threads, isCurrent]
          rfl
        obtain ⟨own, others⟩ := List.forall_mem_cons.1 (before ▸ areOrderly)
        rcases List.mem_append.1 ((work_spec setup system job).1.mem_iff.1 present) with
          isLeft | isOther
        · exact (job.thread.dealing_step setup system.shared own).isOrderly own thread isLeft
        · exact others thread isOther
      · exact areOrderly thread (reorders.threads.mem_iff.1 present)
  | drop may isMain givesUp =>
      exact areOrderly thread (givesUp.threads_perm.mem_iff.2 (List.mem_cons_of_mem _ present))

/-- No thread waits for the thread at work to be started if none is at work, whatever happens. -/
theorem Move.startersWait
    {mayDrop : Prop}
    {system after : System world}
    (move : Move setup mayDrop system after)
    (startersWait : system.StartersWait) :
    after.StartersWait := by
  cases move with
  | step steps => exact startersWait.step? steps
  | drop may isMain givesUp => cases givesUp <;> exact startersWait

/-- A request comes to its end, whatever happens, if sessions are resolved. -/
theorem wellFounded_move
    (resolves : setup.Resolves)
    (mayDrop : Prop) :
    WellFounded fun after before => Move setup mayDrop before after := by
  have threads := Thread.wellFounded_isLeftOf resolves
  have irreflexive : Std.Irrefl (Thread.IsLeftOf setup) := threads.irrefl
  have pairs := WellFounded.prod_lex threads.cutExpand (wellFounded_lt (α := Nat))
  refine Subrelation.wf (r := IsLess setup) Move.isLess ?_
  let measure (system : System world) := (Multiset.ofList system.threads, system.turns)
  exact InvImage.wf measure pairs

/-! ## Certainty -/

/-- Whatever happens next, a goal is reached sooner or later. -/
inductive IsCertain (setup : Setup world) (mayDrop : Prop) (goal : System world → Prop) :
    System world → Prop
  | now {system : System world}
      (reached : goal system) :
      IsCertain setup mayDrop goal system
  | later {system : System world}
      (goesOn : ∃ after, Move setup mayDrop system after)
      (certain : ∀ after, Move setup mayDrop system after → IsCertain setup mayDrop goal after) :
      IsCertain setup mayDrop goal system

/-- A goal is reached sooner or later if something holds until it is, and if the system always goes
on while it holds. -/
theorem isCertain_of_until
    {mayDrop : Prop}
    {goal : System world → Prop}
    (holds : System world → Prop)
    (resolves : setup.Resolves)
    (goesOn : ∀ system, holds system → ∃ after, Move setup mayDrop system after)
    (stays : ∀ system after, holds system → Move setup mayDrop system after →
      holds after ∨ goal after)
    (system : System world)
    (begins : holds system) :
    IsCertain setup mayDrop goal system := by
  induction system using (wellFounded_move resolves mayDrop).induction with
  | _ system inductionHypothesis =>
      refine IsCertain.later (goesOn system begins) fun after move => ?_
      rcases stays system after begins move with stillHolds | reached
      · exact inductionHypothesis after move stillHolds
      · exact IsCertain.now reached

end System

end Serve

end Screencast
