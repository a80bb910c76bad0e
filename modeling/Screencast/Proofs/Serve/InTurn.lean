import Screencast.Proofs.Serve.Alone
import Screencast.Proofs.Serve.Detached
import Screencast.Proofs.Serve.Halting
import Screencast.Proofs.Serve.Schedule
import Screencast.Proofs.Serve.Supplied
import Screencast.Site.Dispatch

/-!
# A server lets threads take turns

A server lets the threads of a request take turns in a fixed way. In quiet times no thread has to
wait for a connection then, as a thread that has got one goes on until it has returned it. So what
the server does is a run of an ensemble, and it comes to its end.
-/

namespace Screencast

namespace Serve

open Http

variable {world : Type}

/-- Whether a connection is neither waited for nor held. -/
def Stage.isFree : Stage world → Bool
  | idle => true
  | settled _ _ => true
  | _ => false

namespace Thread

variable {setup : Setup world} {thread : Thread world} {shared : Shared world}
  {mayBe : world → Prop}

/-- A thread that has to do with no connection holds none. -/
theorem holdsConnection_of_isFree (isFree : thread.stage.isFree = true) :
    thread.holdsConnection = false := by
  unfold holdsConnection
  cases stage : thread.stage with
  | idle | waiting | settled => rfl
  | connected => simp [stage, Stage.isFree] at isFree
  | answered rows => simp [stage, Stage.isFree] at isFree

/-- In quiet times a thread gets a connection that is available. It has to do with one after its
step only if it goes on with a query. -/
theorem stages_step
    (setup : Setup world)
    (quiet : shared.IsQuiet mayBe)
    (notWaiting : thread.stage ≠ Stage.waiting)
    (available : thread.stage = Stage.idle → shared.pool.isAvailable = true) :
    (∀ next ∈ (thread.step setup shared).1.threads, next.stage.isFree = true) ∨
      ∃ next, (thread.step setup shared).1 = Progress.moved next ∧ next.stage ≠ Stage.waiting ∧
        thread.isAtQuery = true := by
  obtain ⟨chain, scope, stage, cleanups⟩ := thread
  cases chain with
  | respond terminal => exact Or.inl (List.forall_mem_nil _)
  | session owed next =>
      left
      cases given : scope.token <;> simp [step, given, goOn, Progress.threads, Stage.isFree]
  | body owed next =>
      left
      cases given : scope.body <;> simp [step, given, goOn, Progress.threads, Stage.isFree]
  | query owed issued next =>
      cases stage with
      | idle =>
          cases rejected : issued.rejection with
          | some error =>
              left
              simp [step, rejected, goOn, Progress.threads, Stage.isFree]
          | none =>
              right
              rw [step_acquire setup quiet rfl rfl rejected, available rfl, if_pos rfl]
              exact ⟨_, rfl, by simp, rfl⟩
      | waiting => exact absurd rfl notWaiting
      | connected => exact Or.inr ⟨_, rfl, by simp, rfl⟩
      | answered rows => exact Or.inl (List.forall_mem_singleton.2 rfl)
      | settled => exact Or.inl (List.forall_mem_singleton.2 rfl)
  | task owed call next =>
      left
      simp only [step]
      split
      next => exact List.forall_mem_singleton.2 rfl
      next =>
        simp only [await]
        split
        next => exact List.forall_mem_nil _
        next => split <;> exact List.forall_mem_singleton.2 rfl
  | detach aside rest =>
      exact Or.inl (List.forall_mem_cons.2 ⟨rfl, List.forall_mem_singleton.2 rfl⟩)
  | ensure guarded cleanup => exact Or.inl (List.forall_mem_singleton.2 rfl)
  | note event rest => exact Or.inl (List.forall_mem_singleton.2 rfl)
  | fresh next => exact Or.inl (List.forall_mem_singleton.2 rfl)
  | observe next => exact Or.inl (List.forall_mem_singleton.2 rfl)

end Thread

namespace System

/-- Threads take turns: those that are not at work have to do with no connection, and the one at
work does not wait for one. It has to do with none either as long as another thread waits for it to
be started. -/
structure TakesTurns (system : System world) : Prop where
  others : ∀ thread ∈ system.others, thread.stage.isFree = true
  current : ∀ job, system.current = some job → job.thread.stage ≠ Stage.waiting
  started : ∀ job, system.current = some job → system.starters ≠ [] →
    job.thread.stage.isFree = true
  starters : system.current = none → system.starters = []

variable {setup : Setup world} {system after : System world} {job : Job world}
  {mayBe : world → Prop}

/-- Threads that have to do with no connection take turns. -/
theorem TakesTurns.of_isFree
    (areFree : ∀ thread ∈ system.threads, thread.stage.isFree = true)
    (starters : system.current = none → system.starters = []) :
    system.TakesTurns := by
  have current (job : Job world) (isCurrent : system.current = some job) :
      job.thread.stage.isFree = true := by
    refine areFree job.thread (List.mem_append_left _ ?_)
    rw [isCurrent]
    exact List.mem_singleton.2 rfl
  constructor
  case others => exact fun thread present => areFree thread (List.mem_append_right _ present)
  case current =>
    intro job isCurrent isWaiting
    have isFree := current job isCurrent
    rw [isWaiting] at isFree
    cases isFree
  case started => exact fun job isCurrent _ => current job isCurrent
  case starters => exact starters

/-- Threads that change their places go on to take turns. -/
theorem TakesTurns.of_reorders
    (turns : system.TakesTurns)
    (reorders : system.Reorders after) :
    after.TakesTurns := by
  refine TakesTurns.of_isFree (fun thread present => ?_) (reorders.starters turns.starters)
  rcases List.mem_append.1 (reorders.threads.mem_iff.1 present) with atWork | isOther
  · obtain ⟨job, isCurrent, rfl⟩ := List.mem_map.1 atWork
    rw [Option.mem_toList] at isCurrent
    rcases reorders.halts with isNone | hasStarters
    · rw [isNone] at isCurrent
      cases isCurrent
    · exact turns.started job isCurrent hasStarters
  · exact turns.others thread isOther

/-- A thread takes a step, and the threads go on to take turns. -/
theorem TakesTurns.work
    (turns : system.TakesTurns)
    (isCurrent : system.current = some job)
    (goesOn : system.starters = [] ∨ job.thread.startsAtOnce = true)
    (quiet : system.shared.IsQuiet mayBe)
    (available : job.thread.stage = Stage.idle → system.shared.pool.isAvailable = true) :
    (system.work setup job).TakesTurns := by
  rcases Thread.stages_step setup quiet (turns.current job isCurrent) available with
    areFree | ⟨next, moved, notWaiting, atQuery⟩
  · refine TakesTurns.of_isFree (fun thread present => ?_) (starters_work goesOn)
    have left := (work_spec setup system job).1.mem_iff.1 present
    rcases List.mem_append.1 left with isLeft | isOther
    · exact areFree thread isLeft
    · exact turns.others thread isOther
  · have noStarters : system.starters = [] := by
      refine goesOn.resolve_right fun startsAtOnce => ?_
      unfold Thread.startsAtOnce at startsAtOnce
      unfold Thread.isAtQuery at atQuery
      split at atQuery
      next atHead => simp [atHead] at startsAtOnce
      next => cases atQuery
    unfold System.work
    generalize job.thread.step setup system.shared = after at moved ⊢
    obtain ⟨progress, shared⟩ := after
    obtain rfl : progress = Progress.moved next := moved
    constructor
    case others => exact turns.others
    case current =>
      rintro worker ⟨⟩
      exact notWaiting
    case started => exact fun _ _ hasStarters => absurd noStarters hasStarters
    case starters => exact fun isNone => nomatch isNone

/-- When nothing is left to do, there are no threads. -/
theorem threads_eq_nil
    (turns : system.TakesTurns)
    (halted : system.step? setup = none) :
    system.threads = [] := by
  unfold step? at halted
  split at halted
  next => cases halted
  next => cases halted
  next => cases halted
  next => cases halted
  next => cases halted
  next isIdle isReady isDeferred noneDue =>
    have noneAsleep : system.sleepers = [] :=
      List.map_eq_nil_iff.1 (List.min?_eq_none_iff.1 noneDue)
    simp [threads, others, isIdle, isReady, isDeferred, noneAsleep, turns.starters isIdle]
  next => cases halted

end System

namespace Ensemble

/-- An ensemble goes along with a system: the threads that have not sent their responses are those
of the system, and they share the same. -/
structure GoesAlong (ensemble : Ensemble world) (system : System world) : Prop where
  shared : ensemble.shared = system.shared
  threads : ensemble.threads.Perm system.threads

variable {setup : Setup world} {ensemble begin : Ensemble world} {system after : System world}

/-- One of the threads of an ensemble can be told from the others. -/
theorem exists_member
    {thread : Thread world}
    {rest : List (Thread world)}
    (threads : ensemble.threads.Perm (thread :: rest)) :
    ∃ member others, ensemble.members.Perm (member :: others) ∧ member.response = none ∧
      member.thread = thread ∧ (others.filterMap Member.thread?).Perm rest := by
  obtain ⟨member, present, isThread⟩ :=
    List.mem_filterMap.1 (threads.mem_iff.2 List.mem_cons_self)
  obtain ⟨before, behind, parts⟩ := List.append_of_mem present
  have isOne : ensemble.members.Perm (member :: (before ++ behind)) := parts ▸ List.perm_middle
  have same := (isOne.filterMap Member.thread?).symm.trans threads
  rw [List.filterMap_cons_some isThread] at same
  unfold Member.thread? at isThread
  split at isThread
  next isOpen =>
    exact ⟨member, before ++ behind, isOne, isOpen, Option.some.inj isThread, same.cons_inv⟩
  next => cases isThread

/-- As long as threads take turns, a connection is available for the one at work if it has none. -/
theorem GoesAlong.isAvailable
    {job : Job world}
    (along : ensemble.GoesAlong system)
    (balanced : ensemble.IsBalanced)
    (turns : system.TakesTurns)
    (isCurrent : system.current = some job)
    (isIdle : job.thread.stage = Stage.idle) :
    system.shared.pool.isAvailable = true := by
  have noneHolds : ∀ member ∈ ensemble.members, member.holdsConnection ≠ true := by
    intro member present holds
    cases response : member.response with
    | some sent =>
        rw [balanced.finished member present (response ▸ Option.some_ne_none sent)] at holds
        cases holds
    | none =>
        have isThread : member.thread? = some member.thread := by simp [Member.thread?, response]
        have isOne := along.threads.mem_iff.1 (List.mem_filterMap.2 ⟨member, present, isThread⟩)
        have isFree : member.thread.stage.isFree = true := by
          unfold System.threads at isOne
          rw [isCurrent] at isOne
          rcases List.mem_cons.1 isOne with atWork | isOther
          · rw [atWork, isIdle]
            rfl
          · exact turns.others _ isOther
        unfold Member.holdsConnection at holds
        rw [Thread.holdsConnection_of_isFree isFree] at holds
        cases holds
  have noneHeld : ensemble.shared.pool.held = 0 := by
    rw [balanced.held]
    exact List.countP_eq_zero.2 noneHolds
  have capacity := balanced.capacity
  rw [along.shared] at noneHeld capacity
  unfold Pool.isAvailable
  rw [noneHeld]
  exact decide_eq_true capacity

/-- Whatever becomes of an ensemble, it stays quiet and balanced, and none of its threads comes to a
halt. -/
structure KeepsGoing (setup : Setup world) (mayBe : world → Prop) (begin : Ensemble world) :
    Prop where
  balanced : begin.IsBalanced
  quiet : ∀ {count ensemble}, Run setup begin count ensemble → ensemble.shared.IsQuiet mayBe
  noHalt : ∀ {count ensemble member}, Run setup begin count ensemble →
    member ∈ ensemble.members → member.response = none →
      member.mustWait ensemble.shared = false →
        (member.thread.step setup ensemble.shared).1 ≠ Progress.stuck

namespace KeepsGoing

variable {mayBe : world → Prop} {count : Nat}

theorem isOver_or_exists_move
    (keepsGoing : begin.KeepsGoing setup mayBe)
    (run : Run setup begin count ensemble) :
    ensemble.IsOver ∨ ∃ after, Move setup ensemble after := by
  refine or_iff_not_imp_left.2 fun notOver => ?_
  exact (keepsGoing.balanced.of_run run).exists_move notOver fun _ => keepsGoing.noHalt run

/-- An ensemble that is under way keeps going. -/
theorem of_underWay
    {stub : Type}
    {rehearsal : Rehearsal stub world}
    {start : Point stub world}
    {shadows : List (Shadow stub world)}
    (underWay : UnderWay rehearsal setup start begin shadows)
    (balanced : begin.IsBalanced)
    (resolver : setup.resolver = Session.resolve)
    (noLimit : setup.taskTimeoutMillis = none) :
    begin.KeepsGoing setup rehearsal.mayBe where
  balanced := balanced
  quiet run := by
    obtain ⟨_, underWay, _⟩ := underWay.of_run balanced resolver noLimit run
    exact underWay.quiet
  noHalt run present isOpen mayGo := by
    obtain ⟨_, underWay, _⟩ := underWay.of_run balanced resolver noLimit run
    exact underWay.ne_stuck (balanced.of_run run) resolver noLimit present isOpen mayGo

/-- A thread that is alone at first keeps going if it does with its identifiers from any supply. -/
theorem of_supplied
    {chain : Chain world}
    {scope : Scope}
    {shared : Shared world}
    (drawsNone : setup.DrawsNone)
    (balanced : (starting shared { chain, scope }).IsBalanced)
    (keepsGoing : ∀ supply,
      (starting shared { chain := chain.supplied supply, scope }).KeepsGoing setup mayBe) :
    (starting shared { chain, scope }).KeepsGoing setup mayBe where
  balanced := balanced
  quiet run := by
    obtain ⟨supply, filled, run, isFilled⟩ := run.exists_filled_from drawsNone default
    have quiet := (keepsGoing supply).quiet run
    rw [isFilled.shared] at quiet
    exact ⟨quiet.faults, quiet.planned, quiet.patient, quiet.world⟩
  noHalt {_ ensemble member} run present isOpen mayGo isStuck := by
    obtain ⟨left, _, steps⟩ :=
      member.thread.exists_step_supplied drawsNone ensemble.shared default default
    obtain ⟨supply, filled, run, isFilled⟩ := run.exists_filled_from drawsNone left
    obtain ⟨other, isThere, otherFilled⟩ := isFilled.exists_mem present
    have otherMayGo : other.mustWait filled.shared = false := by
      rw [isFilled.shared, otherFilled.mustWait_eq]
      exact mayGo
    refine (keepsGoing supply).noHalt run isThere (otherFilled.response.trans isOpen) otherMayGo ?_
    rw [isFilled.shared, otherFilled.thread, steps, isStuck]
    rfl

end KeepsGoing

/-- What a system does in a step is a move of an ensemble that keeps going, or it brings the threads
closer to being at work. -/
theorem GoesAlong.step?
    {mayBe : world → Prop}
    {count : Nat}
    (along : ensemble.GoesAlong system)
    (turns : system.TakesTurns)
    (keepsGoing : begin.KeepsGoing setup mayBe)
    (run : Run setup begin count ensemble)
    (steps : system.step? setup = some after) :
    after.TakesTurns ∧ ∃ more next, Run setup begin (count + more) next ∧
      next.GoesAlong after := by
  rcases System.step?_cases steps with ⟨job, isCurrent, rfl, goesOn⟩ | reorders
  · have split : system.threads = job.thread :: system.others := by
      rw [System.threads, isCurrent]
      rfl
    obtain ⟨member, others, isOne, isOpen, isIt, rest⟩ := exists_member (split ▸ along.threads)
    have present := isOne.mem_iff.2 List.mem_cons_self
    have notWaiting := turns.current job isCurrent
    have mayGo : member.mustWait ensemble.shared = false := by
      unfold Member.mustWait
      rw [isIt]
      split
      next isWaiting => exact absurd isWaiting notWaiting
      next => rfl
    have noHalt := keepsGoing.noHalt run present isOpen mayGo
    obtain ⟨next, move, sameShared, leaves⟩ := Move.exists_of_step isOne isOpen mayGo noHalt
    obtain ⟨left, passes⟩ := System.work_spec setup system job
    rw [isIt, along.shared] at sameShared leaves
    have quiet := keepsGoing.quiet run
    have balanced := keepsGoing.balanced.of_run run
    rw [along.shared] at quiet
    have turnsAfter : (system.work setup job).TakesTurns :=
      turns.work isCurrent goesOn quiet (along.isAvailable balanced turns isCurrent)
    refine ⟨turnsAfter, 1, _, (run.move move).passes (sameShared ▸ passes), rfl, ?_⟩
    refine List.Perm.trans ?_ left.symm
    change next.threads.Perm _
    rw [leaves]
    exact rest.append_left _
  · have passes := reorders.shared
    rw [← along.shared] at passes
    exact ⟨turns.of_reorders reorders, 0, _, run.passes passes, rfl,
      along.threads.trans reorders.threads.symm⟩

/-- A system that an ensemble goes along with comes to a halt if the ensemble keeps going, and the
ensemble is over then. -/
theorem GoesAlong.exists_halt
    {mayBe : world → Prop}
    {count : Nat}
    (along : ensemble.GoesAlong system)
    (turns : system.TakesTurns)
    (keepsGoing : begin.KeepsGoing setup mayBe)
    (resolves : setup.Resolves)
    (run : Run setup begin count ensemble) :
    ∃ last count next, System.Leads setup system last ∧ last.step? setup = none ∧
      Run setup begin count next ∧ next.shared = last.shared ∧ next.IsOver := by
  induction system using (System.wellFounded_move resolves False).induction
    generalizing count ensemble with
  | _ system inductionHypothesis =>
      cases steps : system.step? setup with
      | none =>
          refine ⟨system, count, ensemble, Relation.ReflTransGen.refl, steps, run, along.shared, ?_⟩
          intro member present isOpen
          have isThread : member.thread? = some member.thread := by
            simp [Member.thread?, isOpen]
          have isOne := along.threads.mem_iff.1 (List.mem_filterMap.2 ⟨member, present, isThread⟩)
          rw [System.threads_eq_nil turns steps] at isOne
          cases isOne
      | some after =>
          obtain ⟨turnsAfter, more, next, runNext, alongNext⟩ :=
            along.step? turns keepsGoing run steps
          obtain ⟨last, countLast, ending, leads, rest⟩ :=
            inductionHypothesis after (System.Move.step steps) alongNext turnsAfter runNext
          exact ⟨last, countLast, ending, Relation.ReflTransGen.head steps leads, rest⟩

/-- The threads of a request are handed what a rehearsal foretells, whatever the order in which they
take their steps: the sessions, the bodies, the rows, and the results of tasks. Sooner or later all
of them have sent their responses, and the tables are those that the rehearsal left. This is so for
the same identifiers from any supply, in quiet times, if the chains that are detached stay apart
from what goes on beside them and read no body but an empty one, and if the rehearsal hands over
what the server would.

Whatever a run draws is such a supply, and so is whatever a rehearsal draws. A server, which lets
the threads take turns, comes to an end with any fuel that is large enough. -/
theorem runs_agree_with_rehearsal
    {stub : Type}
    (files : StaticFiles)
    (line : RequestLine)
    {rehearsal : Rehearsal stub world}
    {request : Request}
    {chain : Chain world}
    {recording : Recording (Pool × stub)}
    {shared : Shared world}
    (token : request.sessionToken? = rehearsal.token)
    (foretold : ∀ supply, (chain.supplied supply).IsForetold rehearsal.standIn rehearsal.token
      rehearsal.mayBe request.body recording)
    (apart : ∀ supply, (chain.supplied supply).KeepsApart rehearsal.standIn recording)
    (rows : ∀ table, shared.pool.rows table = recording.state.1.rows table)
    (quiet : shared.IsQuiet rehearsal.mayBe)
    (noneHeld : shared.pool.held = 0)
    (capacity : 0 < shared.pool.capacity) :
    let setup : Setup world := { files, resolver := Session.resolve, taskTimeoutMillis := none }
    let begin (chain : Chain world) := starting shared { chain, scope := Site.scope request }
    (∀ supply count ensemble, Run setup (begin (chain.supplied supply)) count ensemble →
      ensemble.Agrees rehearsal files { chain := chain.supplied supply, recording } ∧
        (ensemble.IsOver ∨ ∃ after, Move setup ensemble after) ∧
        count ≤ 4 * (chain.supplied supply).stepCount rehearsal.standIn recording + 3) ∧
      (∀ count ensemble, Run setup (begin chain) count ensemble →
        (∃ supply left filled, Run setup (begin (chain.supplied supply)) count filled ∧
          filled.IsFilled (ensemble.members.map (·, left)) ensemble.shared shared.drawn) ∧
        (ensemble.IsOver ∨ ∃ after, Move setup ensemble after)) ∧
      (∃ supply, (chain.supplied supply).capture rehearsal.standIn recording =
        ((chain.capture rehearsal.standIn recording).1,
          { (chain.capture rehearsal.standIn recording).2 with drawn := recording.drawn })) ∧
      ∃ steps, ∀ fuel, steps ≤ fuel →
        let last := (System.start line (Site.scope request) chain shared).run setup fuel
        last.step? setup = none ∧ ∃ count ensemble,
          Run setup (begin chain) count ensemble ∧ ensemble.IsOver ∧
            ensemble.shared = last.shared := by
  intro setup begin
  have drawsNone : setup.DrawsNone := Session.drawsNone_resolve
  have balanced (chain : Chain world) : (begin chain).IsBalanced :=
    IsBalanced.starting noneHeld capacity chain (Site.scope request)
  have underWay (supply : Supply) : ∃ shadows,
      UnderWay rehearsal setup { chain := chain.supplied supply, recording }
          (begin (chain.supplied supply)) shadows ∧
        (shadows.map (Shadow.rank rehearsal)).sum ≤
          4 * (chain.supplied supply).stepCount rehearsal.standIn recording + 3 :=
    ⟨_, UnderWay.starting token rfl (foretold supply) (apart supply) rows quiet, Nat.le_refl _⟩
  have suppliedKeepsGoing (supply : Supply) :
      (begin (chain.supplied supply)).KeepsGoing setup rehearsal.mayBe := by
    obtain ⟨_, underWay, _⟩ := underWay supply
    exact KeepsGoing.of_underWay underWay (balanced _) rfl rfl
  have keepsGoing : (begin chain).KeepsGoing setup rehearsal.mayBe :=
    KeepsGoing.of_supplied drawsNone (balanced chain) suppliedKeepsGoing
  refine ⟨fun supply count ensemble run => ?_, fun count ensemble run => ?_, ?_, ?_⟩
  · obtain ⟨_, underWay, few⟩ := underWay supply
    obtain ⟨_, underWay, done⟩ := underWay.of_run (balanced _) rfl rfl run
    exact ⟨underWay.agrees, (suppliedKeepsGoing supply).isOver_or_exists_move run,
      Nat.le_trans (Nat.le_of_add_right_le done) few⟩
  · obtain ⟨supply, filled, filledRun, isFilled⟩ := run.exists_filled_from drawsNone default
    exact ⟨⟨supply, default, filled, filledRun, isFilled⟩, keepsGoing.isOver_or_exists_move run⟩
  · exact chain.exists_capture_supplied rehearsal.standIn recording recording.drawn
  · have along : (begin chain).GoesAlong (System.start line (Site.scope request) chain shared) :=
      ⟨rfl, List.Perm.refl _⟩
    have turns : (System.start line (Site.scope request) chain shared).TakesTurns :=
      System.TakesTurns.of_isFree (List.forall_mem_singleton.2 rfl) fun _ => rfl
    have resolves : setup.Resolves := Setup.resolves_of_onlyLooksUp Session.onlyLooksUp_resolve
    obtain ⟨last, count, ensemble, leads, halted, run, same, isOver⟩ :=
      along.exists_halt turns keepsGoing resolves Run.refl
    obtain ⟨steps, enough⟩ := leads.run_eq halted
    refine ⟨steps, fun fuel isEnough => ?_⟩
    simp only [enough fuel isEnough]
    exact ⟨halted, count, ensemble, run, isOver, same⟩

/-- A request adds a line with a number that it waits for, and a chain that it detaches adds another
line, both of them with identifiers that they draw. Their threads take turns at the only connection,
step by step or as a server lets them, and when both are done there is a line in each table. -/
theorem rows_of_two_lines :
    let files : StaticFiles := []
    let setup : Setup Unit := { files, resolver := Session.resolve, taskTimeoutMillis := none }
    let line (table : String) (id : Uuid) (number : Int) : Query Unit :=
      { statement :=
          Statement.insert table [("id", Row.ofUuid id), ("number", Json.integer number)]
        parser := fun _ => Except.ok () }
    let count : Task Unit Int :=
      Task.describe "count" "" fun seen => (Completion.after 20 (Except.ok 3), seen)
    let aside : Chain Unit :=
      Chain.withSession fun session => Chain.fresh fun id =>
        Chain.queryOrFail (line "asides" id session.toList.length) fun _ => Chain.finish
    let chain : Chain Unit :=
      Chain.detach aside (Chain.withBody fun body =>
        Chain.awaitOrFail count "Cannot count." fun seen => Chain.fresh fun id =>
          Chain.queryOrFail (line "lines" id (seen + body.length)) fun _ => Chain.finish)
    let request : Request :=
      { method := "POST", target := { path := "/", query := none }, headers := []
        body := some [7] }
    let shared : Shared Unit := { pool := { capacity := 1 }, world := () }
    let isDone (pool : Pool) : Prop :=
      ∃ first second : Uuid,
        pool.rows "asides" = [[("id", Row.ofUuid first), ("number", Json.integer 0)]] ∧
          pool.rows "lines" = [[("id", Row.ofUuid second), ("number", Json.integer 4)]]
    (∃ ensemble,
      Run setup (starting shared { chain, scope := Site.scope request }) 16 ensemble ∧
        ensemble.IsOver ∧ isDone ensemble.shared.pool) ∧
      ∃ steps, ∀ fuel, steps ≤ fuel →
        isDone ((System.start { method := "POST", path := "/" } (Site.scope request) chain
          shared).run setup fuel).shared.pool := by
  intro files setup line count aside chain request shared isDone
  let rehearsal : Rehearsal Unit Unit :=
    { session := none, body := [7], answer := fun _ stub => (Except.ok (Answer.integer 3), stub)
      look := id, token := none, mayBe := fun _ => True }
  let recording : Recording (Pool × Unit) := { state := (shared.pool, ()) }
  have token : request.sessionToken? = none := rfl
  have foretold (supply : Supply) : (chain.supplied supply).IsForetold rehearsal.standIn none
      rehearsal.mayBe request.body recording :=
    ⟨⟨rfl, fun _ _ => rfl, Or.inl rfl, trivial⟩, rfl, fun seen _ => ⟨20, seen, rfl, trivial⟩,
      fun _ _ => rfl, Or.inl rfl, trivial⟩
  have apart (supply : Supply) : (chain.supplied supply).KeepsApart rehearsal.standIn recording :=
    have areApart : Access.AreApart
        (Session.tables.map Access.reads ++ [Access.writes "asides"]) [Access.writes "lines"] := by
      decide +kernel
    ⟨areApart, trivial, trivial⟩
  have quiet : shared.IsQuiet rehearsal.mayBe := ⟨rfl, rfl, by decide, trivial⟩
  obtain ⟨ensemble, run, isOver⟩ : ∃ ensemble,
      Run setup (starting shared { chain, scope := Site.scope request }) 16 ensemble ∧
        decide ensemble.IsOver = true :=
    exists_run_of_any [0, 0, 0, 0, 0, 0, 1, 0, 0, 1, 0, 1, 0, 0, 0, 1] (by decide +kernel)
  have isOver := of_decide_eq_true isOver
  obtain ⟨agree, filledIn, _, steps, halts⟩ :=
    runs_agree_with_rehearsal files { method := "POST", path := "/" } token foretold apart
      (fun _ => rfl) quiet rfl Nat.zero_lt_one
  have areDone {count : Nat} {ensemble : Ensemble Unit}
      (run : Run setup (starting shared { chain, scope := Site.scope request }) count ensemble)
      (isOver : ensemble.IsOver) : isDone ensemble.shared.pool := by
    obtain ⟨supply, left, filled, filledRun, isFilled⟩ := (filledIn count ensemble run).1
    have agrees := (agree supply count filled filledRun).1
    have rows := agrees.rows (isFilled.isOver isOver)
    rw [isFilled.shared] at rows
    exact ⟨_, _, rows "asides", rows "lines"⟩
  refine ⟨⟨ensemble, run, isOver, areDone run isOver⟩, steps, fun fuel isEnough => ?_⟩
  obtain ⟨_, _, last, run, isOver, same⟩ := halts fuel isEnough
  exact same ▸ areDone run isOver

/-- A chain that is detached is handed the body of the request in a rehearsal, and an empty one by a
server. So they do not agree, although no tables are used. -/
theorem not_agrees_of_detached_body :
    let files : StaticFiles := []
    let setup : Setup Unit := { files, resolver := Session.resolve, taskTimeoutMillis := none }
    let aside : Chain Unit :=
      Chain.withBody fun body => Chain.respond (Terminal.binary body Status.ok [])
    let chain : Chain Unit := Chain.detach aside Chain.finish
    let request : Request :=
      { method := "POST", target := { path := "/", query := none }, headers := []
        body := some [104, 105] }
    let shared : Shared Unit := { pool := {}, world := () }
    let rehearsal : Rehearsal Unit Unit :=
      { session := none, body := [104, 105], answer := fun _ stub => (Except.ok Answer.unit, stub)
        look := id, token := request.sessionToken?, mayBe := fun _ => True }
    let start : Point Unit Unit := { chain, recording := { state := (shared.pool, ()) } }
    request.body = some rehearsal.body ∧ shared.IsQuiet rehearsal.mayBe ∧
      start.accesses rehearsal = [] ∧ start.KeepsApart rehearsal ∧
      (start.offspring rehearsal).map Account.terminal =
        [Terminal.binary [104, 105] Status.ok []] ∧
      ∃ ensemble,
        Run setup (starting shared { chain, scope := Site.scope request }) 4 ensemble ∧
          ensemble.members.map (fun member => member.response.map Response.body) =
            [some [], some []] ∧
          ¬ensemble.Agrees rehearsal files start := by
  intro files setup aside chain request shared rehearsal start
  obtain ⟨ensemble, run, sent⟩ : ∃ ensemble,
      Run setup (starting shared { chain, scope := Site.scope request }) 4 ensemble ∧
        decide (ensemble.members.map (fun member => member.response.map Response.body) =
          [some [], some []]) = true :=
    exists_run_of_any [0, 0, 1, 0] (by decide +kernel)
  have sent := of_decide_eq_true sent
  refine ⟨rfl, ⟨rfl, rfl, by decide, trivial⟩, rfl, ⟨by decide, trivial, trivial⟩, rfl, ensemble,
    run, sent, fun agrees => ?_⟩
  have sentNothing {member : Member Unit} (present : member ∈ ensemble.members) :
      member.response.map Response.body = some [] := by
    have isOne : member.response.map Response.body ∈ [some [], some []] :=
      sent ▸ List.mem_map_of_mem present
    simpa using isOne
  have isOver : ensemble.IsOver := by
    intro member present isOpen
    have isSent := sentNothing present
    rw [isOpen] at isSent
    cases isSent
  have isAccount : aside.account rehearsal.standIn start.recording ∈
      chain.account rehearsal.standIn start.recording :: start.offspring rehearsal :=
    List.mem_cons_of_mem _ List.mem_cons_self
  obtain ⟨member, present, follows⟩ := agrees.exists_follows isOver isAccount
  obtain ⟨response, isResponse⟩ := Option.ne_none_iff_exists'.1 (isOver _ present)
  have isSent := sentNothing present
  rw [isResponse, follows.response response isResponse] at isSent
  cases isSent

end Ensemble

end Serve

end Screencast
