import Mathlib.Data.List.Perm.Basic
import Screencast.Proofs.Serve.Thread

/-!
# Ensembles of threads

The threads of a request take their steps in any order. A chain that is detached becomes one more
thread. A thread that waits for a connection goes on when one is available, and a thread that has
sent its response takes no further steps. As every thread returns its connection before it asks for
another one, there is always a thread that can go on.

In a fleet anything may happen between two steps. Here nothing does but that time passes, and the
threads that have sent their responses are kept with them.
-/

namespace Screencast

namespace Serve

variable {world : Type}

/-- A thread, the chain that it was started with, and its response once it has sent one. -/
structure Member (world : Type) where
  source : Chain world
  thread : Thread world
  response : Option Http.Response := none

/-- The threads of a request, in no order, and what they share. -/
structure Ensemble (world : Type) where
  shared : Shared world
  members : List (Member world)

namespace Member

/-- A thread that has just been started. -/
def starting (thread : Thread world) : Member world := { source := thread.chain, thread }

/-- Whether a thread waits for a connection that is not available. -/
def mustWait (member : Member world) (shared : Shared world) : Bool :=
  match member.thread.stage with
  | Stage.waiting => !shared.pool.isAvailable
  | _ => false

/-- The thread, unless it has sent its response. -/
def thread? (member : Member world) : Option (Thread world) :=
  match member.response with
  | none => some member.thread
  | some _ => none

/-- Whether a thread holds a connection. -/
def holdsConnection (member : Member world) : Bool := member.thread.holdsConnection

end Member

namespace Thread.Dealing

variable {thread : Thread world} {pool after : Pool} {progress : Progress world}

/-- The pool keeps count of the connections that a thread gets and returns. -/
theorem held_add
    (dealing : Dealing thread pool progress after)
    (isHeld : thread.holdsConnection = true → 0 < pool.held) :
    after.held + thread.holdsConnection.toNat =
      pool.held + progress.threads.countP holdsConnection := by
  cases dealing with
  | apart hadNone haveNone same =>
      have held : after.held = pool.held := congrArg Pool.Accounts.held same
      have noneHold : progress.threads.countP holdsConnection = 0 :=
        List.countP_eq_zero.2 fun next present => by simp [(haveNone next present).2]
      rw [hadNone, noneHold, held]
      rfl
  | granted atQuery hadNone available accounts =>
      have held : after.held = pool.held + 1 := congrArg Pool.Accounts.held accounts
      rw [hadNone, held]
      rfl
  | executed rows isConnected same =>
      have held : after.held = pool.held := congrArg Pool.Accounts.held same
      have holds : thread.holdsConnection = true := by simp [holdsConnection, isConnected]
      rw [holds, held]
      rfl
  | returned rows rest isAnswered accounts =>
      have held : after.held = pool.held - 1 := congrArg Pool.Accounts.held accounts
      have holds : thread.holdsConnection = true := by simp [holdsConnection, isAnswered]
      have some := isHeld holds
      rw [holds, held]
      change pool.held - 1 + 1 = pool.held + 0
      omega

theorem holdsConnection_of_finished
    {response : Http.Response}
    (dealing : Dealing thread pool (Progress.finished response) after) :
    thread.holdsConnection = false := by
  cases dealing with
  | apart hadNone haveNone same => exact hadNone

/-- No step changes how many connections the pool has. -/
theorem capacity_eq (dealing : Dealing thread pool progress after) :
    after.capacity = pool.capacity := by
  cases dealing with
  | apart _ _ same => exact congrArg Pool.Accounts.capacity same
  | granted _ _ _ accounts => exact congrArg Pool.Accounts.capacity accounts
  | executed _ _ same => exact congrArg Pool.Accounts.capacity same
  | returned _ _ _ accounts => exact congrArg Pool.Accounts.capacity accounts

end Thread.Dealing

namespace Ensemble

variable {setup : Setup world} {ensemble after : Ensemble world} {member : Member world}
  {others : List (Member world)}

/-- What can happen next: a thread goes on, and so does one that it detaches, or it sends its
response. -/
inductive Move (setup : Setup world) : Ensemble world → Ensemble world → Prop
  | goesOn {ensemble : Ensemble world} {member : Member world} {others : List (Member world)}
      {thread : Thread world} {asides : List (Thread world)}
      (isOne : ensemble.members.Perm (member :: others))
      (isOpen : member.response = none)
      (mayGo : member.mustWait ensemble.shared = false)
      (left : (member.thread.step setup ensemble.shared).1.threads = thread :: asides) :
      Move setup ensemble
        { shared := (member.thread.step setup ensemble.shared).2
          members := { member with thread } :: asides.map Member.starting ++ others }
  | ends {ensemble : Ensemble world} {member : Member world} {others : List (Member world)}
      {response : Http.Response}
      (isOne : ensemble.members.Perm (member :: others))
      (isOpen : member.response = none)
      (mayGo : member.mustWait ensemble.shared = false)
      (finished : (member.thread.step setup ensemble.shared).1 = Progress.finished response) :
      Move setup ensemble
        { shared := (member.thread.step setup ensemble.shared).2
          members := { member with response := some response } :: others }

/-- A thread that has just been started is alone at first. -/
def starting (shared : Shared world) (thread : Thread world) : Ensemble world where
  shared := shared
  members := [Member.starting thread]

/-- What an ensemble comes to in so many moves, with any time between them. -/
inductive Run (setup : Setup world) (start : Ensemble world) : (count : Nat) → Ensemble world → Prop
  | refl : Run setup start 0 start
  | move {count : Nat} {ensemble after : Ensemble world}
      (run : Run setup start count ensemble) (move : Move setup ensemble after) :
      Run setup start (count + 1) after
  | passes {count : Nat} {ensemble : Ensemble world} {shared : Shared world}
      (run : Run setup start count ensemble) (passes : ensemble.shared.Passes shared) :
      Run setup start count { ensemble with shared }

/-- The threads that have not sent their responses. -/
def threads (ensemble : Ensemble world) : List (Thread world) :=
  ensemble.members.filterMap Member.thread?

/-- A thread that has not come to a halt can go on, and the threads that are left of it take its
place. -/
theorem Move.exists_of_step
    (isOne : ensemble.members.Perm (member :: others))
    (isOpen : member.response = none)
    (mayGo : member.mustWait ensemble.shared = false)
    (noHalt : (member.thread.step setup ensemble.shared).1 ≠ Progress.stuck) :
    ∃ after, Move setup ensemble after ∧
      after.shared = (member.thread.step setup ensemble.shared).2 ∧
      after.threads = (member.thread.step setup ensemble.shared).1.threads ++
        others.filterMap Member.thread? := by
  have goesOn {thread : Thread world} {asides : List (Thread world)}
      (left : (member.thread.step setup ensemble.shared).1.threads = thread :: asides) :
      ∃ after, Move setup ensemble after ∧
        after.shared = (member.thread.step setup ensemble.shared).2 ∧
        after.threads = (member.thread.step setup ensemble.shared).1.threads ++
          others.filterMap Member.thread? := by
    refine ⟨_, Move.goesOn isOne isOpen mayGo left, rfl, ?_⟩
    have areOpen : (asides.map Member.starting).filterMap Member.thread? = asides := by
      simp [List.filterMap_map, Function.comp_def, Member.starting, Member.thread?]
    rw [left]
    simp [threads, Member.thread?, isOpen, areOpen]
  cases progress : (member.thread.step setup ensemble.shared).1 with
  | moved thread => exact progress ▸ goesOn (by rw [progress]; rfl)
  | split aside rest => exact progress ▸ goesOn (by rw [progress]; rfl)
  | yielded thread => exact progress ▸ goesOn (by rw [progress]; rfl)
  | asleep due thread => exact progress ▸ goesOn (by rw [progress]; rfl)
  | stuck => exact absurd progress noHalt
  | finished response => exact ⟨_, Move.ends isOne isOpen mayGo progress, rfl, rfl⟩

/-- All threads have sent their responses. -/
def IsOver (ensemble : Ensemble world) : Prop :=
  ∀ member ∈ ensemble.members, member.response ≠ none

instance (ensemble : Ensemble world) : Decidable ensemble.IsOver :=
  inferInstanceAs (Decidable (∀ member ∈ ensemble.members, member.response ≠ none))

/-- The move of the thread at an index, which comes to the front, unless it cannot go on. -/
def move? (setup : Setup world) (ensemble : Ensemble world) (index : Nat) :
    Option (Ensemble world) :=
  match ensemble.members[index]? with
  | none => none
  | some member =>
    if member.response.isSome || member.mustWait ensemble.shared then none
    else
      let (progress, shared) := member.thread.step setup ensemble.shared
      let others := ensemble.members.eraseIdx index
      match progress, progress.threads with
      | Progress.finished response, _ =>
        some { shared, members := { member with response := some response } :: others }
      | _, thread :: asides =>
        some { shared, members := { member with thread } :: asides.map Member.starting ++ others }
      | _, [] => none

/-- What can be computed for a thread can happen next. -/
theorem Move.of_move?
    {index : Nat}
    (moves : ensemble.move? setup index = some after) :
    Move setup ensemble after := by
  unfold move? at moves
  split at moves
  next => cases moves
  next member isThere =>
    obtain ⟨isIndex, rfl⟩ := List.getElem?_eq_some_iff.1 isThere
    have isOne : ensemble.members.Perm
        (ensemble.members[index] :: ensemble.members.eraseIdx index) :=
      (List.getElem_cons_eraseIdx_perm isIndex).symm
    split at moves
    next => cases moves
    next mayGo =>
      obtain ⟨isOpen, mayGo⟩ : ensemble.members[index].response = none ∧
          ensemble.members[index].mustWait ensemble.shared = false := by
        simpa using mayGo
      dsimp only at moves
      split at moves
      next _ _ finished => exact Option.some.inj moves ▸ Move.ends isOne isOpen mayGo finished
      next _ _ _ _ left _ => exact Option.some.inj moves ▸ Move.goesOn isOne isOpen mayGo left
      next => cases moves

/-- What can be computed for one thread after another can happen. -/
theorem Run.of_foldlM_move?
    {start : Ensemble world}
    {count : Nat}
    {indices : List Nat}
    (run : Run setup start count ensemble)
    (moves : indices.foldlM (move? setup) ensemble = some after) :
    Run setup start (count + indices.length) after := by
  induction indices generalizing count ensemble with
  | nil => exact Option.some.inj moves ▸ run
  | cons index indices inductionHypothesis =>
      rw [List.foldlM_cons] at moves
      obtain ⟨between, first, rest⟩ := Option.bind_eq_some_iff.1 moves
      rw [List.length_cons, Nat.add_comm indices.length, ← Nat.add_assoc]
      exact inductionHypothesis (run.move (Move.of_move? first)) rest

/-- It can be computed that an ensemble comes to pass a check. -/
theorem exists_run_of_any
    {start : Ensemble world}
    {check : Ensemble world → Bool}
    (indices : List Nat)
    (passes : (indices.foldlM (move? setup) start).any check = true) :
    ∃ ensemble, Run setup start indices.length ensemble ∧ check ensemble = true := by
  obtain ⟨ensemble, moves, passes⟩ := (Option.any_eq_true _ _).1 passes
  have run := Run.of_foldlM_move? Run.refl moves
  rw [Nat.zero_add] at run
  exact ⟨ensemble, run, passes⟩

/-- What holds of the connections of an ensemble at any time. -/
structure IsBalanced (ensemble : Ensemble world) : Prop where
  /-- Nobody is in the middle of something but at a query or a task. -/
  orderly : ∀ member ∈ ensemble.members, member.thread.IsOrderly
  /-- Whoever has sent a response holds no connection. -/
  finished : ∀ member ∈ ensemble.members, member.response ≠ none → member.holdsConnection = false
  /-- The pool knows how many connections are held. -/
  held : ensemble.shared.pool.held = ensemble.members.countP Member.holdsConnection
  /-- The pool has connections. -/
  capacity : 0 < ensemble.shared.pool.capacity

namespace IsBalanced

/-- A thread that has just been started holds no connection, and everything is in balance if nobody
else holds one. -/
theorem starting
    {shared : Shared world}
    (noneHeld : shared.pool.held = 0)
    (capacity : 0 < shared.pool.capacity)
    (chain : Chain world)
    (scope : Scope) :
    (Ensemble.starting shared { chain, scope }).IsBalanced where
  orderly := List.forall_mem_singleton.2 (Thread.IsOrderly.idle rfl)
  finished := List.forall_mem_singleton.2 fun isOver => absurd rfl isOver
  held := noneHeld
  capacity := capacity

/-- Members may take the place of one after a step of its thread, if as many of them hold
connections as of the threads that the step has left. -/
theorem replace
    {arriving : List (Member world)}
    (balanced : ensemble.IsBalanced)
    (isOne : ensemble.members.Perm (member :: others))
    (areOrderly : ∀ next ∈ arriving, next.thread.IsOrderly)
    (finished : ∀ next ∈ arriving, next.response ≠ none → next.holdsConnection = false)
    (sameCount : arriving.countP Member.holdsConnection =
      (member.thread.step setup ensemble.shared).1.threads.countP Thread.holdsConnection) :
    IsBalanced
      { shared := (member.thread.step setup ensemble.shared).2
        members := arriving ++ others } := by
  have present := isOne.mem_iff.2 List.mem_cons_self
  have dealing := member.thread.dealing_step setup ensemble.shared (balanced.orderly _ present)
  constructor
  case orderly =>
    intro next isNext
    rcases List.mem_append.1 isNext with arrived | stayed
    · exact areOrderly next arrived
    · exact balanced.orderly next (isOne.mem_iff.2 (List.mem_cons_of_mem _ stayed))
  case finished =>
    intro next isNext
    rcases List.mem_append.1 isNext with arrived | stayed
    · exact finished next arrived
    · exact balanced.finished next (isOne.mem_iff.2 (List.mem_cons_of_mem _ stayed))
  case held =>
    have isHeld (holds : member.holdsConnection = true) : 0 < ensemble.shared.pool.held := by
      rw [balanced.held]
      exact List.countP_pos_iff.2 ⟨member, present, holds⟩
    have counted := dealing.held_add isHeld
    have before := balanced.held.trans (isOne.countP_eq Member.holdsConnection)
    have alone : (if member.holdsConnection = true then 1 else 0) =
        member.thread.holdsConnection.toNat := by
      unfold Member.holdsConnection
      cases member.thread.holdsConnection <;> rfl
    rw [List.countP_cons, alone] at before
    dsimp only
    rw [List.countP_append, sameCount]
    omega
  case capacity => exact dealing.capacity_eq ▸ balanced.capacity

/-- Every move keeps an ensemble balanced. -/
theorem of_move
    (balanced : ensemble.IsBalanced)
    (move : Move setup ensemble after) :
    after.IsBalanced := by
  cases move with
  | @goesOn member others thread asides isOne isOpen mayGo left =>
      have orderly := balanced.orderly member (isOne.mem_iff.2 List.mem_cons_self)
      have areOrderly :=
        (member.thread.dealing_step setup ensemble.shared orderly).isOrderly orderly
      rw [left] at areOrderly
      obtain ⟨isOrderly, asidesOrderly⟩ := List.forall_mem_cons.1 areOrderly
      apply balanced.replace isOne
      case areOrderly =>
        exact List.forall_mem_cons.2 ⟨isOrderly, List.forall_mem_map.2 asidesOrderly⟩
      case finished =>
        refine List.forall_mem_cons.2 ⟨fun isOver => absurd isOpen isOver, ?_⟩
        exact List.forall_mem_map.2 fun aside _ isOver => absurd rfl isOver
      case sameCount =>
        rw [left, List.countP_cons, List.countP_cons, List.countP_map]
        rfl
  | @ends member others response isOne isOpen mayGo finished =>
      have orderly := balanced.orderly member (isOne.mem_iff.2 List.mem_cons_self)
      have dealing := member.thread.dealing_step setup ensemble.shared orderly
      rw [finished] at dealing
      have holdsNone : member.holdsConnection = false := dealing.holdsConnection_of_finished
      let last : Member world := { member with response := some response }
      have isOrderly : ∀ next ∈ [last], next.thread.IsOrderly :=
        List.forall_mem_singleton.2 orderly
      have noneHold : [last].countP Member.holdsConnection = 0 := by
        rw [List.countP_singleton]
        exact if_neg (Bool.eq_false_iff.1 holdsNone)
      have sameCount : [last].countP Member.holdsConnection =
          (member.thread.step setup ensemble.shared).1.threads.countP Thread.holdsConnection := by
        rw [finished]
        exact noneHold
      exact balanced.replace isOne isOrderly (List.forall_mem_singleton.2 fun _ => holdsNone)
        sameCount

/-- An ensemble stays balanced while time passes. -/
theorem of_passes
    {shared : Shared world}
    (balanced : ensemble.IsBalanced)
    (passes : ensemble.shared.Passes shared) :
    IsBalanced { ensemble with shared } := by
  obtain ⟨clock, journal, rfl⟩ := passes
  exact ⟨balanced.orderly, balanced.finished, balanced.held, balanced.capacity⟩

/-- An ensemble stays balanced, whatever becomes of it. -/
theorem of_run
    {start : Ensemble world}
    {count : Nat}
    (balanced : start.IsBalanced)
    (run : Run setup start count ensemble) :
    ensemble.IsBalanced := by
  induction run with
  | refl => exact balanced
  | move _ move inductionHypothesis => exact inductionHypothesis.of_move move
  | passes _ passes inductionHypothesis => exact inductionHypothesis.of_passes passes

/-- As long as not all threads have sent their responses, one of them can go on, if none of them has
come to a halt. -/
theorem exists_move
    (balanced : ensemble.IsBalanced)
    (notOver : ¬ensemble.IsOver)
    (noHalt : ∀ member ∈ ensemble.members, member.response = none →
      member.mustWait ensemble.shared = false →
        (member.thread.step setup ensemble.shared).1 ≠ Progress.stuck) :
    ∃ after, Move setup ensemble after := by
  have goes {member : Member world} (present : member ∈ ensemble.members)
      (isOpen : member.response = none) (mayGo : member.mustWait ensemble.shared = false) :
      ∃ after, Move setup ensemble after := by
    obtain ⟨before, after, parts⟩ := List.append_of_mem present
    have isOne : ensemble.members.Perm (member :: (before ++ after)) :=
      parts ▸ List.perm_middle
    obtain ⟨after, move, _⟩ :=
      Move.exists_of_step isOne isOpen mayGo (noHalt member present isOpen mayGo)
    exact ⟨after, move⟩
  obtain ⟨member, present, isOpen⟩ : ∃ member ∈ ensemble.members, member.response = none := by
    simpa [IsOver] using notOver
  cases waits : member.mustWait ensemble.shared with
  | false => exact goes present isOpen waits
  | true =>
      -- All connections are held, and whoever holds one can go on.
      have allHeld : ensemble.shared.pool.capacity ≤ ensemble.shared.pool.held := by
        unfold Member.mustWait at waits
        split at waits
        · simpa [Pool.isAvailable] using waits
        · cases waits
      have someHeld := Nat.lt_of_lt_of_le balanced.capacity allHeld
      rw [balanced.held, List.countP_pos_iff] at someHeld
      obtain ⟨holder, isHolder, holds⟩ := someHeld
      refine goes isHolder ?_ ?_
      · refine Decidable.byContradiction fun isOver => ?_
        rw [balanced.finished holder isHolder isOver] at holds
        cases holds
      · unfold Member.holdsConnection Thread.holdsConnection at holds
        unfold Member.mustWait
        cases stage : holder.thread.stage with
        | waiting => simp [stage] at holds
        | idle | connected | answered | settled => rfl

end IsBalanced

end Ensemble

end Serve

end Screencast
