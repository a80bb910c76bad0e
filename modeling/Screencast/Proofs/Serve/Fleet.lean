import Mathlib.Logic.Relation
import Screencast.Proofs.Serve.Thread

/-!
# Fleets of threads

Any number of threads share a pool. They take their steps in any order, and threads may arrive and
be given up at any point; faults, the clock, the world and the tables may change between any two
steps. The connections of the pool are numbered in the order in which they are handed out, so that
one can say of each of them who has it and how often it was returned.
-/

namespace Screencast

namespace Serve

/-- A thread, with the numbers of the connections that it has got and not returned. -/
structure Runner (world : Type) where
  thread : Thread world
  connections : List Nat := []

/-- Threads that run at the same time, in no order, what they share, and the numbers of the
connections that were returned, in the order in which they were. -/
structure Fleet (world : Type) where
  shared : Shared world
  runners : List (Runner world) := []
  returned : List Nat := []

variable {world : Type}

namespace Runner

/-- The threads that are left of one. The first of them has its connections. -/
def ofThreads (connections : List Nat) : List (Thread world) → List (Runner world)
  | [] => []
  | thread :: rest => { thread, connections } :: rest.map fun thread => { thread }

@[simp] theorem map_thread_ofThreads (connections : List Nat) (threads : List (Thread world)) :
    (ofThreads connections threads).map thread = threads := by
  cases threads with
  | nil => rfl
  | cons thread rest => simp [ofThreads, Function.comp_def]

/-- Threads that are left of one without connections have none. -/
theorem connections_of_mem_ofThreads_nil
    {threads : List (Thread world)}
    {runner : Runner world}
    (present : runner ∈ ofThreads [] threads) :
    runner.connections = [] ∧ runner.thread ∈ threads := by
  cases threads with
  | nil => cases present
  | cons thread rest =>
      rcases List.mem_cons.1 present with rfl | present
      · exact ⟨rfl, List.mem_cons_self⟩
      · obtain ⟨other, inRest, rfl⟩ := List.mem_map.1 present
        exact ⟨rfl, List.mem_cons_of_mem _ inRest⟩

end Runner

namespace Fleet

/-- The numbers of the connections that the threads have. -/
def connections (fleet : Fleet world) : List Nat := fleet.runners.flatMap Runner.connections

/-- A fleet in which one thread has given way to what is left of it, next to the others. What the
pool has handed out and taken back in the meantime is read off its counters. -/
def replace (fleet : Fleet world) (runner : Runner world) (others : List (Runner world))
    (left : List (Thread world)) (shared : Shared world) : Fleet world :=
  let before := fleet.shared.pool
  let after := shared.pool
  let handedOut := List.range' (before.acquired + 1) (after.acquired - before.acquired)
  let count := after.released - before.released
  { shared
    runners := Runner.ofThreads (handedOut ++ runner.connections.drop count) left ++ others
    returned := fleet.returned ++ runner.connections.take count }

/-- One thread takes a step. -/
def work (setup : Setup world) (fleet : Fleet world) (runner : Runner world)
    (others : List (Runner world)) : Fleet world :=
  let (progress, shared) := runner.thread.step setup fleet.shared
  fleet.replace runner others progress.threads shared

/-- One thread is given up. -/
def giveUp (fleet : Fleet world) (runner : Runner world) (others : List (Runner world)) :
    Fleet world :=
  fleet.replace runner others [] (runner.thread.abandon fleet.shared)

/-- What can happen next in a fleet. -/
inductive Move (setup : Setup world) : Fleet world → Fleet world → Prop
  /-- A thread arrives, with any chain. -/
  | arrive (fleet : Fleet world) (chain : Chain world) (scope : Scope) :
      Move setup fleet
        { fleet with runners := { thread := { chain, scope } } :: fleet.runners }
  /-- A thread takes a step. -/
  | work {fleet : Fleet world} {runner : Runner world} {others : List (Runner world)}
      (isRunning : fleet.runners.Perm (runner :: others)) :
      Move setup fleet (fleet.work setup runner others)
  /-- A thread is given up. -/
  | giveUp {fleet : Fleet world} {runner : Runner world} {others : List (Runner world)}
      (isRunning : fleet.runners.Perm (runner :: others)) :
      Move setup fleet (fleet.giveUp runner others)
  /-- A thread has waited for a connection long enough, even if somebody returns one. -/
  | expire {fleet : Fleet world} {runner : Runner world} {others : List (Runner world)}
      {result : Type} {owed : List Cleanup} {issued : Query result}
      {next : Except QueryError result → Chain world}
      (isRunning : fleet.runners.Perm (runner :: others))
      (waits : runner.thread.stage = Stage.waiting)
      (asks : runner.thread.chain = Chain.query owed issued next) :
      Move setup fleet
        (fleet.replace runner others
          (runner.thread.goOn (next (Except.error fleet.shared.pool.acquireTimeout))).threads
          fleet.shared)
  /-- Something that is shared changes: a fault is queued, time passes, or somebody who needs no
  connection writes to the tables or acts in the world. -/
  | disturb {fleet : Fleet world} {shared : Shared world}
      (same : shared.pool.accounts = fleet.shared.pool.accounts) :
      Move setup fleet { fleet with shared }

/-- What holds of the connections of a fleet at any time. -/
structure IsBalanced (fleet : Fleet world) : Prop where
  /-- Every connection that was handed out was returned once, or is held by one thread. -/
  numbered :
    (fleet.returned ++ fleet.connections).Perm (List.range' 1 fleet.shared.pool.acquired)
  /-- The pool has counted what was returned. -/
  counted : fleet.returned.length = fleet.shared.pool.released
  /-- The pool knows how many connections are in use. -/
  held : fleet.connections.length = fleet.shared.pool.held
  /-- There are never more in use than the pool has. -/
  bounded : fleet.shared.pool.held ≤ fleet.shared.pool.capacity
  /-- Nobody is in the middle of something but at a query or a task. -/
  orderly : ∀ runner ∈ fleet.runners, runner.thread.IsOrderly
  /-- A thread has one connection while it runs a statement, and none at any other time. -/
  single : ∀ runner ∈ fleet.runners,
    runner.connections.length = runner.thread.holdsConnection.toNat

variable {setup : Setup world} {fleet : Fleet world} {runner : Runner world}
  {others : List (Runner world)} {left : List (Thread world)} {shared : Shared world}

/-! ## Replacing a thread -/

/-- If the pool has the same accounts, connections stay where they are. -/
theorem replace_of_same
    (same : shared.pool.accounts = fleet.shared.pool.accounts) :
    fleet.replace runner others left shared =
      { shared
        runners := Runner.ofThreads runner.connections left ++ others
        returned := fleet.returned } := by
  have acquired : shared.pool.acquired = fleet.shared.pool.acquired :=
    congrArg Pool.Accounts.acquired same
  have released : shared.pool.released = fleet.shared.pool.released :=
    congrArg Pool.Accounts.released same
  simp [replace, acquired, released]

/-- If the pool has handed out a connection, it has the next number. -/
theorem replace_of_grant
    (granted : shared.pool.accounts = fleet.shared.pool.accounts.grant) :
    fleet.replace runner others left shared =
      { shared
        runners :=
          Runner.ofThreads ((fleet.shared.pool.acquired + 1) :: runner.connections) left ++ others
        returned := fleet.returned } := by
  have acquired : shared.pool.acquired = fleet.shared.pool.acquired + 1 :=
    congrArg Pool.Accounts.acquired granted
  have released : shared.pool.released = fleet.shared.pool.released :=
    congrArg Pool.Accounts.released granted
  simp [replace, acquired, released]

/-- If the pool has taken back a connection, it is the one that the thread had. -/
theorem replace_of_release
    {number : Nat}
    (had : runner.connections = [number])
    (released : shared.pool.accounts = fleet.shared.pool.accounts.release) :
    fleet.replace runner others left shared =
      { shared
        runners := Runner.ofThreads [] left ++ others
        returned := fleet.returned ++ [number] } := by
  have acquired : shared.pool.acquired = fleet.shared.pool.acquired :=
    congrArg Pool.Accounts.acquired released
  have counted : shared.pool.released = fleet.shared.pool.released + 1 :=
    congrArg Pool.Accounts.released released
  simp [replace, acquired, counted, had]

/-! ## What a move preserves -/

namespace IsBalanced

/-- A thread that holds no connection has none. -/
theorem connections_eq_nil
    (balanced : fleet.IsBalanced)
    (present : runner ∈ fleet.runners)
    (hasNone : runner.thread.holdsConnection = false) :
    runner.connections = [] := by
  have single := balanced.single runner present
  rw [hasNone] at single
  exact List.eq_nil_of_length_eq_zero single

/-- A thread that holds a connection has exactly one. -/
theorem connections_eq_singleton
    (balanced : fleet.IsBalanced)
    (present : runner ∈ fleet.runners)
    (holds : runner.thread.holdsConnection = true) :
    ∃ number, runner.connections = [number] := by
  have single := balanced.single runner present
  rw [holds] at single
  exact List.length_eq_one_iff.1 single

/-- A change that leaves the accounts alone keeps a fleet balanced. -/
theorem disturb
    (balanced : fleet.IsBalanced)
    (same : shared.pool.accounts = fleet.shared.pool.accounts) :
    IsBalanced { fleet with shared } where
  numbered := by
    rw [show shared.pool.acquired = fleet.shared.pool.acquired from
      congrArg Pool.Accounts.acquired same]
    exact balanced.numbered
  counted := balanced.counted.trans (congrArg Pool.Accounts.released same).symm
  held := balanced.held.trans (congrArg Pool.Accounts.held same).symm
  bounded := by
    rw [show shared.pool.held = fleet.shared.pool.held from congrArg Pool.Accounts.held same,
      show shared.pool.capacity = fleet.shared.pool.capacity from
        congrArg Pool.Accounts.capacity same]
    exact balanced.bounded
  orderly := balanced.orderly
  single := balanced.single

/-- Threads may take the place of one if what they have and what was returned is what it had and
what was handed out, and if the pool keeps count. -/
theorem exchange
    {arriving : List (Runner world)}
    {back : List Nat}
    (balanced : fleet.IsBalanced)
    (isRunning : fleet.runners.Perm (runner :: others))
    (onward : fleet.shared.pool.acquired ≤ shared.pool.acquired)
    (numbers : (back ++ arriving.flatMap Runner.connections).Perm
      (runner.connections ++ List.range' (fleet.shared.pool.acquired + 1)
        (shared.pool.acquired - fleet.shared.pool.acquired)))
    (counted : shared.pool.released = fleet.shared.pool.released + back.length)
    (held : shared.pool.held + runner.connections.length =
      fleet.shared.pool.held + (arriving.flatMap Runner.connections).length)
    (bounded : shared.pool.held ≤ shared.pool.capacity)
    (orderly : ∀ next ∈ arriving, next.thread.IsOrderly)
    (single : ∀ next ∈ arriving,
      next.connections.length = next.thread.holdsConnection.toNat) :
    IsBalanced { shared, runners := arriving ++ others, returned := fleet.returned ++ back } := by
  have before : fleet.connections.Perm
      (runner.connections ++ others.flatMap Runner.connections) := by
    simpa [connections] using isRunning.flatMap_right Runner.connections
  have after : (arriving ++ others).flatMap Runner.connections =
      arriving.flatMap Runner.connections ++ others.flatMap Runner.connections :=
    List.flatMap_append
  constructor
  case numbered =>
    have handedOut : List.range' 1 shared.pool.acquired =
        List.range' 1 fleet.shared.pool.acquired ++ List.range' (fleet.shared.pool.acquired + 1)
          (shared.pool.acquired - fleet.shared.pool.acquired) := by
      rw [Nat.add_comm fleet.shared.pool.acquired 1, List.range'_append_1]
      congr 1
      omega
    dsimp only [connections]
    rw [after, handedOut]
    -- Both sides hold the same numbers equally often.
    refine List.perm_iff_count.2 fun number => ?_
    have ofNumbers := numbers.count_eq number
    have ofBalanced := balanced.numbered.count_eq number
    have ofBefore := before.count_eq number
    simp only [List.count_append] at ofNumbers ofBalanced ofBefore ⊢
    omega
  case counted => simp [balanced.counted, counted]
  case held =>
    have inUse := balanced.held
    rw [before.length_eq] at inUse
    dsimp only [connections]
    rw [after]
    simp only [List.length_append] at inUse ⊢
    omega
  case bounded => exact bounded
  case orderly =>
    intro next present
    rcases List.mem_append.1 present with arrived | stayed
    · exact orderly next arrived
    · exact balanced.orderly next (isRunning.mem_iff.2 (List.mem_cons_of_mem _ stayed))
  case single =>
    intro next present
    rcases List.mem_append.1 present with arrived | stayed
    · exact single next arrived
    · exact balanced.single next (isRunning.mem_iff.2 (List.mem_cons_of_mem _ stayed))

/-- A thread without a connection may give way to threads without connections. -/
theorem replace_apart
    (balanced : fleet.IsBalanced)
    (isRunning : fleet.runners.Perm (runner :: others))
    (hadNone : runner.thread.holdsConnection = false)
    (haveNone : ∀ next ∈ left, next.IsOrderly ∧ next.holdsConnection = false)
    (same : shared.pool.accounts = fleet.shared.pool.accounts) :
    (fleet.replace runner others left shared).IsBalanced := by
  have empty := balanced.connections_eq_nil (isRunning.mem_iff.2 List.mem_cons_self) hadNone
  have acquired : shared.pool.acquired = fleet.shared.pool.acquired :=
    congrArg Pool.Accounts.acquired same
  have held : shared.pool.held = fleet.shared.pool.held := congrArg Pool.Accounts.held same
  have arriveEmpty : (Runner.ofThreads [] left).flatMap Runner.connections = [] :=
    List.flatMap_eq_nil_iff.2 fun _ present => (Runner.connections_of_mem_ofThreads_nil present).1
  rw [replace_of_same same, empty, ← List.append_nil fleet.returned]
  apply balanced.exchange isRunning
  case onward => exact Nat.le_of_eq acquired.symm
  case numbers => simp [arriveEmpty, empty, acquired]
  case counted => exact congrArg Pool.Accounts.released same
  case held => simp [arriveEmpty, empty, held]
  case bounded =>
    have capacity : shared.pool.capacity = fleet.shared.pool.capacity :=
      congrArg Pool.Accounts.capacity same
    exact held ▸ capacity ▸ balanced.bounded
  case orderly =>
    intro next present
    exact (haveNone _ (Runner.connections_of_mem_ofThreads_nil present).2).1
  case single =>
    intro next present
    obtain ⟨isEmpty, inLeft⟩ := Runner.connections_of_mem_ofThreads_nil present
    simp [isEmpty, (haveNone _ inLeft).2]

/-- A thread may get a connection that is available. -/
theorem replace_granted
    {next : Thread world}
    (balanced : fleet.IsBalanced)
    (isRunning : fleet.runners.Perm (runner :: others))
    (hadNone : runner.thread.holdsConnection = false)
    (available : fleet.shared.pool.held < fleet.shared.pool.capacity)
    (orderly : next.IsOrderly)
    (holds : next.holdsConnection = true)
    (granted : shared.pool.accounts = fleet.shared.pool.accounts.grant) :
    (fleet.replace runner others [next] shared).IsBalanced := by
  have empty := balanced.connections_eq_nil (isRunning.mem_iff.2 List.mem_cons_self) hadNone
  have acquired : shared.pool.acquired = fleet.shared.pool.acquired + 1 :=
    congrArg Pool.Accounts.acquired granted
  have held : shared.pool.held = fleet.shared.pool.held + 1 :=
    congrArg Pool.Accounts.held granted
  have capacity : shared.pool.capacity = fleet.shared.pool.capacity :=
    congrArg Pool.Accounts.capacity granted
  rw [replace_of_grant granted, empty, ← List.append_nil fleet.returned]
  apply balanced.exchange isRunning
  case onward => omega
  case numbers => simp [Runner.ofThreads, empty, acquired]
  case counted => exact congrArg Pool.Accounts.released granted
  case held => simp [Runner.ofThreads, empty, held]
  case bounded => omega
  case orderly => simpa [Runner.ofThreads] using orderly
  case single => simp [Runner.ofThreads, holds]

/-- A thread may keep its connection. -/
theorem replace_kept
    {next : Thread world}
    (balanced : fleet.IsBalanced)
    (isRunning : fleet.runners.Perm (runner :: others))
    (orderly : next.IsOrderly)
    (holds : next.holdsConnection = runner.thread.holdsConnection)
    (same : shared.pool.accounts = fleet.shared.pool.accounts) :
    (fleet.replace runner others [next] shared).IsBalanced := by
  have acquired : shared.pool.acquired = fleet.shared.pool.acquired :=
    congrArg Pool.Accounts.acquired same
  have held : shared.pool.held = fleet.shared.pool.held := congrArg Pool.Accounts.held same
  have capacity : shared.pool.capacity = fleet.shared.pool.capacity :=
    congrArg Pool.Accounts.capacity same
  have bounded := balanced.bounded
  have single := balanced.single runner (isRunning.mem_iff.2 List.mem_cons_self)
  rw [replace_of_same same, ← List.append_nil fleet.returned]
  apply balanced.exchange isRunning
  case onward => omega
  case numbers => simp [Runner.ofThreads, acquired]
  case counted => exact congrArg Pool.Accounts.released same
  case held => simp [Runner.ofThreads, held]
  case bounded => omega
  case orderly => simpa [Runner.ofThreads] using orderly
  case single => simpa [Runner.ofThreads, holds] using single

/-- A thread that holds a connection may return it and give way to threads without connections. -/
theorem replace_returned
    (balanced : fleet.IsBalanced)
    (isRunning : fleet.runners.Perm (runner :: others))
    (holds : runner.thread.holdsConnection = true)
    (haveNone : ∀ next ∈ left, next.IsOrderly ∧ next.holdsConnection = false)
    (released : shared.pool.accounts = fleet.shared.pool.accounts.release) :
    (fleet.replace runner others left shared).IsBalanced := by
  have present : runner ∈ fleet.runners := isRunning.mem_iff.2 List.mem_cons_self
  obtain ⟨number, had⟩ := balanced.connections_eq_singleton present holds
  have acquired : shared.pool.acquired = fleet.shared.pool.acquired :=
    congrArg Pool.Accounts.acquired released
  have held : shared.pool.held = fleet.shared.pool.held - 1 :=
    congrArg Pool.Accounts.held released
  have capacity : shared.pool.capacity = fleet.shared.pool.capacity :=
    congrArg Pool.Accounts.capacity released
  have bounded := balanced.bounded
  have inUse : 0 < fleet.shared.pool.held := by
    rw [← balanced.held]
    exact List.length_pos_of_mem
      (List.mem_flatMap.2 ⟨runner, present, had ▸ List.mem_singleton_self number⟩)
  have arriveEmpty : (Runner.ofThreads [] left).flatMap Runner.connections = [] :=
    List.flatMap_eq_nil_iff.2 fun _ arrived => (Runner.connections_of_mem_ofThreads_nil arrived).1
  rw [replace_of_release had released]
  apply balanced.exchange isRunning
  case onward => omega
  case numbers => simp [arriveEmpty, had, acquired]
  case counted => exact congrArg Pool.Accounts.released released
  case held =>
    simp only [arriveEmpty, had, List.length_singleton, List.length_nil]
    omega
  case bounded => omega
  case orderly =>
    intro next arrived
    exact (haveNone _ (Runner.connections_of_mem_ofThreads_nil arrived).2).1
  case single =>
    intro next arrived
    obtain ⟨isEmpty, inLeft⟩ := Runner.connections_of_mem_ofThreads_nil arrived
    simp [isEmpty, (haveNone _ inLeft).2]

/-- A step of a thread keeps a fleet balanced. -/
theorem work
    (balanced : fleet.IsBalanced)
    (isRunning : fleet.runners.Perm (runner :: others)) :
    (fleet.work setup runner others).IsBalanced := by
  have orderly := balanced.orderly runner (isRunning.mem_iff.2 List.mem_cons_self)
  have dealing := runner.thread.dealing_step setup fleet.shared orderly
  have areOrderly := dealing.isOrderly orderly
  unfold Fleet.work
  generalize runner.thread.step setup fleet.shared = after at dealing areOrderly ⊢
  obtain ⟨progress, shared⟩ := after
  dsimp only at dealing areOrderly ⊢
  cases dealing with
  | apart hadNone haveNone same => exact balanced.replace_apart isRunning hadNone haveNone same
  | granted atQuery hadNone available granted =>
      exact balanced.replace_granted isRunning hadNone available
        (areOrderly _ List.mem_cons_self) rfl granted
  | executed rows isConnected same =>
      exact balanced.replace_kept isRunning (areOrderly _ List.mem_cons_self)
        (by simp [Thread.holdsConnection, isConnected]) same
  | returned rows rest isAnswered released =>
      exact balanced.replace_returned isRunning (by simp [Thread.holdsConnection, isAnswered])
        (List.forall_mem_singleton.2 ⟨Thread.IsOrderly.idle rfl, rfl⟩) released

/-- Giving a thread up keeps a fleet balanced, wherever the thread is. -/
theorem giveUp
    (balanced : fleet.IsBalanced)
    (isRunning : fleet.runners.Perm (runner :: others)) :
    (fleet.giveUp runner others).IsBalanced := by
  have accounts := runner.thread.accounts_abandon fleet.shared
  cases holds : runner.thread.holdsConnection with
  | true =>
      rw [holds, if_pos rfl] at accounts
      exact balanced.replace_returned isRunning holds (by simp) accounts
  | false =>
      rw [holds, if_neg Bool.false_ne_true] at accounts
      exact balanced.replace_apart isRunning holds (by simp) accounts

/-- Every move keeps a fleet balanced. -/
theorem of_move
    {after : Fleet world}
    (balanced : fleet.IsBalanced)
    (move : Move setup fleet after) :
    after.IsBalanced := by
  cases move with
  | arrive chain scope =>
      constructor
      case numbered => exact balanced.numbered
      case counted => exact balanced.counted
      case held => exact balanced.held
      case bounded => exact balanced.bounded
      case orderly =>
        exact List.forall_mem_cons.2 ⟨Thread.IsOrderly.idle rfl, balanced.orderly⟩
      case single => exact List.forall_mem_cons.2 ⟨rfl, balanced.single⟩
  | work isRunning => exact balanced.work isRunning
  | giveUp isRunning => exact balanced.giveUp isRunning
  | expire isRunning waits asks =>
      exact balanced.replace_apart isRunning (by simp [Thread.holdsConnection, waits])
        (List.forall_mem_singleton.2 ⟨Thread.IsOrderly.idle rfl, rfl⟩) rfl
  | disturb same => exact balanced.disturb same

/-- In every run of a pool that nobody has used before, the fleet stays balanced. -/
theorem of_run
    {capacity : Nat}
    (unused : shared.pool.accounts = { capacity, held := 0, acquired := 0, released := 0 })
    (run : Relation.ReflTransGen (Move setup) { shared } fleet) :
    fleet.IsBalanced := by
  induction run with
  | refl =>
      have acquired : shared.pool.acquired = 0 := congrArg Pool.Accounts.acquired unused
      have released : shared.pool.released = 0 := congrArg Pool.Accounts.released unused
      have held : shared.pool.held = 0 := congrArg Pool.Accounts.held unused
      constructor
      case numbered => simp [connections, acquired]
      case counted => simp [released]
      case held => simp [connections, held]
      case bounded => simp [held]
      case orderly => simp
      case single => simp
  | tail _ move inductionHypothesis => exact inductionHypothesis.of_move move

/-- When nobody is inside a query, everything that was acquired was released. -/
theorem all_released
    (balanced : fleet.IsBalanced)
    (outside : ∀ runner ∈ fleet.runners, runner.thread.isInQuery = false) :
    fleet.shared.pool.acquired = fleet.shared.pool.released ∧ fleet.shared.pool.held = 0 := by
  have nobodyHolds : fleet.connections = [] := by
    refine List.flatMap_eq_nil_iff.2 fun runner present => ?_
    refine balanced.connections_eq_nil present ?_
    cases holds : runner.thread.holdsConnection with
    | false => rfl
    | true =>
        have inside := Thread.isInQuery_of_holdsConnection (balanced.orderly runner present) holds
        rw [outside runner present] at inside
        cases inside
  have allReturned := balanced.numbered.length_eq
  have counted := balanced.counted
  have held := balanced.held
  simp only [nobodyHolds, List.append_nil, List.length_range', List.length_nil] at allReturned held
  omega

end IsBalanced

/-! ## Where a connection goes -/

/-- A thread that is given up returns what it has. -/
theorem returned_giveUp
    (balanced : fleet.IsBalanced)
    (isRunning : fleet.runners.Perm (runner :: others)) :
    (fleet.giveUp runner others).returned = fleet.returned ++ runner.connections := by
  have present := isRunning.mem_iff.2 List.mem_cons_self
  have accounts := runner.thread.accounts_abandon fleet.shared
  unfold giveUp
  cases holds : runner.thread.holdsConnection with
  | true =>
      obtain ⟨number, had⟩ := balanced.connections_eq_singleton present holds
      rw [holds, if_pos rfl] at accounts
      rw [replace_of_release had accounts, had]
  | false =>
      rw [holds, if_neg Bool.false_ne_true] at accounts
      rw [replace_of_same accounts, balanced.connections_eq_nil present holds, List.append_nil]

/-- A thread that has got its connection runs its statement, and keeps the connection. -/
theorem work_of_connected
    (setup : Setup world)
    (balanced : fleet.IsBalanced)
    (isRunning : fleet.runners.Perm (runner :: others))
    (isConnected : runner.thread.stage = Stage.connected) :
    ∃ rows,
      (fleet.work setup runner others).runners =
          { runner with thread := { runner.thread with stage := Stage.answered rows } } :: others ∧
        (fleet.work setup runner others).returned = fleet.returned := by
  have present := isRunning.mem_iff.2 List.mem_cons_self
  have dealing := runner.thread.dealing_step setup fleet.shared (balanced.orderly runner present)
  unfold work
  generalize runner.thread.step setup fleet.shared = after at dealing ⊢
  obtain ⟨progress, shared⟩ := after
  dsimp only at dealing ⊢
  cases dealing with
  | apart hadNone _ _ => simp [Thread.holdsConnection, isConnected] at hadNone
  | granted _ hadNone _ _ => simp [Thread.holdsConnection, isConnected] at hadNone
  | executed rows _ same =>
      rw [replace_of_same same]
      exact ⟨rows, rfl, rfl⟩
  | returned _ _ isAnswered _ => cases isConnected.symm.trans isAnswered

/-- A thread returns its connection when the rows of its statement are there. -/
theorem returned_work_of_answered
    {rows : Except QueryError (List Row)}
    (setup : Setup world)
    (balanced : fleet.IsBalanced)
    (isRunning : fleet.runners.Perm (runner :: others))
    (isAnswered : runner.thread.stage = Stage.answered rows) :
    (fleet.work setup runner others).returned = fleet.returned ++ runner.connections := by
  have present := isRunning.mem_iff.2 List.mem_cons_self
  have holds : runner.thread.holdsConnection = true := by simp [Thread.holdsConnection, isAnswered]
  have dealing := runner.thread.dealing_step setup fleet.shared (balanced.orderly runner present)
  unfold work
  generalize runner.thread.step setup fleet.shared = after at dealing ⊢
  obtain ⟨progress, shared⟩ := after
  dsimp only at dealing ⊢
  cases dealing with
  | apart hadNone _ _ => cases holds.symm.trans hadNone
  | granted _ hadNone _ _ => cases holds.symm.trans hadNone
  | executed _ isConnected _ => cases isConnected.symm.trans isAnswered
  | returned _ _ _ released =>
      obtain ⟨number, had⟩ := balanced.connections_eq_singleton present holds
      rw [replace_of_release had released, had]

/-- A thread without a connection returns none when it takes a step. -/
theorem returned_work
    (balanced : fleet.IsBalanced)
    (isRunning : fleet.runners.Perm (runner :: others))
    (hasNone : runner.thread.holdsConnection = false) :
    (fleet.work setup runner others).returned = fleet.returned := by
  have present := isRunning.mem_iff.2 List.mem_cons_self
  have dealing := runner.thread.dealing_step setup fleet.shared (balanced.orderly runner present)
  unfold work
  generalize runner.thread.step setup fleet.shared = after at dealing ⊢
  obtain ⟨progress, shared⟩ := after
  dsimp only at dealing ⊢
  cases dealing with
  | apart _ _ same => rw [replace_of_same same]
  | granted _ _ _ granted => rw [replace_of_grant granted]
  | executed _ isConnected _ => simp [Thread.holdsConnection, isConnected] at hasNone
  | returned _ _ isAnswered _ => simp [Thread.holdsConnection, isAnswered] at hasNone

/-- A thread that has a connection is where it was, or the rows of its statement are there by
now. -/
def IsFurther (before after : Thread world) : Prop :=
  after = before ∨
    before.stage = Stage.connected ∧ ∃ rows, after = { before with stage := Stage.answered rows }

/-- There is nowhere further to come than to the rows. -/
theorem IsFurther.trans
    {before between after : Thread world}
    (first : IsFurther before between)
    (second : IsFurther between after) :
    IsFurther before after := by
  rcases second with rfl | ⟨isConnected, rows, rfl⟩
  · exact first
  · rcases first with rfl | ⟨_, rows, rfl⟩
    · exact Or.inr ⟨isConnected, _, rfl⟩
    · cases isConnected

/-- Where the connections of a thread are later: they were returned, or the thread still has them
and runs its statement. -/
def Keeps (later : Fleet world) (runner : Runner world) : Prop :=
  runner.connections ⊆ later.returned ∨
    ∃ same ∈ later.runners,
      same.connections = runner.connections ∧ IsFurther runner.thread same.thread

theorem Keeps.of_mem
    {later : Fleet world}
    (present : runner ∈ later.runners) :
    later.Keeps runner :=
  Or.inr ⟨runner, present, rfl, Or.inl rfl⟩

/-- A thread holds a connection from when it has got it until it has returned it. -/
theorem holdsConnection_iff (thread : Thread world) :
    thread.holdsConnection = true ↔
      thread.stage = Stage.connected ∨ ∃ rows, thread.stage = Stage.answered rows := by
  unfold Thread.holdsConnection
  cases thread.stage <;> simp

/-- A thread that takes a step keeps its connection or returns it. -/
theorem keeps_work
    (setup : Setup world)
    (balanced : fleet.IsBalanced)
    (isRunning : fleet.runners.Perm (runner :: others)) :
    fleet.returned <+: (fleet.work setup runner others).returned ∧
      (fleet.work setup runner others).Keeps runner := by
  cases holds : runner.thread.holdsConnection with
  | false =>
      have empty := balanced.connections_eq_nil (isRunning.mem_iff.2 List.mem_cons_self) holds
      rw [returned_work balanced isRunning holds]
      exact ⟨List.prefix_rfl, Or.inl (empty ▸ List.nil_subset _)⟩
  | true =>
      rcases (holdsConnection_iff _).1 holds with isConnected | ⟨rows, isAnswered⟩
      · obtain ⟨rows, runners, returned⟩ := work_of_connected setup balanced isRunning isConnected
        have stays : { runner with thread := { runner.thread with stage := Stage.answered rows } } ∈
            (fleet.work setup runner others).runners := by
          rw [runners]
          exact List.mem_cons_self
        exact ⟨returned ▸ List.prefix_rfl,
          Or.inr ⟨_, stays, rfl, Or.inr ⟨isConnected, rows, rfl⟩⟩⟩
      · rw [Keeps, returned_work_of_answered setup balanced isRunning isAnswered]
        exact ⟨List.prefix_append _ _, Or.inl (List.subset_append_right _ _)⟩

/-- Whatever happens next, no connection is lost, and none is held any longer when the thread goes
on with its chain. -/
theorem keeps_of_move
    {after : Fleet world}
    (balanced : fleet.IsBalanced)
    (move : Move setup fleet after) :
    fleet.returned <+: after.returned ∧ ∀ runner ∈ fleet.runners, after.Keeps runner := by
  cases move with
  | arrive chain scope =>
      exact ⟨List.prefix_rfl, fun _ present => Keeps.of_mem (List.mem_cons_of_mem _ present)⟩
  | work isRunning =>
      obtain ⟨grows, keeps⟩ := keeps_work setup balanced isRunning
      refine ⟨grows, fun other present => ?_⟩
      rcases List.mem_cons.1 (isRunning.mem_iff.1 present) with rfl | inOthers
      · exact keeps
      · exact Keeps.of_mem (List.mem_append_right _ inOthers)
  | giveUp isRunning =>
      have returned := returned_giveUp balanced isRunning
      refine ⟨returned ▸ List.prefix_append _ _, fun other present => ?_⟩
      rcases List.mem_cons.1 (isRunning.mem_iff.1 present) with rfl | inOthers
      · exact Or.inl (returned ▸ List.subset_append_right _ _)
      · exact Keeps.of_mem (List.mem_append_right _ inOthers)
  | expire isRunning waits asks =>
      have empty := balanced.connections_eq_nil (isRunning.mem_iff.2 List.mem_cons_self)
        (by simp [Thread.holdsConnection, waits])
      refine ⟨by simp only [replace_of_same rfl, List.prefix_rfl], fun other present => ?_⟩
      rcases List.mem_cons.1 (isRunning.mem_iff.1 present) with rfl | inOthers
      · exact Or.inl (empty ▸ List.nil_subset _)
      · exact Keeps.of_mem (List.mem_append_right _ inOthers)
  | disturb same => exact ⟨List.prefix_rfl, fun _ present => Keeps.of_mem present⟩

/-- The same is true of whatever happens later. -/
theorem keeps_of_moves
    {later : Fleet world}
    (balanced : fleet.IsBalanced)
    (moves : Relation.ReflTransGen (Move setup) fleet later) :
    later.IsBalanced ∧ fleet.returned <+: later.returned ∧
      ∀ runner ∈ fleet.runners, later.Keeps runner := by
  induction moves with
  | refl => exact ⟨balanced, List.prefix_rfl, fun _ present => Keeps.of_mem present⟩
  | tail _ move inductionHypothesis =>
      obtain ⟨balancedThen, grown, keepsThen⟩ := inductionHypothesis
      obtain ⟨grows, keeps⟩ := keeps_of_move balancedThen move
      refine ⟨balancedThen.of_move move, grown.trans grows, fun runner present => ?_⟩
      rcases keepsThen runner present with returned | ⟨same, isThere, sameConnections, further⟩
      · exact Or.inl (List.Subset.trans returned grows.subset)
      · rcases keeps same isThere with returned | ⟨last, isLast, lastConnections, evenFurther⟩
        · exact Or.inl (sameConnections ▸ returned)
        · exact Or.inr ⟨last, isLast, lastConnections.trans sameConnections,
            further.trans evenFurther⟩

/-- However threads are interleaved, disturbed and given up, every connection that was handed out is
held by one thread, inside its query, or was returned exactly once, and there are never more in use
than the pool has. A thread has at most one, while it runs its statement. Two of its own steps
return it, if the thread is not given up before, which returns it too: the first one leads to the
rows of the statement, and the second one goes on with the chain. When no thread is inside a query,
all connections are back. -/
theorem isBalanced_and_all_released_and_keeps_of_run
    {capacity : Nat}
    (unused : shared.pool.accounts = { capacity, held := 0, acquired := 0, released := 0 })
    (run : Relation.ReflTransGen (Move setup) { shared } fleet) :
    fleet.IsBalanced ∧
      ((∀ runner ∈ fleet.runners, runner.thread.isInQuery = false) →
        fleet.shared.pool.acquired = fleet.shared.pool.released ∧ fleet.shared.pool.held = 0) ∧
      (∀ later, Relation.ReflTransGen (Move setup) fleet later →
        fleet.returned <+: later.returned ∧ ∀ runner ∈ fleet.runners, later.Keeps runner) ∧
      ∀ runner others, fleet.runners.Perm (runner :: others) → runner.connections ≠ [] →
        runner.thread.isInQuery = true ∧
          (fleet.giveUp runner others).returned = fleet.returned ++ runner.connections ∧
          (runner.thread.stage = Stage.connected →
            ∃ rows,
              let next : Runner world :=
                { runner with thread := { runner.thread with stage := Stage.answered rows } }
              (fleet.work setup runner others).runners = next :: others ∧
                (fleet.work setup runner others).returned = fleet.returned ∧
                ((fleet.work setup runner others).work setup next others).returned =
                  fleet.returned ++ runner.connections) ∧
          (runner.thread.stage ≠ Stage.connected →
            (fleet.work setup runner others).returned = fleet.returned ++ runner.connections) := by
  have balanced := IsBalanced.of_run unused run
  refine ⟨balanced, balanced.all_released, fun later moves => (keeps_of_moves balanced moves).2, ?_⟩
  intro runner others isRunning hasSome
  have present := isRunning.mem_iff.2 List.mem_cons_self
  have holds : runner.thread.holdsConnection = true := by
    cases holds : runner.thread.holdsConnection with
    | true => rfl
    | false => exact absurd (balanced.connections_eq_nil present holds) hasSome
  refine ⟨Thread.isInQuery_of_holdsConnection (balanced.orderly runner present) holds,
    returned_giveUp balanced isRunning, fun isConnected => ?_, fun isFurther => ?_⟩
  · obtain ⟨rows, runners, returned⟩ := work_of_connected setup balanced isRunning isConnected
    have balancedThen : (fleet.work setup runner others).IsBalanced := balanced.work isRunning
    refine ⟨rows, runners, returned, ?_⟩
    rw [returned_work_of_answered setup balancedThen (List.Perm.of_eq runners) rfl, returned]
  · obtain ⟨rows, isAnswered⟩ := ((holdsConnection_iff _).1 holds).resolve_left isFurther
    exact returned_work_of_answered setup balanced isRunning isAnswered

/-- A thread gets the only connection of a pool, which is the first one, and has returned it two
steps later. -/
theorem first_connection_is_returned :
    let setup : Setup Unit :=
      { files := [], resolver := fun _ => Step.pure none, taskTimeoutMillis := none }
    let shared : Shared Unit := { pool := { capacity := 1 }, world := () }
    ∃ during later, Relation.ReflTransGen (Move setup) { shared } during ∧
      during.connections = [1] ∧ during.returned = [] ∧
      Relation.ReflTransGen (Move setup) during later ∧
      later.connections = [] ∧ later.returned = [1] ∧
      later.shared.pool.acquired = later.shared.pool.released := by
  intro setup shared
  let listed : Query Unit :=
    { statement := Statement.select "episodes" [] none none, parser := fun _ => Except.ok () }
  let runner : Runner Unit :=
    { thread :=
        { chain := Chain.runQuery listed fun _ => Chain.finish
          scope := { token := none, body := none, cancelled := none } } }
  have arrived : Relation.ReflTransGen (Move setup) { shared } { shared, runners := [runner] } :=
    Relation.ReflTransGen.single (Move.arrive { shared } runner.thread.chain runner.thread.scope)
  have during := arrived.tail (Move.work (List.Perm.refl [runner]))
  have isUnused : shared.pool.accounts = { capacity := 1, held := 0, acquired := 0, released := 0 } :=
    rfl
  obtain ⟨_, _, _, holding⟩ := isBalanced_and_all_released_and_keeps_of_run isUnused during
  obtain ⟨_, _, twoSteps, _⟩ := holding _ [] (List.Perm.refl _) (List.cons_ne_nil 1 [])
  obtain ⟨rows, runners, _, returned⟩ := twoSteps rfl
  have moves : Relation.ReflTransGen (Move setup) _ _ :=
    (Relation.ReflTransGen.single (Move.work (List.Perm.refl _))).tail
      (Move.work (List.Perm.of_eq runners))
  obtain ⟨_, released, _⟩ :=
    isBalanced_and_all_released_and_keeps_of_run isUnused (during.trans moves)
  exact ⟨_, _, during, rfl, rfl, moves, rfl, returned, (released (List.forall_mem_singleton.2 rfl)).1⟩

end Fleet

end Serve

end Screencast
