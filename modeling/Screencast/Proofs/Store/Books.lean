import Mathlib.Data.List.Count
import Mathlib.Data.List.Nodup
import Screencast.Proofs.Store.Waiting

/-!
# The books of a desk

The counters of a pool tell how often a connection was handed out and how often one was returned.
What is neither in use nor was returned was lost. A fault that is injected strikes one operation of
its kind, and those of a kind strike in the order in which they were injected.
-/

namespace Screencast

namespace Desk

namespace Report

/-- Whether a connection was handed out. -/
def isGranted : Report → Bool
  | granted _ => true
  | _ => false

/-- Whether a connection was returned. -/
def isReleased : Report → Bool
  | released _ => true
  | _ => false

/-- Whether a connection was lost. -/
def isDropped : Report → Bool
  | dropped _ => true
  | _ => false

/-- Whether a connection came or went. -/
def isMove (report : Report) : Bool := report.isGranted || report.isReleased || report.isDropped

/-- Whether an operation failed. -/
def isFailure : Report → Bool
  | refused _ _ | timedOut _ _ | notHeld _ => true
  | executed (Except.error _) | restored (Except.error _) => true
  | _ => false

/-- The kind of the fault that struck. -/
def struck? : Report → Option Fault
  | refused _ _ => some Fault.acquire
  | executed (Except.error _) => some Fault.execute
  | _ => none

end Report

/-! ## Connections -/

/-- The books of a pool with a capacity agree with what was reported. -/
structure IsBalanced (capacity : Nat) (desk : Desk) : Prop where
  capacity_eq : desk.pool.capacity = capacity
  held_le : desk.pool.held ≤ capacity
  held_eq : desk.pool.held = desk.clients.holders.length
  nodup : desk.clients.holders.Nodup
  acquired_eq : desk.pool.acquired = desk.log.countP Report.isGranted
  released_eq : desk.pool.released = desk.log.countP Report.isReleased
  acquired_eq_add : desk.pool.acquired =
    desk.pool.released + desk.pool.held + desk.log.countP Report.isDropped

variable {capacity : Nat} {desk after : Desk} {operation : Operation} {reports : List Report}

namespace IsBalanced

/-- The books of a fresh desk are balanced. -/
theorem fresh (capacity timeoutMillis : Nat) :
    (fresh capacity timeoutMillis).IsBalanced capacity where
  capacity_eq := rfl
  held_le := Nat.zero_le capacity
  held_eq := rfl
  nodup := List.nodup_nil
  acquired_eq := rfl
  released_eq := rfl
  acquired_eq_add := rfl

/-- A connection can be handed out if fewer are held than there are. -/
theorem isAvailable_iff (balanced : desk.IsBalanced capacity) :
    desk.pool.isAvailable = true ↔ desk.pool.held < capacity :=
  balanced.capacity_eq ▸ decide_eq_true_iff

/-- The books stay balanced if the counters move by what is reported. -/
theorem of_log_eq
    (balanced : desk.IsBalanced capacity)
    (logged : after.log = desk.log ++ reports)
    (sameCapacity : after.pool.capacity = desk.pool.capacity)
    (nodup : after.clients.holders.Nodup)
    (held_le : after.pool.held ≤ capacity)
    (held_eq : after.pool.held = after.clients.holders.length)
    (acquired_eq : after.pool.acquired = desk.pool.acquired + reports.countP Report.isGranted)
    (released_eq : after.pool.released = desk.pool.released + reports.countP Report.isReleased)
    (moved : after.pool.held + reports.countP Report.isReleased + reports.countP Report.isDropped =
      desk.pool.held + reports.countP Report.isGranted) :
    after.IsBalanced capacity where
  capacity_eq := sameCapacity.trans balanced.capacity_eq
  held_le := held_le
  held_eq := held_eq
  nodup := nodup
  acquired_eq := by rw [acquired_eq, logged, List.countP_append, balanced.acquired_eq]
  released_eq := by rw [released_eq, logged, List.countP_append, balanced.released_eq]
  acquired_eq_add := by
    have before := balanced.acquired_eq_add
    rw [logged, List.countP_append]
    omega

/-- The books stay balanced if no connection comes or goes. -/
theorem of_accounts_eq
    (balanced : desk.IsBalanced capacity)
    (logged : after.log = desk.log ++ reports)
    (noMove : ∀ report ∈ reports, report.isMove = false)
    (sameAccounts : after.pool.accounts = desk.pool.accounts)
    (sameHolders : after.clients.holders = desk.clients.holders) :
    after.IsBalanced capacity := by
  obtain ⟨sameCapacity, sameHeld, sameAcquired, sameReleased⟩ := Pool.Accounts.mk.inj sameAccounts
  have noneOf (among : Report → Bool) (isPart : ∀ report, among report → report.isMove) :
      reports.countP among = 0 :=
    List.countP_eq_zero.2 fun report isThere isAmong =>
      Bool.false_ne_true ((noMove report isThere).symm.trans (isPart report isAmong))
  have noGrant := noneOf Report.isGranted (by simp +contextual [Report.isMove])
  have noRelease := noneOf Report.isReleased (by simp +contextual [Report.isMove])
  have noDrop := noneOf Report.isDropped (by simp +contextual [Report.isMove])
  refine balanced.of_log_eq logged sameCapacity ?_ ?_ ?_ ?_ ?_ ?_
  · rw [sameHolders]
    exact balanced.nodup
  · rw [sameHeld]
    exact balanced.held_le
  · rw [sameHeld, sameHolders, balanced.held_eq]
  · rw [sameAcquired, noGrant, Nat.add_zero]
  · rw [sameReleased, noRelease, Nat.add_zero]
  · rw [sameHeld, noGrant, noRelease, noDrop]

/-- The books stay balanced if a connection is handed out. -/
theorem hand
    (balanced : desk.IsBalanced capacity)
    (available : desk.pool.isAvailable = true)
    (waiter : Waiter) :
    (desk.hand waiter).IsBalanced capacity := by
  have isLess := balanced.isAvailable_iff.1 available
  cases holds : desk.clients.holds waiter.name with
  | true =>
      rw [hand_of_holds holds]
      exact balanced.of_log_eq rfl rfl balanced.nodup isLess.le balanced.held_eq rfl rfl rfl
  | false =>
      rw [hand_of_not_holds holds]
      have nodup := balanced.nodup.cons (Clients.holds_eq_false_iff.1 holds)
      exact balanced.of_log_eq rfl rfl nodup isLess (congrArg (· + 1) balanced.held_eq) rfl rfl rfl

/-- The books stay balanced if a client gives up its connection and this is reported. -/
theorem note_erase
    (balanced : desk.IsBalanced capacity)
    {name : String}
    (holds : name ∈ desk.clients.holders)
    {pool : Pool}
    {report : Report}
    (released_or_dropped : pool = desk.pool.release ∧ report = Report.released name ∨
      pool = desk.pool.abandon ∧ report = Report.dropped name) :
    (desk.note { pool, holders := desk.clients.holders.erase name } report).IsBalanced
      capacity := by
  have isHeld : 0 < desk.pool.held := balanced.held_eq ▸ List.length_pos_of_mem holds
  have isLess : desk.pool.held - 1 ≤ capacity := (Nat.sub_le ..).trans balanced.held_le
  have oneLess : desk.pool.held - 1 = (desk.clients.holders.erase name).length := by
    rw [List.length_erase_of_mem holds, balanced.held_eq]
  have nodup := balanced.nodup.erase name
  rcases released_or_dropped with ⟨rfl, rfl⟩ | ⟨rfl, rfl⟩ <;>
    exact balanced.of_log_eq rfl rfl nodup isLess oneLess rfl rfl (Nat.sub_add_cancel isHeld)

/-- The books stay balanced whatever an operation leads to. -/
theorem of_outcome
    (balanced : desk.IsBalanced capacity)
    (outcome : desk.Outcome operation after) :
    after.IsBalanced capacity := by
  have quiet {clients : Clients} {report : Report} (noMove : report.isMove = false)
      (sameAccounts : clients.pool.accounts = desk.pool.accounts)
      (sameHolders : clients.holders = desk.clients.holders) :
      (desk.note clients report).IsBalanced capacity :=
    balanced.of_accounts_eq rfl (List.forall_mem_singleton.2 noMove) sameAccounts sameHolders
  cases outcome with
  | released holds => exact balanced.note_erase holds (Or.inl ⟨rfl, rfl⟩)
  | dropped holds => exact balanced.note_erase holds (Or.inr ⟨rfl, rfl⟩)
  | refused => exact { quiet rfl rfl rfl with }
  | executed | applied => exact quiet rfl (Pool.accounts_apply desk.pool _) rfl
  | struck | notHeld | restored | unreadable => exact quiet rfl rfl rfl
  | called | injected | seeded | waited =>
      exact balanced.of_accounts_eq (List.append_nil _).symm (List.forall_mem_nil _) rfl rfl

theorem serve
    (balanced : desk.IsBalanced capacity)
    (line : List Waiter) :
    (desk.serve line).IsBalanced capacity :=
  serve_induction (fun _ waiter available isBalanced => isBalanced.hand available waiter)
    (fun _ _ isBalanced => { isBalanced with }) balanced line

theorem expire (balanced : desk.IsBalanced capacity) : desk.expire.IsBalanced capacity := by
  refine balanced.of_accounts_eq rfl (fun report isThere => ?_) rfl rfl
  obtain ⟨_, _, _, rfl⟩ := mem_timeouts_iff.1 isThere
  rfl

theorem step
    (balanced : desk.IsBalanced capacity)
    (operation : Operation) :
    (desk.step operation).IsBalanced capacity :=
  ((balanced.of_outcome (desk.outcome_act operation)).serve _).expire

/-- The books are balanced after any history. -/
theorem run
    (balanced : desk.IsBalanced capacity)
    (history : List Operation) :
    (desk.run history).IsBalanced capacity := by
  induction history generalizing desk with
  | nil => exact balanced
  | cons operation rest inductionHypothesis => exact inductionHypothesis (balanced.step operation)

end IsBalanced

/-! ## Faults -/

/-- The fault that an operation puts into the queue. -/
def Operation.injected? : Operation → Option Fault
  | inject fault => some fault
  | _ => none

/-- The faults that operations put into the queue, one after another. -/
def injected (history : List Operation) : List Fault := history.filterMap Operation.injected?

/-- The faults that have struck, one after another. -/
def struck (desk : Desk) : List Fault := desk.log.filterMap Report.struck?

/-- The kind of the faults that can strike an operation. Statements are run on a connection only. -/
def kind? (desk : Desk) : Operation → Option Fault
  | Operation.acquire _ => some Fault.acquire
  | Operation.execute name _ => if desk.clients.holds name then some Fault.execute else none
  | _ => none

/-- The fault that strikes an operation: one of its kind, if there is one. -/
def strike? (desk : Desk) (operation : Operation) : Option Fault :=
  (desk.kind? operation).filter fun kind => desk.pool.faults.contains kind

/-- The faults that are left are those that were injected without the oldest ones of each kind, and
of these as many have struck as are missing. -/
structure SpendsFaults (history : List Operation) (desk : Desk) : Prop where
  faults_eq : desk.pool.faults = (injected history).diff desk.struck
  count_struck_add (kind : Fault) :
    desk.struck.count kind + desk.pool.faults.count kind = (injected history).count kind

/-- What becomes of the faults at a desk: the oldest of a kind strikes and leaves the queue, or one
goes to its end. -/
structure PassesFaults (desk after : Desk) (strike injected : Option Fault) : Prop where
  struck_eq : after.struck = desk.struck ++ strike.toList
  faults_eq : after.pool.faults = desk.pool.faults.diff strike.toList ++ injected.toList

theorem strike?_eq_none
    (noFault : ∀ kind, desk.kind? operation = some kind → kind ∉ desk.pool.faults) :
    desk.strike? operation = none := by
  refine Option.filter_eq_none_iff.2 fun kind isKind isQueued => ?_
  exact noFault kind isKind (List.contains_iff_mem.1 isQueued)

theorem strike?_eq_some
    {kind : Fault}
    (isKind : desk.kind? operation = some kind)
    (isQueued : kind ∈ desk.pool.faults) :
    desk.strike? operation = some kind := by
  rw [strike?, isKind, Option.filter_some, if_pos (List.contains_iff_mem.2 isQueued)]

theorem kind?_execute
    {name : String}
    {statement : Statement}
    (holds : name ∈ desk.clients.holders) :
    desk.kind? (Operation.execute name statement) = some Fault.execute :=
  if_pos (Clients.holds_iff.2 holds)

/-- Nothing strikes an operation with a connection that is not held. -/
theorem kind?_of_not_mem_holders
    {name : String}
    (isHolder : operation.holder? = some name)
    (holdsNone : name ∉ desk.clients.holders) :
    desk.kind? operation = none := by
  cases operation with
  | execute other statement =>
      obtain rfl := Option.some.inj isHolder
      exact if_neg (mt Clients.holds_iff.1 holdsNone)
  | acquire => cases isHolder
  | _ => rfl

theorem struck_note (desk : Desk) (clients : Clients) (report : Report) :
    (desk.note clients report).struck = desk.struck ++ report.struck?.toList := by
  cases isStruck : report.struck? <;> simp [struck, note, isStruck]

/-- A fault strikes an operation if there is one of its kind. -/
theorem Outcome.passesFaults (outcome : desk.Outcome operation after) :
    desk.PassesFaults after (desk.strike? operation) operation.injected? := by
  have spared (noFault : ∀ kind, desk.kind? operation = some kind → kind ∉ desk.pool.faults)
      (passes : desk.PassesFaults after none operation.injected?) :
      desk.PassesFaults after (desk.strike? operation) operation.injected? :=
    strike?_eq_none noFault ▸ passes
  have struck {kind : Fault} (isKind : desk.kind? operation = some kind)
      (isQueued : kind ∈ desk.pool.faults)
      (passes : desk.PassesFaults after (some kind) operation.injected?) :
      desk.PassesFaults after (desk.strike? operation) operation.injected? :=
    strike?_eq_some isKind isQueued ▸ passes
  have taken (kind : Fault) :
      desk.pool.faults.erase kind = desk.pool.faults.diff [kind] ++ [] := by
    rw [List.diff_cons, List.diff_nil, List.append_nil]
  have unchanged := (List.append_nil desk.pool.faults).symm
  cases outcome with
  | refused isQueued => exact struck rfl isQueued ⟨struck_note .., taken Fault.acquire⟩
  | struck holds isQueued =>
      exact struck (kind?_execute holds) isQueued ⟨struck_note .., taken Fault.execute⟩
  | called noFault =>
      exact spared (fun _ isKind => Option.some.inj isKind ▸ noFault)
        ⟨(List.append_nil _).symm, unchanged⟩
  | executed holds noFault =>
      refine spared (fun kind isKind => ?_)
        ⟨struck_note .., (Pool.faults_apply ..).trans unchanged⟩
      exact Option.some.inj ((kind?_execute holds).symm.trans isKind) ▸ noFault
  | notHeld isHolder holdsNone =>
      refine spared (fun kind isKind => ?_) ⟨struck_note .., ?_⟩
      · cases (kind?_of_not_mem_holders isHolder holdsNone).symm.trans isKind
      · cases operation with
        | inject => cases isHolder
        | _ => exact unchanged
  | applied => exact spared nofun ⟨struck_note .., (Pool.faults_apply ..).trans unchanged⟩
  | released | dropped | restored | unreadable =>
      exact spared nofun ⟨struck_note .., unchanged⟩
  | injected => exact spared nofun ⟨(List.append_nil _).symm, rfl⟩
  | seeded | waited => exact spared nofun ⟨(List.append_nil _).symm, unchanged⟩

/-- No fault strikes while connections are handed out along a line. -/
theorem passesFaults_serve (desk : Desk) (line : List Waiter) :
    desk.PassesFaults (desk.serve line) none none := by
  suffices same : (desk.serve line).struck = desk.struck ∧
      (desk.serve line).pool.faults = desk.pool.faults from
    ⟨same.1.trans (List.append_nil _).symm, same.2.trans (List.append_nil _).symm⟩
  refine serve_induction (motive := fun served =>
    served.struck = desk.struck ∧ served.pool.faults = desk.pool.faults) ?_ ?_ ⟨rfl, rfl⟩ line
  · rintro served waiter - ⟨sameStruck, sameFaults⟩
    cases holds : served.clients.holds waiter.name with
    | true =>
        rw [hand_of_holds holds, struck, List.filterMap_append]
        exact ⟨(List.append_nil _).trans sameStruck, sameFaults⟩
    | false =>
        rw [hand_of_not_holds holds, struck, List.filterMap_append]
        exact ⟨(List.append_nil _).trans sameStruck, sameFaults⟩
  · exact fun _ _ same => same

theorem struck_expire (desk : Desk) : desk.expire.struck = desk.struck := by
  refine (List.filterMap_append ..).trans ((congrArg _ ?_).trans (List.append_nil _))
  refine List.filterMap_eq_nil_iff.2 fun report isThere => ?_
  obtain ⟨_, _, _, rfl⟩ := mem_timeouts_iff.1 isThere
  rfl

/-- A fault strikes an operation if and only if there is one of its kind, and it is the oldest
one. -/
theorem passesFaults_step (desk : Desk) (operation : Operation) :
    desk.PassesFaults (desk.step operation) (desk.strike? operation) operation.injected? := by
  have acted := (desk.outcome_act operation).passesFaults
  have served : (desk.act operation).PassesFaults (desk.act operation).handOut none none :=
    (desk.act operation).passesFaults_serve _
  constructor
  · rw [step, struck_expire, served.struck_eq, acted.struck_eq]
    exact List.append_nil _
  · refine served.faults_eq.trans ?_
    rw [acted.faults_eq]
    exact List.append_nil _

namespace SpendsFaults

variable {history : List Operation}

theorem fresh (capacity timeoutMillis : Nat) : (fresh capacity timeoutMillis).SpendsFaults [] where
  faults_eq := rfl
  count_struck_add _ := rfl

theorem mem_faults_of_strike?
    {kind : Fault}
    (strikes : desk.strike? operation = some kind) :
    kind ∈ desk.pool.faults :=
  List.contains_iff_mem.1 (Option.filter_eq_some_iff.1 strikes).2

/-- Faults that were injected later stay behind while those before them are spent. -/
theorem diff_append
    {spent queue : List Fault}
    (isSpent : ∀ kind, spent.count kind ≤ queue.count kind)
    (later : List Fault) :
    (queue ++ later).diff spent = queue.diff spent ++ later := by
  induction spent generalizing queue with
  | nil => rw [List.diff_nil, List.diff_nil]
  | cons fault rest inductionHypothesis =>
      have isThere : fault ∈ queue := by
        have := isSpent fault
        rw [List.count_cons_self] at this
        exact List.count_pos_iff.1 (by omega)
      rw [List.diff_cons, List.diff_cons, List.erase_append_left _ isThere]
      refine inductionHypothesis fun kind => ?_
      have := isSpent kind
      rw [List.count_cons] at this
      rw [List.count_erase]
      omega

/-- Faults are spent one after another, each kind by its own operations. -/
theorem step
    (spends : desk.SpendsFaults history)
    (operation : Operation) :
    (desk.step operation).SpendsFaults (history ++ [operation]) := by
  obtain ⟨struck_eq, faults_eq⟩ := desk.passesFaults_step operation
  have isThere (kind : Fault) :
      (desk.strike? operation).toList.count kind ≤ desk.pool.faults.count kind := by
    cases strikes : desk.strike? operation with
    | none => exact Nat.zero_le _
    | some fault =>
        have isQueued := List.count_pos_iff.2 (mem_faults_of_strike? strikes)
        rw [Option.toList_some, List.count_singleton]
        split
        next same => exact eq_of_beq same ▸ isQueued
        next => exact Nat.zero_le _
  have isSpent (kind : Fault) : desk.struck.count kind ≤ (injected history).count kind :=
    spends.count_struck_add kind ▸ Nat.le_add_right _ _
  have more : injected (history ++ [operation]) =
      injected history ++ operation.injected?.toList := by
    cases isInjected : operation.injected? <;> simp [injected, isInjected]
  constructor
  · rw [more, struck_eq, List.diff_append, diff_append isSpent, ← spends.faults_eq,
      diff_append isThere, faults_eq]
  · intro kind
    have before := spends.count_struck_add kind
    have := isThere kind
    rw [more, struck_eq, faults_eq]
    simp only [List.count_append, List.count_diff]
    omega

/-- After any history those faults are left that did not strike. -/
theorem run
    (spends : desk.SpendsFaults history)
    (rest : List Operation) :
    (desk.run rest).SpendsFaults (history ++ rest) := by
  induction rest generalizing desk history with
  | nil => exact (List.append_nil history).symm ▸ spends
  | cons operation rest inductionHypothesis =>
      have further := inductionHypothesis (spends.step operation)
      rwa [List.append_assoc, List.singleton_append] at further

end SpendsFaults

end Desk

end Screencast
