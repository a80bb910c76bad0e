import Mathlib.Data.List.TakeWhile
import Screencast.Proofs.Store.Line

/-!
# Taking turns

A call for a connection is answered once. It is granted if a connection is free when those ahead in
line have been served, and if this comes about in time. Otherwise it is refused at once, or it times
out.
-/

namespace Screencast

namespace Desk

variable {desk after : Desk} {operation : Operation} {waiter : Waiter}

/-! ## Answers -/

/-- The time does not run backwards. -/
theorem clock_le_step (desk : Desk) (operation : Operation) :
    desk.clock ≤ (desk.step operation).clock := by
  obtain ⟨_, _, serves⟩ := (desk.act operation).exists_serves_handOut
  refine le_of_le_of_eq ?_ serves.clock_eq.symm
  have outcome := desk.outcome_act operation
  generalize desk.act operation = acted at outcome
  cases outcome with
  | waited => exact Nat.le_add_right _ _
  | _ => exact le_rfl

theorem clock_le_run (desk : Desk) (history : List Operation) :
    desk.clock ≤ (desk.run history).clock := by
  induction history generalizing desk with
  | nil => exact le_rfl
  | cons operation rest inductionHypothesis =>
      exact (desk.clock_le_step operation).trans (inductionHypothesis _)

/-- No operation changes how long a connection is waited for. -/
theorem acquireTimeout_act (desk : Desk) (operation : Operation) :
    (desk.act operation).pool.acquireTimeout = desk.pool.acquireTimeout := by
  have outcome := desk.outcome_act operation
  generalize desk.act operation = acted at outcome
  cases outcome with
  | executed | applied =>
      exact congrArg (fun millis => QueryError.acquire (_ ++ Duration.text millis))
        (Pool.timeoutMillis_apply desk.pool _)
  | _ => rfl

/-- Handing out connections does not change how long one is waited for. -/
theorem acquireTimeout_handOut (desk : Desk) :
    desk.handOut.pool.acquireTimeout = desk.pool.acquireTimeout := by
  refine serve_induction (motive := fun served =>
    served.pool.acquireTimeout = desk.pool.acquireTimeout) (fun served waiter _ same => ?_)
    (fun _ _ same => same) rfl desk.waiting
  cases holds : served.clients.holds waiter.name with
  | true => exact hand_of_holds holds ▸ same
  | false => exact hand_of_not_holds holds ▸ same

theorem acquireTimeout_step (desk : Desk) (operation : Operation) :
    (desk.step operation).pool.acquireTimeout = desk.pool.acquireTimeout :=
  (acquireTimeout_handOut _).trans (desk.acquireTimeout_act operation)

/-- Those in line stay there when something is done. -/
theorem mem_waiting_act
    (isWaiting : waiter ∈ desk.waiting)
    (operation : Operation) :
    waiter ∈ (desk.act operation).waiting := by
  rcases (desk.outcome_act operation).answers with ⟨_, _, _, acted⟩ | ⟨sameLine, _⟩
  · rw [acted]
    exact List.mem_append_left _ isWaiting
  · rwa [sameLine]

/-- A call was answered by one report and by no other. -/
structure Answers (desk : Desk) (call : Nat) (answer : Report) : Prop where
  isAnswer : answer.call? = some call
  mem_log : answer ∈ desk.log
  eq_of_call? : ∀ report ∈ desk.log, report.call? = some call → report = answer

namespace Answers

variable {call : Nat} {answer : Report}

/-- An answer remains the only one if other calls are answered. -/
theorem of_log_eq
    (answers : desk.Answers call answer)
    {reports : List Report}
    (log_eq : after.log = desk.log ++ reports)
    (ofOthers : ∀ report ∈ reports, report.call? ≠ some call) :
    after.Answers call answer where
  isAnswer := answers.isAnswer
  mem_log := log_eq ▸ List.mem_append_left _ answers.mem_log
  eq_of_call? := by
    rw [log_eq]
    exact List.forall_mem_append.2 ⟨answers.eq_of_call?, fun report isThere isCall =>
      absurd isCall (ofOthers report isThere)⟩

/-- An answer remains the only one, whatever an operation leads to. -/
theorem of_outcome
    (answers : desk.Answers call answer)
    (lined : desk.IsLined)
    (outcome : desk.Outcome operation after) :
    after.Answers call answer := by
  rcases outcome.answers with ⟨_, _, _, rfl⟩ | ⟨_, _, reports, log_eq, justMade⟩
  · exact { answers with }
  · refine answers.of_log_eq log_eq fun report isThere isCall => ?_
    obtain ⟨rfl, _⟩ := justMade report isThere call isCall
    exact lt_irrefl _ (lined.answered answer answers.mem_log _ answers.isAnswer).1

/-- An answer remains the only one when connections are handed out along the line. -/
theorem handOut
    (answers : desk.Answers call answer)
    (lined : desk.IsLined) :
    desk.handOut.Answers call answer := by
  obtain ⟨handed, reports, serves⟩ := desk.exists_serves_handOut
  refine answers.of_log_eq serves.log_eq fun report isThere isCall => ?_
  obtain ⟨-, waiter, isHanded, same⟩ := serves.granted_of_call? report isThere call isCall
  refine (lined.answered answer answers.mem_log call answers.isAnswer).2 waiter ?_ same
  rw [serves.line_eq]
  exact List.mem_append_left _ isHanded

/-- An answer remains the only one when clients are turned away. -/
theorem expire
    (answers : desk.Answers call answer)
    (lined : desk.IsLined) :
    desk.expire.Answers call answer := by
  refine answers.of_log_eq rfl fun report isThere isCall => ?_
  obtain ⟨waiter, isWaiting, _, rfl⟩ := mem_timeouts_iff.1 isThere
  exact (lined.answered answer answers.mem_log call answers.isAnswer).2 waiter isWaiting
    (Option.some.inj isCall)

/-- An answer remains the only one after any history. -/
theorem run
    (answers : desk.Answers call answer)
    (orderly : desk.IsOrderly)
    (history : List Operation) :
    (desk.run history).Answers call answer := by
  induction history generalizing desk with
  | nil => exact answers
  | cons operation rest inductionHypothesis =>
      have lined := orderly.of_outcome (desk.outcome_act operation)
      have acted := answers.of_outcome orderly.toIsLined (desk.outcome_act operation)
      have stepped := (acted.handOut lined).expire lined.handOut
      exact inductionHypothesis stepped (orderly.step operation)

end Answers

/-! ## Turns -/

/-- What a desk is like when those ahead of a call have been served. -/
def whenNext (desk : Desk) (call : Nat) : Desk :=
  desk.serve (desk.waiting.takeWhile fun waiter => waiter.call ≠ call)

/-- Someone in line gets a connection exactly if there is one when those ahead have been served. -/
theorem IsLined.granted_or_left
    (lined : desk.IsLined)
    (isWaiting : waiter ∈ desk.waiting) :
    (desk.whenNext waiter.call).pool.isAvailable = true ∧
        Report.granted waiter.call ∈ desk.handOut.log ∨
      (desk.whenNext waiter.call).pool.isAvailable = false ∧
        waiter ∈ desk.handOut.waiting := by
  obtain ⟨ahead, behind, split⟩ := List.append_of_mem isWaiting
  have distinct := lined.distinct
  rw [split, List.map_append, List.map_cons, List.nodup_append'] at distinct
  have isNext : desk.whenNext waiter.call = desk.serve ahead := by
    rw [whenNext, split, List.takeWhile_append_of_pos, List.takeWhile_cons_of_neg, List.append_nil]
    · simp
    · intro other isAhead
      refine decide_eq_true fun same => distinct.2.2 (List.mem_map_of_mem isAhead) ?_
      exact same ▸ List.mem_cons_self
  rw [isNext, Desk.handOut, split, serve_append]
  cases available : (desk.serve ahead).pool.isAvailable with
  | true =>
      refine Or.inl ⟨rfl, ?_⟩
      obtain ⟨_, handLog, _⟩ := (desk.serve ahead).exists_hand waiter
      obtain ⟨_, _, serves⟩ := ((desk.serve ahead).hand waiter).exists_serves behind
      rw [if_pos rfl, serve_cons_of_isAvailable available, serves.log_eq, handLog]
      simp
  | false =>
      refine Or.inr ⟨rfl, ?_⟩
      rw [if_neg Bool.false_ne_true]
      exact List.mem_append_right _ List.mem_cons_self

/-- What becomes of a client that waits, depending on whether its turn comes. -/
inductive Fate (waiter : Waiter) (timeout : QueryError) (hasTurn : Prop) (desk : Desk) : Prop
  | granted
      (turn : hasTurn)
      (answers : desk.Answers waiter.call (Report.granted waiter.call))
  | timedOut
      (noTurn : ¬hasTurn)
      (late : waiter.due ≤ desk.clock)
      (answers : desk.Answers waiter.call (Report.timedOut waiter.call timeout))
  | waits
      (noTurn : ¬hasTurn)
      (isLeft : waiter ∈ desk.waiting)

/-- A client in line is served if its turn has come, and is turned away otherwise if it is late. -/
theorem IsLined.fate_of_mem_waiting
    (lined : desk.IsLined)
    (isWaiting : waiter ∈ desk.waiting) :
    Fate waiter desk.pool.acquireTimeout ((desk.whenNext waiter.call).pool.isAvailable = true)
      desk.handOut.expire := by
  obtain ⟨handed, reports, serves⟩ := desk.exists_serves_handOut
  have unanswered : ∀ report ∈ desk.log, report.call? ≠ some waiter.call :=
    fun report isThere isCall => (lined.answered report isThere _ isCall).2 waiter isWaiting rfl
  rcases lined.granted_or_left isWaiting with ⟨available, granted⟩ | ⟨notAvailable, isLeft⟩
  · refine Fate.granted available (Answers.expire ⟨rfl, granted, ?_⟩ lined.handOut)
    rw [serves.log_eq]
    refine List.forall_mem_append.2 ⟨fun report isThere isCall => ?_, ?_⟩
    · exact absurd isCall (unanswered report isThere)
    · exact fun report isThere isCall => (serves.granted_of_call? report isThere _ isCall).1
  · have noTurn : ¬(desk.whenNext waiter.call).pool.isAvailable = true :=
      Bool.not_eq_true _ ▸ notAvailable
    rcases lt_or_ge desk.handOut.clock waiter.due with inTime | late
    · exact Fate.waits noTurn (mem_waiting_expire_iff.2 ⟨isLeft, inTime⟩)
    · refine Fate.timedOut noTurn late ⟨rfl, ?_, ?_⟩
      · rw [← desk.acquireTimeout_handOut]
        exact List.mem_append_right _ (mem_timeouts_iff.2 ⟨waiter, isLeft, late, rfl⟩)
      · refine List.forall_mem_append.2 ⟨fun report isThere isCall => ?_, ?_⟩
        · exact absurd rfl ((lined.handOut.answered report isThere _ isCall).2 waiter isLeft)
        · intro report isThere isCall
          obtain ⟨other, _, _, rfl⟩ := mem_timeouts_iff.1 isThere
          rw [Option.some.inj isCall, desk.acquireTimeout_handOut]

/-- The turn of a client comes in a history if, when it calls or before it gives up, something is
done after which fewer connections are held than there are, as soon as those ahead of the client
have been served. -/
def HasTurn (desk : Desk) (capacity : Nat) (waiter : Waiter) (history : List Operation) : Prop :=
  ∃ earlier operation later, history = earlier ++ operation :: later ∧
    (earlier = [] ∨ (desk.run earlier).clock < waiter.due) ∧
    (((desk.run earlier).act operation).whenNext waiter.call).pool.held < capacity

variable {capacity : Nat} {rest : List Operation}

/-- The turn of a client comes at once or later. -/
theorem hasTurn_cons :
    desk.HasTurn capacity waiter (operation :: rest) ↔
      ((desk.act operation).whenNext waiter.call).pool.held < capacity ∨
        (desk.step operation).clock < waiter.due ∧
          (desk.step operation).HasTurn capacity waiter rest := by
  constructor
  · rintro ⟨_ | ⟨first, earlier⟩, next, later, split, inTime, available⟩
    · obtain ⟨rfl, rfl⟩ := List.cons.inj split
      exact Or.inl available
    · obtain ⟨rfl, rfl⟩ := List.cons.inj split
      have stillInTime := inTime.resolve_left (List.cons_ne_nil _ _)
      refine Or.inr ⟨((desk.step operation).clock_le_run earlier).trans_lt stillInTime, ?_⟩
      exact ⟨earlier, next, later, rfl, Or.inr stillInTime, available⟩
  · rintro (available | ⟨inTime, earlier, next, later, rfl, stillInTime, available⟩)
    · exact ⟨[], operation, rest, rfl, Or.inl rfl, available⟩
    · refine ⟨operation :: earlier, next, later, rfl, Or.inr ?_, available⟩
      rcases stillInTime with rfl | stillInTime
      · exact inTime
      · exact stillInTime

theorem not_hasTurn_nil : ¬desk.HasTurn capacity waiter [] := by
  rintro ⟨earlier, operation, later, split, -⟩
  exact List.append_ne_nil_of_right_ne_nil earlier (List.cons_ne_nil operation later) split.symm

/-- What becomes of a client is settled by what is done first, or later if the client stays in
line. -/
theorem Fate.of_step
    {timeout : QueryError}
    (fate : Fate waiter timeout
      (((desk.act operation).whenNext waiter.call).pool.held < capacity) (desk.step operation))
    (orderly : (desk.step operation).IsOrderly)
    (later : waiter ∈ (desk.step operation).waiting →
      Fate waiter timeout ((desk.step operation).HasTurn capacity waiter rest)
        ((desk.step operation).run rest)) :
    Fate waiter timeout (desk.HasTurn capacity waiter (operation :: rest))
      (desk.run (operation :: rest)) := by
  cases fate with
  | granted turn answers =>
      exact Fate.granted (hasTurn_cons.2 (Or.inl turn)) (answers.run orderly rest)
  | timedOut noTurn late answers =>
      refine Fate.timedOut ?_ (late.trans (clock_le_run _ rest)) (answers.run orderly rest)
      exact fun turn => (hasTurn_cons.1 turn).elim noTurn fun further => further.1.not_ge late
  | waits noTurn isLeft =>
      have same : desk.HasTurn capacity waiter (operation :: rest) ↔
          (desk.step operation).HasTurn capacity waiter rest := by
        rw [hasTurn_cons, or_iff_right noTurn, and_iff_right (orderly.punctual waiter isLeft)]
      rw [same]
      exact later isLeft

namespace IsOrderly

/-- A client that waits is served by what is done next exactly if its turn comes then. -/
theorem fate_step
    (orderly : desk.IsOrderly)
    (balanced : desk.IsBalanced capacity)
    (isWaiting : waiter ∈ (desk.act operation).waiting) :
    Fate waiter desk.pool.acquireTimeout
      (((desk.act operation).whenNext waiter.call).pool.held < capacity) (desk.step operation) := by
  have outcome := desk.outcome_act operation
  have isNext := (balanced.of_outcome outcome).serve
    ((desk.act operation).waiting.takeWhile fun other => other.call ≠ waiter.call)
  have fate := (orderly.of_outcome outcome).fate_of_mem_waiting isWaiting
  rw [acquireTimeout_act, whenNext, isNext.isAvailable_iff] at fate
  exact fate

/-- In any history a client that waits is served exactly if its turn comes. -/
theorem fate_run
    (orderly : desk.IsOrderly)
    (balanced : desk.IsBalanced capacity)
    (isWaiting : waiter ∈ (desk.act operation).waiting)
    (rest : List Operation) :
    Fate waiter desk.pool.acquireTimeout (desk.HasTurn capacity waiter (operation :: rest))
      (desk.run (operation :: rest)) := by
  have next := orderly.step operation
  refine (orderly.fate_step balanced isWaiting).of_step next fun isLeft => ?_
  induction rest generalizing desk operation with
  | nil => exact Fate.waits not_hasTurn_nil isLeft
  | cons further rest inductionHypothesis =>
      have stays := mem_waiting_act isLeft further
      have stillBalanced := balanced.step operation
      rw [← desk.acquireTimeout_step operation]
      exact (next.fate_step stillBalanced stays).of_step (next.step further)
        (inductionHypothesis next stillBalanced stays (next.step further))

end IsOrderly

/-! ## Every history -/

/-- One report is the only answer to a call. -/
theorem Answers.mem_log_iff
    {call : Nat}
    {answer report : Report}
    (answers : desk.Answers call answer)
    (isCall : report.call? = some call) :
    report ∈ desk.log ↔ report = answer :=
  ⟨fun isThere => answers.eq_of_call? report isThere isCall, fun same => same ▸ answers.mem_log⟩

/-- A call for a connection is refused if a fault is queued. Otherwise it is granted if the turn of
the client comes, and it times out if this has not happened when the time is up. -/
structure AnswersDuly (desk : Desk) (capacity : Nat) (name : String) (later : List Operation) :
    Prop where
  refused_iff :
    Report.refused desk.calls Pool.acquireFault ∈
        (desk.run (Operation.acquire name :: later)).log ↔
      Fault.acquire ∈ desk.pool.faults
  granted_iff :
    Report.granted desk.calls ∈ (desk.run (Operation.acquire name :: later)).log ↔
      Fault.acquire ∉ desk.pool.faults ∧
        desk.HasTurn capacity (desk.caller name) (Operation.acquire name :: later)
  timedOut_iff :
    Report.timedOut desk.calls desk.pool.acquireTimeout ∈
        (desk.run (Operation.acquire name :: later)).log ↔
      Fault.acquire ∉ desk.pool.faults ∧
        ¬desk.HasTurn capacity (desk.caller name) (Operation.acquire name :: later) ∧
        (desk.caller name).due ≤ (desk.run (Operation.acquire name :: later)).clock
  granted_step_iff :
    Report.granted desk.calls ∈ (desk.step (Operation.acquire name)).log ↔
      Fault.acquire ∉ desk.pool.faults ∧ desk.pool.held < capacity
  isUnmoved_of_not_granted :
    Report.granted desk.calls ∉ (desk.step (Operation.acquire name)).log →
      desk.IsUnmoved (desk.step (Operation.acquire name))

/-- A call is refused at once if a fault is queued. -/
theorem IsOrderly.answers_refused
    (orderly : desk.IsOrderly)
    (isQueued : Fault.acquire ∈ desk.pool.faults)
    (name : String)
    (later : List Operation) :
    (desk.run (Operation.acquire name :: later)).Answers desk.calls
      (Report.refused desk.calls Pool.acquireFault) := by
  have lined := orderly.of_outcome (desk.outcome_act (Operation.acquire name))
  have acted : (desk.act (Operation.acquire name)).Answers desk.calls
      (Report.refused desk.calls Pool.acquireFault) := by
    rw [act_acquire_of_mem isQueued]
    refine ⟨rfl, List.mem_append_right _ List.mem_cons_self, List.forall_mem_append.2
      ⟨fun report isThere isCall => ?_, List.forall_mem_singleton.2 fun _ => rfl⟩⟩
    exact absurd (orderly.answered report isThere _ isCall).1 (lt_irrefl _)
  exact ((acted.handOut lined).expire lined.handOut).run (orderly.step _) later

/-- A desk in order does what the pool does if a connection is acquired: it is handed out at once if
there is one. -/
theorem IsOrderly.step_acquire (orderly : desk.IsOrderly) (name : String) :
    (desk.step (Operation.acquire name)).clients = (desk.clients.acquire name).2 ∧
      (Report.granted desk.calls ∈ (desk.step (Operation.acquire name)).log ↔
        (desk.clients.acquire name).1 = Except.ok ()) := by
  rw [Clients.acquire_eq]
  by_cases isQueued : Fault.acquire ∈ desk.clients.pool.faults
  · have acted := act_acquire_of_mem isQueued name
    have answers := orderly.answers_refused isQueued name []
    have noneServed : (desk.act (Operation.acquire name)).handOut =
        desk.act (Operation.acquire name) := handOut_eq (acted ▸ orderly.full)
    rw [if_pos isQueued, Desk.step, noneServed, acted]
    refine ⟨rfl, iff_of_false (fun isThere => ?_) (by rintro ⟨⟩)⟩
    rw [← acted, ← noneServed] at isThere
    cases (answers.mem_log_iff rfl).1 isThere
  rw [if_neg isQueued]
  have acted := act_acquire_of_not_mem isQueued name
  cases available : desk.clients.pool.isAvailable with
  | false =>
      have noneServed : (desk.act (Operation.acquire name)).handOut =
          desk.act (Operation.acquire name) := handOut_eq fun _ => acted ▸ available
      rw [Desk.step, noneServed, acted, if_neg Bool.false_ne_true]
      refine ⟨rfl, iff_of_false (fun isThere => ?_) (by rintro ⟨⟩)⟩
      rcases List.mem_append.1 isThere with isOld | isLate
      · exact lt_irrefl _ (orderly.answered _ isOld _ rfl).1
      · obtain ⟨_, _, _, isTimeout⟩ := mem_timeouts_iff.1 isLate
        cases isTimeout
  | true =>
      have isNext : (desk.act (Operation.acquire name)).waiting = [desk.caller name] := by
        rw [acted, orderly.waiting_eq_nil available, List.nil_append]
      have served : (desk.act (Operation.acquire name)).handOut =
          ((desk.act (Operation.acquire name)).hand (desk.caller name)).serve [] := by
        rw [Desk.handOut, isNext, serve_cons_of_isAvailable (acted ▸ available)]
      obtain ⟨_, log_eq, -⟩ := (desk.act (Operation.acquire name)).exists_hand (desk.caller name)
      rw [Desk.step, served, if_pos rfl]
      refine ⟨?_, iff_of_true ?_ rfl⟩
      · rw [acted]
        rfl
      · refine List.mem_append_left _ ?_
        rw [serve_nil, log_eq]
        exact List.mem_append_right _ List.mem_cons_self

/-- A call is granted at once exactly if no fault is queued and a connection is there. -/
theorem IsOrderly.granted_step_iff
    (orderly : desk.IsOrderly)
    (balanced : desk.IsBalanced capacity)
    (name : String) :
    Report.granted desk.calls ∈ (desk.step (Operation.acquire name)).log ↔
      Fault.acquire ∉ desk.pool.faults ∧ desk.pool.held < capacity := by
  rw [(orderly.step_acquire name).2, Clients.acquire_eq, ← balanced.isAvailable_iff, pool]
  by_cases isQueued : Fault.acquire ∈ desk.clients.pool.faults
  · rw [if_pos isQueued]
    exact iff_of_false nofun fun duly => duly.1 isQueued
  · rw [if_neg isQueued, and_iff_right isQueued]
    cases desk.clients.pool.isAvailable with
    | true => exact iff_of_true rfl rfl
    | false => exact iff_of_false nofun nofun

/-- A call that is not granted at once changes nothing. -/
theorem IsOrderly.isUnmoved_of_not_granted
    (orderly : desk.IsOrderly)
    {name : String}
    (notGranted : Report.granted desk.calls ∉ (desk.step (Operation.acquire name)).log) :
    desk.IsUnmoved (desk.step (Operation.acquire name)) := by
  obtain ⟨sameClients, granted_iff⟩ := orderly.step_acquire name
  obtain ⟨faults, isLeft⟩ := Clients.exists_of_not_acquire (mt granted_iff.2 notGranted)
  rw [isLeft] at sameClients
  constructor
  case tables_eq => rw [pool, sameClients]; rfl
  case accounts_eq => rw [pool, sameClients]; rfl
  case holders_eq => rw [sameClients]; rfl

theorem caller_mem_waiting_act
    (noFault : Fault.acquire ∉ desk.pool.faults)
    (name : String) :
    desk.caller name ∈ (desk.act (Operation.acquire name)).waiting := by
  rw [act_acquire_of_not_mem noFault]
  exact List.mem_append_right _ List.mem_cons_self

/-- Every call for a connection is answered as it should be. -/
theorem IsOrderly.answersDuly
    (orderly : desk.IsOrderly)
    (balanced : desk.IsBalanced capacity)
    (name : String)
    (later : List Operation) :
    desk.AnswersDuly capacity name later := by
  have atOnce := orderly.granted_step_iff balanced name
  have isUnmoved := @IsOrderly.isUnmoved_of_not_granted desk orderly name
  by_cases isQueued : Fault.acquire ∈ desk.pool.faults
  · have answers := orderly.answers_refused isQueued name later
    refine ⟨?_, ?_, ?_, atOnce, isUnmoved⟩
    · rw [answers.mem_log_iff rfl]
      exact iff_of_true rfl isQueued
    · rw [answers.mem_log_iff rfl]
      exact iff_of_false nofun fun duly => duly.1 isQueued
    · rw [answers.mem_log_iff rfl]
      exact iff_of_false nofun fun duly => duly.1 isQueued
  have fate := orderly.fate_run balanced (caller_mem_waiting_act isQueued name) later
  cases fate with
  | granted turn answers =>
      refine ⟨?_, ?_, ?_, atOnce, isUnmoved⟩
      · rw [answers.mem_log_iff rfl]
        exact iff_of_false nofun isQueued
      · rw [answers.mem_log_iff rfl]
        exact iff_of_true rfl ⟨isQueued, turn⟩
      · rw [answers.mem_log_iff rfl]
        exact iff_of_false nofun fun duly => duly.2.1 turn
  | timedOut noTurn late answers =>
      refine ⟨?_, ?_, ?_, atOnce, isUnmoved⟩
      · rw [answers.mem_log_iff rfl]
        exact iff_of_false nofun isQueued
      · rw [answers.mem_log_iff rfl]
        exact iff_of_false nofun fun duly => noTurn duly.2
      · rw [answers.mem_log_iff rfl]
        exact iff_of_true rfl ⟨isQueued, noTurn, late⟩
  | waits noTurn isLeft =>
      have after := orderly.run (Operation.acquire name :: later)
      have unanswered {report : Report} (isCall : report.call? = some desk.calls) :
          report ∉ (desk.run (Operation.acquire name :: later)).log := fun isThere =>
        (after.answered report isThere _ isCall).2 (desk.caller name) isLeft rfl
      refine ⟨?_, ?_, ?_, atOnce, isUnmoved⟩
      · exact iff_of_false (unanswered rfl) isQueued
      · exact iff_of_false (unanswered rfl) fun duly => noTurn duly.2
      · exact iff_of_false (unanswered rfl) fun duly =>
          (after.punctual _ isLeft).not_ge duly.2.2

/-- Whatever is done at a desk, one thing after another: as many connections are held as clients
hold one, and no more than there are. The counters count what was granted and what was returned, and
what is missing was lost. Faults strike once, the oldest first, and only operations of their own
kind. An operation that fails changes nothing else. A call for a connection is granted exactly if no
fault was queued and a connection was left for it before its time was up. -/
theorem run_fresh (capacity timeoutMillis : Nat) (history : List Operation) :
    let desk := (fresh capacity timeoutMillis).run history
    desk.IsBalanced capacity ∧
      desk.SpendsFaults history ∧
      (∀ operation,
        desk.PassesFaults (desk.step operation) (desk.strike? operation) operation.injected?) ∧
      (∀ operation, desk.FailsCleanly operation) ∧
      ∀ name later, desk.AnswersDuly capacity name later := by
  have balanced := (IsBalanced.fresh capacity timeoutMillis).run history
  have orderly := (IsOrderly.fresh capacity timeoutMillis).run history
  exact ⟨balanced, (SpendsFaults.fresh capacity timeoutMillis).run history, passesFaults_step _,
    orderly.failsCleanly, orderly.answersDuly balanced⟩

/-- A client that waits for the only connection gets it if it is returned in time, and no later. A
fault strikes the next call also if one for statements was queued before. -/
theorem run_fresh_of_single_connection :
    let desk := (fresh 1 20).run [Operation.acquire "ana"]
    let inTime := [Operation.acquire "bo", Operation.wait 19, Operation.release "ana"]
    let late := [Operation.acquire "bo", Operation.wait 20, Operation.release "ana"]
    let faulty := desk.run [Operation.inject Fault.execute, Operation.inject Fault.acquire]
    Report.granted 1 ∈ (desk.run inTime).log ∧
      Report.timedOut 1 desk.pool.acquireTimeout ∈ (desk.run late).log ∧
      (faulty.step (Operation.acquire "bo")).pool.faults = [Fault.execute] := by
  obtain ⟨_, _, _, _, answers⟩ := run_fresh 1 20 [Operation.acquire "ana"]
  obtain ⟨_, _, passes, _, _⟩ := run_fresh 1 20 [Operation.acquire "ana",
    Operation.inject Fault.execute, Operation.inject Fault.acquire]
  have inTime := answers "bo" [Operation.wait 19, Operation.release "ana"]
  have late := answers "bo" [Operation.wait 20, Operation.release "ana"]
  refine ⟨?_, ?_, ?_⟩
  · exact inTime.granted_iff.2 ⟨by decide, [Operation.acquire "bo", Operation.wait 19],
      Operation.release "ana", [], rfl, Or.inr (by decide), by decide⟩
  · refine late.timedOut_iff.2 ⟨by decide, fun turn => ?_, by decide⟩
    have granted : Report.granted 1 ∈ [Report.granted 0, Report.timedOut 1 _,
      Report.released "ana"] := late.granted_iff.2 ⟨by decide, turn⟩
    simp at granted
  · exact (passes (Operation.acquire "bo")).faults_eq.trans (by decide)

end Desk

end Screencast
