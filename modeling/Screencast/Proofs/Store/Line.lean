import Screencast.Proofs.Store.Books

/-!
# The line at a desk

Nobody stays in line while a connection can be handed out, or when the time is up. So an operation
that fails hands out nothing: it leaves the tables, the accounts and the connections as they are.
-/

namespace Screencast

namespace Desk

/-- The call that a report answers. -/
def Report.call? : Report → Option Nat
  | granted call | refused call _ | timedOut call _ => some call
  | _ => none

variable {desk after : Desk} {operation : Operation} {waiter : Waiter}

/-! ## Those in line -/

/-- Those in line made different calls, which were not answered yet. -/
structure IsLined (desk : Desk) : Prop where
  distinct : (desk.waiting.map Waiter.call).Nodup
  called : ∀ waiter ∈ desk.waiting, waiter.call < desk.calls
  answered : ∀ report ∈ desk.log, ∀ call, report.call? = some call →
    call < desk.calls ∧ ∀ waiter ∈ desk.waiting, waiter.call ≠ call

/-- What an operation means for those in line: another one comes, or no call is answered but one
that is made in that moment. -/
theorem Outcome.answers (outcome : desk.Outcome operation after) :
    (∃ name, operation = Operation.acquire name ∧ Fault.acquire ∉ desk.pool.faults ∧
      after = { desk with
        waiting := desk.waiting ++ [desk.caller name]
        calls := desk.calls + 1 }) ∨
      (after.waiting = desk.waiting ∧ desk.calls ≤ after.calls ∧
        ∃ reports, after.log = desk.log ++ reports ∧ ∀ report ∈ reports, ∀ call,
          report.call? = some call → call = desk.calls ∧ call < after.calls) := by
  cases outcome with
  | called noFault => exact Or.inl ⟨_, rfl, noFault, rfl⟩
  | refused =>
      refine Or.inr ⟨rfl, Nat.le_succ _, _, rfl, List.forall_mem_singleton.2 fun call isCall => ?_⟩
      obtain rfl := Option.some.inj isCall
      exact ⟨rfl, Nat.lt_succ_self _⟩
  | injected | seeded | waited =>
      exact Or.inr ⟨rfl, le_rfl, [], (List.append_nil _).symm, List.forall_mem_nil _⟩
  | _ => exact Or.inr ⟨rfl, le_rfl, _, rfl, List.forall_mem_singleton.2 nofun⟩

/-- What serving a line comes to: those at its head get a connection. -/
structure Serves (desk after : Desk) (line handed : List Waiter) (reports : List Report) :
    Prop where
  line_eq : line = handed ++ after.waiting
  log_eq : after.log = desk.log ++ reports
  clock_eq : after.clock = desk.clock
  calls_eq : after.calls = desk.calls
  succeeds : ∀ report ∈ reports, report.isFailure = false
  granted_of_call? : ∀ report ∈ reports, ∀ call, report.call? = some call →
    report = Report.granted call ∧ ∃ waiter ∈ handed, waiter.call = call

/-- Handing a connection to a client is reported. -/
theorem exists_hand (desk : Desk) (waiter : Waiter) :
    ∃ reports, (desk.hand waiter).log = desk.log ++ Report.granted waiter.call :: reports ∧
      ∀ report ∈ reports, report.isFailure = false ∧ report.call? = none := by
  cases holds : desk.clients.holds waiter.name with
  | true =>
      rw [hand_of_holds holds]
      exact ⟨_, rfl, List.forall_mem_singleton.2 ⟨rfl, rfl⟩⟩
  | false =>
      rw [hand_of_not_holds holds]
      exact ⟨[], rfl, List.forall_mem_nil _⟩

/-- Those at the head of a line get a connection. -/
theorem exists_serves (desk : Desk) (line : List Waiter) :
    ∃ handed reports, desk.Serves (desk.serve line) line handed reports := by
  induction line generalizing desk with
  | nil => exact ⟨[], [], rfl, (List.append_nil _).symm, rfl, rfl, nofun, nofun⟩
  | cons waiter rest inductionHypothesis =>
      cases available : desk.pool.isAvailable with
      | true =>
          rw [serve_cons_of_isAvailable available]
          obtain ⟨handed, reports, serves⟩ := inductionHypothesis (desk.hand waiter)
          obtain ⟨more, log_eq, silent⟩ := desk.exists_hand waiter
          refine ⟨waiter :: handed, Report.granted waiter.call :: more ++ reports,
            congrArg _ serves.line_eq, ?_, serves.clock_eq, serves.calls_eq, ?_, ?_⟩
          · rw [serves.log_eq, log_eq, List.append_assoc]
          · refine List.forall_mem_append.2 ⟨List.forall_mem_cons.2 ⟨rfl, ?_⟩, serves.succeeds⟩
            exact fun report isThere => (silent report isThere).1
          · refine List.forall_mem_append.2 ⟨List.forall_mem_cons.2 ⟨?_, ?_⟩, ?_⟩
            · intro call isCall
              obtain rfl := Option.some.inj isCall
              exact ⟨rfl, waiter, List.mem_cons_self, rfl⟩
            · intro report isThere call isCall
              cases (silent report isThere).2.symm.trans isCall
            · intro report isThere call isCall
              obtain ⟨isGranted, other, isHanded, same⟩ :=
                serves.granted_of_call? report isThere call isCall
              exact ⟨isGranted, other, List.mem_cons_of_mem _ isHanded, same⟩
      | false =>
          rw [serve_of_not_isAvailable available]
          exact ⟨[], [], rfl, (List.append_nil _).symm, rfl, rfl, nofun, nofun⟩

theorem exists_serves_handOut (desk : Desk) :
    ∃ handed reports, desk.Serves desk.handOut desk.waiting handed reports :=
  desk.exists_serves desk.waiting

namespace IsLined

/-- Two in line with the same call are the same. -/
theorem eq_of_call_eq
    (lined : desk.IsLined)
    {other : Waiter}
    (isThere : waiter ∈ desk.waiting)
    (isThereToo : other ∈ desk.waiting)
    (same : waiter.call = other.call) :
    waiter = other :=
  List.inj_on_of_nodup_map lined.distinct isThere isThereToo same

/-- No call is answered twice, whatever an operation leads to. -/
theorem of_outcome
    (lined : desk.IsLined)
    (outcome : desk.Outcome operation after) :
    after.IsLined := by
  rcases outcome.answers with ⟨name, -, -, rfl⟩ | ⟨sameLine, calls_le, reports, log_eq, justMade⟩
  · have isNew : desk.calls ∉ desk.waiting.map Waiter.call := by
      rintro isThere
      obtain ⟨waiter, isWaiting, same⟩ := List.mem_map.1 isThere
      exact absurd same (lined.called waiter isWaiting).ne
    refine ⟨?_, ?_, ?_⟩
    · rw [List.map_append]
      exact List.nodup_append_comm.1 (lined.distinct.cons isNew)
    · refine List.forall_mem_append.2 ⟨?_, List.forall_mem_singleton.2 (Nat.lt_succ_self _)⟩
      exact fun waiter isWaiting => (lined.called waiter isWaiting).trans (Nat.lt_succ_self _)
    · intro report isThere call isCall
      obtain ⟨isOld, notWaiting⟩ := lined.answered report isThere call isCall
      refine ⟨isOld.trans (Nat.lt_succ_self _), List.forall_mem_append.2 ⟨notWaiting, ?_⟩⟩
      exact List.forall_mem_singleton.2 isOld.ne'
  · refine ⟨sameLine ▸ lined.distinct, ?_, ?_⟩
    · rw [sameLine]
      exact fun waiter isWaiting => (lined.called waiter isWaiting).trans_le calls_le
    · rw [log_eq, sameLine]
      refine List.forall_mem_append.2 ⟨fun report isThere call isCall => ?_, ?_⟩
      · obtain ⟨isOld, notWaiting⟩ := lined.answered report isThere call isCall
        exact ⟨isOld.trans_le calls_le, notWaiting⟩
      · intro report isThere call isCall
        obtain ⟨rfl, isLess⟩ := justMade report isThere call isCall
        exact ⟨isLess, fun waiter isWaiting => (lined.called waiter isWaiting).ne⟩

/-- No call is answered twice by handing out connections along the line. -/
theorem handOut (lined : desk.IsLined) : desk.handOut.IsLined := by
  obtain ⟨handed, reports, serves⟩ := desk.exists_serves_handOut
  have stays : ∀ waiter ∈ desk.handOut.waiting, waiter ∈ desk.waiting := by
    intro waiter isLeft
    rw [serves.line_eq]
    exact List.mem_append_right handed isLeft
  have distinct := lined.distinct
  rw [serves.line_eq, List.map_append, List.nodup_append'] at distinct
  refine ⟨distinct.2.1, ?_, ?_⟩
  · rw [serves.calls_eq]
    exact fun waiter isLeft => lined.called waiter (stays waiter isLeft)
  · rw [serves.log_eq, serves.calls_eq]
    refine List.forall_mem_append.2 ⟨fun report isThere call isCall => ?_, ?_⟩
    · obtain ⟨isOld, notWaiting⟩ := lined.answered report isThere call isCall
      exact ⟨isOld, fun waiter isLeft => notWaiting waiter (stays waiter isLeft)⟩
    · intro report isThere call isCall
      obtain ⟨-, waiter, isHanded, rfl⟩ := serves.granted_of_call? report isThere call isCall
      refine ⟨lined.called waiter ?_, fun other isLeft same => ?_⟩
      · rw [serves.line_eq]
        exact List.mem_append_left _ isHanded
      · exact distinct.2.2 (List.mem_map_of_mem isHanded)
          (same ▸ List.mem_map_of_mem (f := Waiter.call) isLeft)

/-- No call is answered twice by turning clients away. -/
theorem expire (lined : desk.IsLined) : desk.expire.IsLined := by
  have stays : desk.expire.waiting.Sublist desk.waiting := List.filter_sublist
  refine ⟨lined.distinct.sublist (stays.map _), ?_, ?_⟩
  · exact fun waiter isLeft => lined.called waiter (stays.subset isLeft)
  · refine List.forall_mem_append.2 ⟨fun report isThere call isCall => ?_, ?_⟩
    · obtain ⟨isOld, notWaiting⟩ := lined.answered report isThere call isCall
      exact ⟨isOld, fun waiter isLeft => notWaiting waiter (stays.subset isLeft)⟩
    · intro report isThere call isCall
      obtain ⟨waiter, isWaiting, late, rfl⟩ := mem_timeouts_iff.1 isThere
      obtain rfl := Option.some.inj isCall
      refine ⟨lined.called waiter isWaiting, fun other isLeft same => ?_⟩
      obtain ⟨isWaitingToo, inTime⟩ := mem_waiting_expire_iff.1 isLeft
      obtain rfl := lined.eq_of_call_eq isWaitingToo isWaiting same
      exact inTime.not_ge late

end IsLined

/-! ## A desk in order -/

/-- Nobody is in line while a connection can be handed out, or when its time is up. -/
structure IsOrderly (desk : Desk) : Prop extends desk.IsLined where
  full : desk.waiting ≠ [] → desk.pool.isAvailable = false
  punctual : ∀ waiter ∈ desk.waiting, desk.clock < waiter.due

/-- Nobody is left in line if a connection is left. -/
theorem full_serve
    (desk : Desk)
    (line : List Waiter)
    (isLeft : (desk.serve line).waiting ≠ []) :
    (desk.serve line).pool.isAvailable = false := by
  induction line generalizing desk with
  | nil => exact absurd rfl isLeft
  | cons waiter rest inductionHypothesis =>
      cases available : desk.pool.isAvailable with
      | true =>
          rw [serve_cons_of_isAvailable available] at isLeft ⊢
          exact inductionHypothesis _ isLeft
      | false =>
          rw [serve_of_not_isAvailable available]
          exact available

theorem waiting_serve_singleton (available : desk.pool.isAvailable = true) :
    (desk.serve [waiter]).waiting = [] := by
  rw [serve_cons_of_isAvailable available, serve_nil]

/-- If nobody is in line or there is no connection, then nobody is served. -/
theorem handOut_eq (idle : desk.waiting ≠ [] → desk.pool.isAvailable = false) :
    desk.handOut = desk := by
  rw [handOut]
  cases line : desk.waiting with
  | nil => rw [serve_nil, ← line]
  | cons waiter rest =>
      rw [← line, serve_of_not_isAvailable (idle (line ▸ List.cons_ne_nil waiter rest))]

namespace IsOrderly

theorem fresh (capacity timeoutMillis : Nat) : (fresh capacity timeoutMillis).IsOrderly where
  distinct := List.nodup_nil
  called := List.forall_mem_nil _
  answered := List.forall_mem_nil _
  full := absurd rfl
  punctual := List.forall_mem_nil _

theorem waiting_eq_nil
    (orderly : desk.IsOrderly)
    (available : desk.pool.isAvailable = true) :
    desk.waiting = [] := by
  by_contra isWaiting
  exact Bool.false_ne_true ((orderly.full isWaiting).symm.trans available)

/-- A desk is in order after an operation. -/
theorem step (orderly : desk.IsOrderly) (operation : Operation) :
    (desk.step operation).IsOrderly where
  toIsLined := (orderly.of_outcome (desk.outcome_act operation)).handOut.expire
  full := by
    intro isLeft
    refine (desk.act operation).full_serve _ fun isEmpty => isLeft ?_
    exact (congrArg (List.filter _) isEmpty).trans List.filter_nil
  punctual _ isLeft := (mem_waiting_expire_iff.1 isLeft).2

theorem run (orderly : desk.IsOrderly) (history : List Operation) :
    (desk.run history).IsOrderly := by
  induction history generalizing desk with
  | nil => exact orderly
  | cons operation rest inductionHypothesis => exact inductionHypothesis (orderly.step operation)

end IsOrderly

/-! ## Failures -/

/-- The tables, the accounts and the connections of the clients are as before. -/
structure IsUnmoved (desk after : Desk) : Prop where
  tables_eq : after.pool.tables = desk.pool.tables
  accounts_eq : after.pool.accounts = desk.pool.accounts
  holders_eq : after.clients.holders = desk.clients.holders

/-- If an operation reports a failure, then it does nothing else. -/
def FailsCleanly (desk : Desk) (operation : Operation) : Prop :=
  ∃ reports, (desk.step operation).log = desk.log ++ reports ∧
    ((∃ report ∈ reports, report.isFailure = true) → desk.IsUnmoved (desk.step operation))

/-- What an operation leads to succeeds at once, or it leaves everything as it is. -/
theorem Outcome.succeeds_or_isUnmoved (outcome : desk.Outcome operation after) :
    ∃ reports, after.log = desk.log ++ reports ∧
      (desk.IsUnmoved after ∨ after.waiting = desk.waiting ∧ after.clock = desk.clock ∧
        ∀ report ∈ reports, report.isFailure = false) := by
  have noReport (log : List Report) : log = log ++ [] := (List.append_nil log).symm
  cases outcome with
  | called | waited => exact ⟨[], noReport _, Or.inl ⟨rfl, rfl, rfl⟩⟩
  | injected | seeded => exact ⟨[], noReport _, Or.inr ⟨rfl, rfl, List.forall_mem_nil _⟩⟩
  | refused | struck | notHeld | unreadable => exact ⟨_, rfl, Or.inl ⟨rfl, rfl, rfl⟩⟩
  | _ => exact ⟨_, rfl, Or.inr ⟨rfl, rfl, List.forall_mem_singleton.2 rfl⟩⟩

/-- Everything is left as it is also if nobody in line can be served. -/
theorem IsUnmoved.step
    (unmoved : desk.IsUnmoved (desk.act operation))
    (idle : (desk.act operation).waiting ≠ [] → desk.pool.isAvailable = false) :
    desk.IsUnmoved (desk.step operation) := by
  have sameAvailable : (desk.act operation).pool.isAvailable = desk.pool.isAvailable :=
    congrArg (fun accounts : Pool.Accounts => decide (accounts.held < accounts.capacity))
      unmoved.accounts_eq
  have same := handOut_eq fun isWaiting => sameAvailable.trans (idle isWaiting)
  rw [Desk.step, same]
  exact ⟨unmoved.tables_eq, unmoved.accounts_eq, unmoved.holders_eq⟩

/-- An operation that succeeds by itself succeeds if nobody in line is late after it. -/
theorem exists_log_step_of_succeeds
    {reports : List Report}
    (log_eq : (desk.act operation).log = desk.log ++ reports)
    (succeeds : ∀ report ∈ reports, report.isFailure = false)
    (inTime : ∀ waiter ∈ (desk.act operation).handOut.waiting,
      (desk.act operation).clock < waiter.due) :
    ∃ reports, (desk.step operation).log = desk.log ++ reports ∧
      ∀ report ∈ reports, report.isFailure = false := by
  obtain ⟨_, granted, serves⟩ := (desk.act operation).exists_serves_handOut
  have noneLate : (desk.act operation).handOut.timeouts = [] := by
    refine List.eq_nil_iff_forall_not_mem.2 fun report isThere => ?_
    obtain ⟨waiter, isLeft, late, -⟩ := mem_timeouts_iff.1 isThere
    exact (inTime waiter isLeft).not_ge (serves.clock_eq ▸ late)
  refine ⟨reports ++ granted, ?_, List.forall_mem_append.2 ⟨succeeds, serves.succeeds⟩⟩
  rw [step, expire, noneLate, List.append_nil, serves.log_eq, log_eq, List.append_assoc]

theorem exists_log_step (desk : Desk) (operation : Operation) :
    ∃ reports, (desk.step operation).log = desk.log ++ reports := by
  obtain ⟨reports, log_eq, -⟩ := (desk.outcome_act operation).succeeds_or_isUnmoved
  obtain ⟨_, granted, serves⟩ := (desk.act operation).exists_serves_handOut
  refine ⟨reports ++ (granted ++ (desk.act operation).handOut.timeouts), ?_⟩
  rw [step, expire, serves.log_eq, log_eq, List.append_assoc, List.append_assoc]

/-- An operation that fails leaves everything as it is. -/
theorem IsOrderly.failsCleanly (orderly : desk.IsOrderly) (operation : Operation) :
    desk.FailsCleanly operation := by
  have of_isUnmoved (isUnmoved : desk.IsUnmoved (desk.step operation)) :
      desk.FailsCleanly operation := by
    obtain ⟨reports, log_eq⟩ := desk.exists_log_step operation
    exact ⟨reports, log_eq, fun _ => isUnmoved⟩
  have of_succeeds (succeeds : ∃ reports, (desk.step operation).log = desk.log ++ reports ∧
      ∀ report ∈ reports, report.isFailure = false) : desk.FailsCleanly operation := by
    obtain ⟨reports, log_eq, noFailure⟩ := succeeds
    refine ⟨reports, log_eq, fun ⟨report, isThere, fails⟩ => ?_⟩
    cases (noFailure report isThere).symm.trans fails
  obtain ⟨reports, log_eq, isUnmoved | ⟨sameLine, sameClock, succeeds⟩⟩ :=
    (desk.outcome_act operation).succeeds_or_isUnmoved
  · rcases (desk.outcome_act operation).answers with ⟨name, -, -, acted⟩ | ⟨sameLine, -⟩
    · cases available : desk.pool.isAvailable with
      | false => exact of_isUnmoved (isUnmoved.step fun _ => available)
      | true =>
          -- Nobody was in line, so the client that calls is served at once.
          have noneLeft : (desk.act operation).handOut.waiting = [] := by
            rw [acted, orderly.waiting_eq_nil available]
            exact waiting_serve_singleton available
          have noReport : (desk.act operation).log = desk.log ++ [] :=
            acted ▸ (List.append_nil _).symm
          refine of_succeeds (exists_log_step_of_succeeds noReport (List.forall_mem_nil _) ?_)
          rw [noneLeft]
          exact List.forall_mem_nil _
    · exact of_isUnmoved (isUnmoved.step fun isWaiting => orderly.full (sameLine ▸ isWaiting))
  · refine of_succeeds (exists_log_step_of_succeeds log_eq succeeds fun waiter isLeft => ?_)
    obtain ⟨_, _, serves⟩ := (desk.act operation).exists_serves_handOut
    rw [sameClock]
    refine orderly.punctual waiter ?_
    rw [← sameLine, serves.line_eq]
    exact List.mem_append_right _ isLeft

end Desk

end Screencast
