import Screencast.Proofs.Store.Pool
import Screencast.Proofs.Store.Snapshot
import Screencast.Store.Clients

/-!
# Waiting for a connection

The connections of a pool are handed out at a desk. A client that asks for one while all of them are
in use waits in line until its turn comes, or until its time is up. Meanwhile the others go on: they
run statements, return their connections or lose them.
-/

namespace Screencast

namespace Pool

variable {pool after : Pool} {fault : Fault}

/-- The fault that is taken is the oldest one of its kind in the queue. -/
theorem takeFault_eq_some_iff :
    pool.takeFault fault = some after ↔
      fault ∈ pool.faults ∧ after = { pool with faults := pool.faults.erase fault } := by
  rw [takeFault, Option.ite_none_right_eq_some, List.contains_iff_mem, Option.some.injEq,
    eq_comm (a := after)]

/-- No fault is taken if none of its kind is queued. -/
theorem takeFault_eq_none_iff : pool.takeFault fault = none ↔ fault ∉ pool.faults := by
  rw [takeFault, ite_eq_right_iff, List.contains_iff_mem]
  exact forall_congr' fun _ => iff_false_intro (Option.some_ne_none _)

end Pool

namespace Clients

/-- Hand a connection to a client, which loses the one that it has. -/
def seat (clients : Clients) (name : String) : Clients :=
  if clients.holds name then clients.withPool fun pool => pool.grant.abandon
  else { pool := clients.pool.grant, holders := name :: clients.holders }

/-- A client holds a connection exactly if it is among the holders. -/
theorem holds_iff {clients : Clients} {name : String} :
    clients.holds name = true ↔ name ∈ clients.holders := List.contains_iff_mem

/-- A client holds no connection exactly if it is not among the holders. -/
theorem holds_eq_false_iff {clients : Clients} {name : String} :
    clients.holds name = false ↔ name ∉ clients.holders := by
  rw [← holds_iff, Bool.not_eq_true]

/-- A client acquires a connection if no fault is queued and one is there. -/
theorem acquire_eq (clients : Clients) (name : String) :
    clients.acquire name =
      if Fault.acquire ∈ clients.pool.faults then
        (Except.error Pool.acquireFault, clients.withPool fun pool =>
          { pool with faults := pool.faults.erase Fault.acquire })
      else if clients.pool.isAvailable then (Except.ok (), clients.seat name)
      else (Except.error clients.pool.acquireTimeout, clients) := by
  rw [acquire, Pool.acquire, Pool.request]
  by_cases isQueued : Fault.acquire ∈ clients.pool.faults
  · rw [Pool.takeFault_eq_some_iff.2 ⟨isQueued, rfl⟩, if_pos isQueued]
    rfl
  · rw [Pool.takeFault_eq_none_iff.2 isQueued, if_neg isQueued]
    cases clients.pool.isAvailable with
    | false => rfl
    | true =>
        rw [seat]
        cases clients.holds name <;> rfl

/-- A client that does not acquire a connection changes nothing but which faults are queued. -/
theorem exists_of_not_acquire
    {clients : Clients}
    {name : String}
    (notAcquired : (clients.acquire name).1 ≠ Except.ok ()) :
    ∃ faults, (clients.acquire name).2 = clients.withPool fun pool => { pool with faults } := by
  rw [acquire_eq] at notAcquired ⊢
  split at notAcquired
  next isQueued =>
    rw [if_pos isQueued]
    exact ⟨_, rfl⟩
  next notQueued =>
    rw [if_neg notQueued]
    split at notAcquired
    next => exact absurd rfl notAcquired
    next notAvailable =>
      rw [if_neg notAvailable]
      exact ⟨_, rfl⟩

end Clients

/-- A client in line for a connection, by the number of its call, and the time at which it gives
up. -/
structure Waiter where
  call : Nat
  name : String
  due : Nat
  deriving DecidableEq, Repr

namespace Desk

/-- What can be done at a desk. Time passes only if clients wait. -/
inductive Operation
  | acquire (name : String)
  | execute (name : String) (statement : Statement)
  | release (name : String)
  | drop (name : String)
  | inject (fault : Fault)
  | seed (table : String) (rows : List Row)
  | apply (statement : Statement)
  | restore (file : Option Bytes)
  | wait (millis : Nat)

/-- What comes of it. Calls for a connection are numbered, since they are not always answered at
once. -/
inductive Report
  | granted (call : Nat)
  | refused (call : Nat) (error : QueryError)
  | timedOut (call : Nat) (error : QueryError)
  | executed (result : Except QueryError (List Row))
  | applied (rows : List Row)
  | restored (result : Except Pool.RestoreError Unit)
  | released (name : String)
  | dropped (name : String)
  | notHeld (name : String)

/-- The client whose connection an operation is done with. -/
def Operation.holder? : Operation → Option String
  | execute name _ | release name | drop name => some name
  | _ => none

end Desk

/-- The clients of a pool, those of them in line, oldest call first, the time in milliseconds, how
often a connection was asked for, and all that was reported, oldest first. -/
structure Desk where
  clients : Clients
  waiting : List Waiter := []
  clock : Nat := 0
  calls : Nat := 0
  log : List Desk.Report := []

namespace Desk

/-- The pool. -/
def pool (desk : Desk) : Pool := desk.clients.pool

/-- A desk at which nothing was done yet. -/
def fresh (capacity timeoutMillis : Nat) : Desk where
  clients := { pool := { capacity, timeoutMillis } }

/-- Report what came of an operation of the clients. -/
def note (desk : Desk) (clients : Clients) (report : Report) : Desk :=
  { desk with clients, log := desk.log ++ [report] }

/-- A client that asks for a connection now. -/
def caller (desk : Desk) (name : String) : Waiter where
  call := desk.calls
  name := name
  due := desk.clock + desk.pool.timeoutMillis

/-- What an operation does by itself. A client that asks for a connection goes to the end of the
line, if no fault is queued. -/
def act (desk : Desk) : Operation → Desk
  | Operation.acquire name =>
    let called := { desk with calls := desk.calls + 1 }
    match desk.pool.takeFault Fault.acquire with
    | some pool =>
      called.note { desk.clients with pool } (Report.refused desk.calls Pool.acquireFault)
    | none => { called with waiting := desk.waiting ++ [desk.caller name] }
  | Operation.execute name statement =>
    match desk.clients.execute? name statement with
    | some (result, clients) => desk.note clients (Report.executed result)
    | none => desk.note desk.clients (Report.notHeld name)
  | Operation.release name =>
    match desk.clients.release? name with
    | some clients => desk.note clients (Report.released name)
    | none => desk.note desk.clients (Report.notHeld name)
  | Operation.drop name =>
    match desk.clients.drop? name with
    | some clients => desk.note clients (Report.dropped name)
    | none => desk.note desk.clients (Report.notHeld name)
  | Operation.inject fault =>
    { desk with clients := desk.clients.withPool fun pool => pool.inject fault }
  | Operation.seed table rows =>
    { desk with clients := desk.clients.withPool fun pool => pool.seed table rows }
  | Operation.apply statement =>
    let (rows, pool) := desk.pool.apply statement
    desk.note { desk.clients with pool } (Report.applied rows)
  | Operation.restore file =>
    let (result, pool) := desk.pool.restore file
    desk.note { desk.clients with pool } (Report.restored result)
  | Operation.wait millis => { desk with clock := desk.clock + millis }

/-- Hand a connection to a client whose turn it is. -/
def hand (desk : Desk) (waiter : Waiter) : Desk :=
  { desk with
    clients := desk.clients.seat waiter.name
    log := desk.log ++ Report.granted waiter.call ::
      if desk.clients.holds waiter.name then [Report.dropped waiter.name] else [] }

/-- Hand connections out along a line, for as long as there are any. -/
def serve (desk : Desk) : List Waiter → Desk
  | [] => { desk with waiting := [] }
  | waiter :: rest =>
    if desk.pool.isAvailable then (desk.hand waiter).serve rest
    else { desk with waiting := waiter :: rest }

/-- What those are told whose time is up. -/
def timeouts (desk : Desk) : List Report :=
  (desk.waiting.filter fun waiter => waiter.due ≤ desk.clock).map fun waiter =>
    Report.timedOut waiter.call desk.pool.acquireTimeout

/-- Turn away those whose time is up. -/
def expire (desk : Desk) : Desk :=
  { desk with
    waiting := desk.waiting.filter fun waiter => desk.clock < waiter.due
    log := desk.log ++ desk.timeouts }

/-- Hand connections out to those in line. -/
def handOut (desk : Desk) : Desk := desk.serve desk.waiting

/-- Do an operation. Those in line are served before they give up. -/
def step (desk : Desk) (operation : Operation) : Desk := (desk.act operation).handOut.expire

/-- Do operations one after another. -/
def run (desk : Desk) (operations : List Operation) : Desk := operations.foldl step desk

@[simp] theorem run_nil (desk : Desk) : desk.run [] = desk := rfl

@[simp] theorem run_cons (desk : Desk) (operation : Operation) (rest : List Operation) :
    desk.run (operation :: rest) = (desk.step operation).run rest := rfl

variable {desk after : Desk} {operation : Operation} {line ahead behind : List Waiter}

/-! ## What an operation leads to -/

/-- A call is refused if a fault is queued. -/
theorem act_acquire_of_mem
    (isQueued : Fault.acquire ∈ desk.pool.faults)
    (name : String) :
    desk.act (Operation.acquire name) =
      { desk with calls := desk.calls + 1 }.note
        (desk.clients.withPool fun pool => { pool with faults := pool.faults.erase Fault.acquire })
        (Report.refused desk.calls Pool.acquireFault) := by
  rw [act, Pool.takeFault_eq_some_iff.2 ⟨isQueued, rfl⟩]
  rfl

theorem act_acquire_of_not_mem
    (noFault : Fault.acquire ∉ desk.pool.faults)
    (name : String) :
    desk.act (Operation.acquire name) =
      { desk with waiting := desk.waiting ++ [desk.caller name], calls := desk.calls + 1 } := by
  rw [act, Pool.takeFault_eq_none_iff.2 noFault]

/-- What an operation at a desk leads to by itself. -/
inductive Outcome (desk : Desk) : Operation → Desk → Prop
  | called
      {name : String}
      (noFault : Fault.acquire ∉ desk.pool.faults) :
      Outcome desk (Operation.acquire name)
        { desk with waiting := desk.waiting ++ [desk.caller name], calls := desk.calls + 1 }
  | refused
      {name : String}
      (isQueued : Fault.acquire ∈ desk.pool.faults) :
      Outcome desk (Operation.acquire name)
        ({ desk with calls := desk.calls + 1 }.note
          (desk.clients.withPool fun pool =>
            { pool with faults := pool.faults.erase Fault.acquire })
          (Report.refused desk.calls Pool.acquireFault))
  | struck
      {name : String}
      {statement : Statement}
      (holds : name ∈ desk.clients.holders)
      (isQueued : Fault.execute ∈ desk.pool.faults) :
      Outcome desk (Operation.execute name statement)
        (desk.note
          (desk.clients.withPool fun pool =>
            { pool with faults := pool.faults.erase Fault.execute })
          (Report.executed (Except.error (Pool.executeFault statement))))
  | executed
      {name : String}
      {statement : Statement}
      (holds : name ∈ desk.clients.holders)
      (noFault : Fault.execute ∉ desk.pool.faults) :
      Outcome desk (Operation.execute name statement)
        (desk.note (desk.clients.withPool fun pool => (pool.apply statement).2)
          (Report.executed (Except.ok (desk.pool.apply statement).1)))
  | released
      {name : String}
      (holds : name ∈ desk.clients.holders) :
      Outcome desk (Operation.release name)
        (desk.note { pool := desk.pool.release, holders := desk.clients.holders.erase name }
          (Report.released name))
  | dropped
      {name : String}
      (holds : name ∈ desk.clients.holders) :
      Outcome desk (Operation.drop name)
        (desk.note { pool := desk.pool.abandon, holders := desk.clients.holders.erase name }
          (Report.dropped name))
  | notHeld
      {operation : Operation}
      {name : String}
      (isHolder : operation.holder? = some name)
      (holdsNone : name ∉ desk.clients.holders) :
      Outcome desk operation (desk.note desk.clients (Report.notHeld name))
  | injected
      {fault : Fault} :
      Outcome desk (Operation.inject fault)
        { desk with clients := desk.clients.withPool fun pool => pool.inject fault }
  | seeded
      {table : String}
      {rows : List Row} :
      Outcome desk (Operation.seed table rows)
        { desk with clients := desk.clients.withPool fun pool => pool.seed table rows }
  | applied
      {statement : Statement} :
      Outcome desk (Operation.apply statement)
        (desk.note (desk.clients.withPool fun pool => (pool.apply statement).2)
          (Report.applied (desk.pool.apply statement).1))
  | restored
      {file : Option Bytes}
      (tables : KeyMap (List Row)) :
      Outcome desk (Operation.restore file)
        (desk.note (desk.clients.withPool fun pool => { pool with tables })
          (Report.restored (Except.ok ())))
  | unreadable
      {file : Option Bytes}
      (error : Pool.RestoreError) :
      Outcome desk (Operation.restore file)
        (desk.note desk.clients (Report.restored (Except.error error)))
  | waited
      {millis : Nat} :
      Outcome desk (Operation.wait millis) { desk with clock := desk.clock + millis }

/-- An operation leads to one of its outcomes. -/
theorem outcome_act (desk : Desk) (operation : Operation) :
    desk.Outcome operation (desk.act operation) := by
  cases operation with
  | acquire name =>
      by_cases isQueued : Fault.acquire ∈ desk.pool.faults
      · rw [act_acquire_of_mem isQueued]
        exact Outcome.refused isQueued
      · rw [act_acquire_of_not_mem isQueued]
        exact Outcome.called isQueued
  | execute name statement =>
      rw [act, Clients.execute?]
      cases holds : desk.clients.holds name with
      | false => exact Outcome.notHeld rfl (Clients.holds_eq_false_iff.1 holds)
      | true =>
          rw [if_pos rfl, Pool.execute]
          have isHolder := Clients.holds_iff.1 holds
          cases taken : desk.clients.pool.takeFault Fault.execute with
          | none => exact Outcome.executed isHolder (Pool.takeFault_eq_none_iff.1 taken)
          | some pool =>
              obtain ⟨isQueued, rfl⟩ := Pool.takeFault_eq_some_iff.1 taken
              exact Outcome.struck isHolder isQueued
  | release name =>
      rw [act, Clients.release?]
      cases holds : desk.clients.holds name with
      | false => exact Outcome.notHeld rfl (Clients.holds_eq_false_iff.1 holds)
      | true => exact Outcome.released (Clients.holds_iff.1 holds)
  | drop name =>
      rw [act, Clients.drop?]
      cases holds : desk.clients.holds name with
      | false => exact Outcome.notHeld rfl (Clients.holds_eq_false_iff.1 holds)
      | true => exact Outcome.dropped (Clients.holds_iff.1 holds)
  | inject fault => exact Outcome.injected
  | seed table rows => exact Outcome.seeded
  | apply statement => exact Outcome.applied
  | restore file =>
      rw [act]
      rcases desk.pool.restore_cases file with ⟨_, tables, _, _, isRestored⟩ | ⟨error, hasFailed⟩
      · rw [isRestored]
        exact Outcome.restored tables
      · rw [hasFailed]
        exact Outcome.unreadable error
  | wait millis => exact Outcome.waited

/-! ## Along the line -/

/-- Those are turned away who are in line when their time is up. -/
theorem mem_timeouts_iff {report : Report} :
    report ∈ desk.timeouts ↔ ∃ waiter ∈ desk.waiting, waiter.due ≤ desk.clock ∧
      Report.timedOut waiter.call desk.pool.acquireTimeout = report := by
  simp only [timeouts, List.mem_map, List.mem_filter, decide_eq_true_eq, and_assoc]

/-- Those stay who are not late. -/
theorem mem_waiting_expire_iff {waiter : Waiter} :
    waiter ∈ desk.expire.waiting ↔ waiter ∈ desk.waiting ∧ desk.clock < waiter.due := by
  rw [expire, List.mem_filter, decide_eq_true_eq]

/-- A client loses the connection that it has when it gets another one. -/
theorem hand_of_holds
    {waiter : Waiter}
    (holds : desk.clients.holds waiter.name = true) :
    desk.hand waiter =
      { desk with
        clients := desk.clients.withPool fun pool => pool.grant.abandon
        log := desk.log ++ [Report.granted waiter.call, Report.dropped waiter.name] } := by
  rw [hand, Clients.seat, if_pos holds, if_pos holds]

/-- A client that has no connection gets one. -/
theorem hand_of_not_holds
    {waiter : Waiter}
    (holdsNone : desk.clients.holds waiter.name = false) :
    desk.hand waiter =
      { desk with
        clients := { pool := desk.pool.grant, holders := waiter.name :: desk.clients.holders }
        log := desk.log ++ [Report.granted waiter.call] } := by
  rw [hand, Clients.seat, if_neg (Bool.not_eq_true _ ▸ holdsNone),
    if_neg (Bool.not_eq_true _ ▸ holdsNone)]
  rfl

@[simp] theorem serve_nil (desk : Desk) : desk.serve [] = { desk with waiting := [] } := rfl

theorem serve_cons_of_isAvailable
    (available : desk.pool.isAvailable = true)
    (waiter : Waiter)
    (line : List Waiter) :
    desk.serve (waiter :: line) = (desk.hand waiter).serve line := if_pos available

/-- Nobody gets a connection if there is none. -/
theorem serve_of_not_isAvailable
    (notAvailable : desk.pool.isAvailable = false)
    (line : List Waiter) :
    desk.serve line = { desk with waiting := line } := by
  cases line with
  | nil => rfl
  | cons waiter rest => exact if_neg (Bool.not_eq_true _ ▸ notAvailable)

/-- Only those in the line that is served are kept in it. -/
theorem serve_with_waiting (desk : Desk) (others line : List Waiter) :
    { desk with waiting := others }.serve line = desk.serve line := by
  induction line generalizing desk with
  | nil => rfl
  | cons waiter rest inductionHypothesis =>
      cases available : desk.pool.isAvailable with
      | true =>
          rw [serve_cons_of_isAvailable available]
          exact (if_pos available).trans (inductionHypothesis (desk.hand waiter))
      | false =>
          rw [serve_of_not_isAvailable available]
          exact if_neg (Bool.not_eq_true _ ▸ available)

/-- A line is served one part after the other: those behind get what is left when those ahead have
been served. -/
theorem serve_append (desk : Desk) (ahead behind : List Waiter) :
    desk.serve (ahead ++ behind) =
      if (desk.serve ahead).pool.isAvailable then (desk.serve ahead).serve behind
      else { desk.serve ahead with waiting := (desk.serve ahead).waiting ++ behind } := by
  induction ahead generalizing desk with
  | nil =>
      rw [List.nil_append, serve_nil, serve_with_waiting desk [] behind]
      cases available : desk.pool.isAvailable with
      | true => exact (if_pos available).symm
      | false =>
          rw [serve_of_not_isAvailable available]
          exact (if_neg (Bool.not_eq_true _ ▸ available)).symm
  | cons waiter rest inductionHypothesis =>
      cases available : desk.pool.isAvailable with
      | true =>
          rw [List.cons_append, serve_cons_of_isAvailable available,
            serve_cons_of_isAvailable available, inductionHypothesis]
      | false =>
          rw [serve_of_not_isAvailable available, serve_of_not_isAvailable available]
          exact (if_neg (Bool.not_eq_true _ ▸ available)).symm

/-- What holds of a desk still holds after a line was served, if handing out one connection
preserves it and if it does not depend on the line. -/
theorem serve_induction
    {motive : Desk → Prop}
    (hand : ∀ desk waiter, desk.pool.isAvailable = true → motive desk → motive (desk.hand waiter))
    (line_irrelevant : ∀ desk others, motive desk → motive { desk with waiting := others })
    (initially : motive desk)
    (line : List Waiter) :
    motive (desk.serve line) := by
  induction line generalizing desk with
  | nil => exact line_irrelevant desk [] initially
  | cons waiter rest inductionHypothesis =>
      cases available : desk.pool.isAvailable with
      | true =>
          rw [serve_cons_of_isAvailable available]
          exact inductionHypothesis (hand desk waiter available initially)
      | false =>
          rw [serve_of_not_isAvailable available]
          exact line_irrelevant desk _ initially

end Desk

end Screencast
