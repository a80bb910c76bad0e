import Screencast.Effect.Capture
import Screencast.Effect.Interpreter
import Screencast.Effect.Step
import Screencast.Proofs.Effect.Passage

/-!
# What chains send

Whatever a chain is told, its terminal and those of its detached chains are of a kind, and it never
notes that a response is malformed. A run of such a chain comes to terminals of the kind only.
-/

namespace Screencast

namespace Event

/-- An event does not tell of a malformed response. -/
def IsSound (event : Event) : Prop := ∀ detail, event.served ≠ logged (invalidResponse detail)

/-- An entry of the log with another message is sound. -/
theorem isSound_logged
    {entry : LogEntry}
    (isOther : entry.message ≠ "invalid response") :
    (logged entry).IsSound := by
  rintro detail same
  cases same
  exact isOther rfl

theorem isSound_cleaned (cleanup : Cleanup) : (cleaned cleanup).IsSound := by
  rintro detail ⟨⟩

theorem isSound_queried (statement : Statement) : (queried statement).IsSound := by
  rintro detail ⟨⟩

theorem isSound_asked (description : TaskDescription) : (asked description).IsSound := by
  rintro detail ⟨⟩

theorem IsSound.served {event : Event} (sound : event.IsSound) : event.served.IsSound := by
  intro detail
  cases event <;> exact sound detail

end Event

/-! ## Outcomes -/

namespace Resolved

mutual

/-- The terminals of the chains that a step and its chain detached. -/
def terminals : Resolved → List Terminal
  | detached terminal trace => terminal :: terminalsOfAll trace
  | _ => []

/-- The terminals of the chains that steps one after another detached. -/
def terminalsOfAll : List Resolved → List Terminal
  | [] => []
  | step :: rest => terminals step ++ terminalsOfAll rest

end

theorem terminalsOfAll_append_cleanup (trace : List Resolved) :
    terminalsOfAll (trace ++ [cleanup]) = terminalsOfAll trace := by
  induction trace with
  | nil => rfl
  | cons step rest inductionHypothesis =>
      rw [List.cons_append, terminalsOfAll, terminalsOfAll, inductionHypothesis]

end Resolved

/-- The terminal of a chain and those of every chain that it detached. -/
def Outcome.allTerminals (outcome : Outcome) : List Terminal :=
  outcome.terminal :: Resolved.terminalsOfAll outcome.trace

/-! ## Chains -/

namespace Chain

variable {world result other : Type}

/-- Whatever a chain is told, the terminals of it and of its detached chains are allowed, and it
notes only sound events. -/
inductive SendsOnly (allowed : Terminal → Prop) : Chain world → Prop
  | respond {terminal : Terminal} (isAllowed : allowed terminal) :
      SendsOnly allowed (respond terminal)
  | session (owed : List Cleanup) {next : Option Session → Chain world}
      (follow : ∀ found, SendsOnly allowed (next found)) : SendsOnly allowed (session owed next)
  | body (owed : List Cleanup) {next : Bytes → Chain world}
      (follow : ∀ bytes, SendsOnly allowed (next bytes)) : SendsOnly allowed (body owed next)
  | query {result : Type} (owed : List Cleanup) (issued : Query result)
      {next : Except QueryError result → Chain world}
      (follow : ∀ outcome, SendsOnly allowed (next outcome)) :
      SendsOnly allowed (query owed issued next)
  | task {result : Type} (owed : List Cleanup) (call : Task world result)
      {next : Except TaskError result → Chain world}
      (follow : ∀ outcome, SendsOnly allowed (next outcome)) :
      SendsOnly allowed (task owed call next)
  | detach {aside rest : Chain world} (first : SendsOnly allowed aside)
      (second : SendsOnly allowed rest) : SendsOnly allowed (detach aside rest)
  | ensure {guarded : Chain world} (cleanup : Cleanup) (only : SendsOnly allowed guarded) :
      SendsOnly allowed (ensure guarded cleanup)
  | note {event : Event} {rest : Chain world} (sound : event.IsSound)
      (only : SendsOnly allowed rest) : SendsOnly allowed (note event rest)
  | fresh {next : Uuid → Chain world} (follow : ∀ id, SendsOnly allowed (next id)) :
      SendsOnly allowed (fresh next)
  | observe {next : world → Chain world} (follow : ∀ seen, SendsOnly allowed (next seen)) :
      SendsOnly allowed (observe next)

variable {allowed : Terminal → Prop}

/-! ### Building blocks -/

/-- A terminal that can be sent is sent without a note. -/
theorem sendsOnly_send
    {terminal : Terminal}
    (isAllowed : allowed terminal)
    (faultless : terminal.fault? = none) :
    (send terminal : Chain world).SendsOnly allowed := by
  unfold send
  rw [faultless]
  exact SendsOnly.respond isAllowed

/-- Doing cleanups first sends nothing else. -/
theorem SendsOnly.clean
    {rest : Chain world}
    (only : rest.SendsOnly allowed)
    (cleanups : List Cleanup) :
    (Chain.clean cleanups rest).SendsOnly allowed := by
  induction cleanups with
  | nil => exact only
  | cons cleanup cleanups inductionHypothesis =>
      exact SendsOnly.note (Event.isSound_cleaned cleanup) inductionHypothesis

/-- Reporting a failure sends a page, where pages are allowed. -/
theorem sendsOnly_failOwing
    (pages : ∀ node status, allowed (Terminal.html node status))
    (owed : List Cleanup)
    (error : ServerError) :
    (failOwing owed error : Chain world).SendsOnly allowed := by
  have ending : (Chain.clean owed (respond (Terminal.html error.page error.status)) :
      Chain world).SendsOnly allowed :=
    (SendsOnly.respond (pages _ _)).clean owed
  unfold failOwing
  dsimp only
  split
  · exact SendsOnly.note (Event.isSound_logged (show "request failed" ≠ _ by decide)) ending
  · exact ending

/-- What follows a query that succeeded is all that matters, where pages are allowed. -/
theorem sendsOnly_queryOrFail
    (pages : ∀ node status, allowed (Terminal.html node status))
    (issued : Query result)
    {next : result → Chain world}
    (follow : ∀ value, (next value).SendsOnly allowed) :
    (queryOrFail issued next).SendsOnly allowed := by
  refine SendsOnly.query [] issued fun outcome => ?_
  cases outcome with
  | ok value => exact follow value
  | error error => exact sendsOnly_failOwing pages [] _

/-- What follows a task that succeeded is all that matters, where pages are allowed. -/
theorem sendsOnly_awaitOrFail
    (pages : ∀ node status, allowed (Terminal.html node status))
    (call : Task world result)
    (publicMessage : String)
    {next : result → Chain world}
    (follow : ∀ value, (next value).SendsOnly allowed) :
    (awaitOrFail call publicMessage next).SendsOnly allowed := by
  refine SendsOnly.task [] call fun outcome => ?_
  cases outcome with
  | ok value => exact follow value
  | error error => exact sendsOnly_failOwing pages [] _

/-- A chain that no visitor waits for ends with an empty text. -/
theorem sendsOnly_logFailure
    (silent : allowed (Terminal.text "" Status.ok []))
    (context : String)
    (failure : Option String) :
    (logFailure context failure : Chain world).SendsOnly allowed := by
  cases failure with
  | none => exact SendsOnly.respond silent
  | some message =>
      exact SendsOnly.note (Event.isSound_logged (show "side effect failed" ≠ _ by decide))
        (SendsOnly.respond silent)

/-- Taking the building steps of the rest of a chain sends nothing else. -/
theorem SendsOnly.continuing
    {aside rest : Chain world}
    (first : aside.SendsOnly allowed)
    (second : rest.SendsOnly allowed) :
    (Chain.besides.continuing aside rest).SendsOnly allowed := by
  induction second with
  | note sound only inductionHypothesis => exact SendsOnly.note sound inductionHypothesis
  | fresh follow inductionHypothesis => exact SendsOnly.fresh inductionHypothesis
  | observe follow inductionHypothesis => exact SendsOnly.observe inductionHypothesis
  | respond isAllowed => exact SendsOnly.detach first (SendsOnly.respond isAllowed)
  | session owed follow => exact SendsOnly.detach first (SendsOnly.session owed follow)
  | body owed follow => exact SendsOnly.detach first (SendsOnly.body owed follow)
  | query owed issued follow => exact SendsOnly.detach first (SendsOnly.query owed issued follow)
  | task owed call follow => exact SendsOnly.detach first (SendsOnly.task owed call follow)
  | detach aside rest => exact SendsOnly.detach first (SendsOnly.detach aside rest)
  | ensure cleanup only => exact SendsOnly.detach first (SendsOnly.ensure cleanup only)

/-- A chain that runs another one on its own sends what the two send. -/
theorem SendsOnly.besides
    {aside rest : Chain world}
    (first : aside.SendsOnly allowed)
    (second : rest.SendsOnly allowed) :
    (Chain.besides aside rest).SendsOnly allowed := by
  induction first with
  | note sound only inductionHypothesis => exact SendsOnly.note sound inductionHypothesis
  | fresh follow inductionHypothesis => exact SendsOnly.fresh inductionHypothesis
  | observe follow inductionHypothesis => exact SendsOnly.observe inductionHypothesis
  | respond isAllowed => exact (SendsOnly.respond isAllowed).continuing second
  | session owed follow => exact (SendsOnly.session owed follow).continuing second
  | body owed follow => exact (SendsOnly.body owed follow).continuing second
  | query owed issued follow => exact (SendsOnly.query owed issued follow).continuing second
  | task owed call follow => exact (SendsOnly.task owed call follow).continuing second
  | detach aside rest => exact (SendsOnly.detach aside rest).continuing second
  | ensure cleanup only => exact (SendsOnly.ensure cleanup only).continuing second

/-- Logging failed queries and tasks sends nothing else. -/
theorem SendsOnly.traced
    {chain : Chain world}
    (only : chain.SendsOnly allowed) :
    chain.traced.SendsOnly allowed := by
  induction only with
  | respond isAllowed => exact SendsOnly.respond isAllowed
  | session owed _ inductionHypothesis => exact SendsOnly.session owed inductionHypothesis
  | body owed _ inductionHypothesis => exact SendsOnly.body owed inductionHypothesis
  | query owed issued _ inductionHypothesis =>
      refine SendsOnly.query owed issued fun outcome => ?_
      cases outcome with
      | ok value => exact inductionHypothesis (Except.ok value)
      | error error =>
          exact SendsOnly.note (Event.isSound_logged (show "run_query: failed" ≠ _ by decide))
            (inductionHypothesis (Except.error error))
  | task owed call _ inductionHypothesis =>
      refine SendsOnly.task owed call fun outcome => ?_
      cases outcome with
      | ok value => exact inductionHypothesis (Except.ok value)
      | error error =>
          exact SendsOnly.note (Event.isSound_logged (show "await_async: failed" ≠ _ by decide))
            (inductionHypothesis (Except.error error))
  | detach _ _ asideHypothesis restHypothesis =>
      exact SendsOnly.detach asideHypothesis restHypothesis
  | ensure cleanup _ inductionHypothesis => exact SendsOnly.ensure cleanup inductionHypothesis
  | note sound _ inductionHypothesis => exact SendsOnly.note sound inductionHypothesis
  | fresh _ inductionHypothesis => exact SendsOnly.fresh inductionHypothesis
  | observe _ inductionHypothesis => exact SendsOnly.observe inductionHypothesis

/-! ### Runs -/

/-- What is left of a chain after a step sends nothing else, and the step notes only sound events,
where pages are allowed. -/
theorem SendsOnly.takes
    {chain last : Chain world}
    {given : List (Delivery world)}
    {told : List Event}
    {opened : List Cleanup}
    (only : chain.SendsOnly allowed)
    (pages : ∀ node status, allowed (Terminal.html node status))
    (takes : chain.Takes given told opened last) :
    last.SendsOnly allowed ∧ ∀ event ∈ told, event.IsSound := by
  cases takes with
  | session owed next found =>
      cases only with
      | session _ follow => exact ⟨follow found, List.forall_mem_nil _⟩
  | noSession owed next error =>
      exact ⟨sendsOnly_failOwing pages owed error, List.forall_mem_nil _⟩
  | body owed next bytes =>
      cases only with
      | body _ follow => exact ⟨follow bytes, List.forall_mem_nil _⟩
  | noBody owed next error =>
      exact ⟨sendsOnly_failOwing pages owed error, List.forall_mem_nil _⟩
  | query owed issued next outcome =>
      cases only with
      | query _ _ follow => exact ⟨follow outcome, List.forall_mem_nil _⟩
  | task owed call next outcome =>
      cases only with
      | task _ _ follow => exact ⟨follow outcome, List.forall_mem_nil _⟩
  | detach aside rest =>
      cases only with
      | detach _ second => exact ⟨second, List.forall_mem_nil _⟩
  | ensure guarded cleanup =>
      cases only with
      | ensure _ only => exact ⟨only, List.forall_mem_nil _⟩
  | note event rest =>
      cases only with
      | note sound only => exact ⟨only, List.forall_mem_singleton.2 sound⟩
  | fresh next id =>
      cases only with
      | fresh follow => exact ⟨follow id, List.forall_mem_nil _⟩
  | observe next outside =>
      cases only with
      | observe follow => exact ⟨follow outside, List.forall_mem_nil _⟩

variable {state : Type}

/-- A captured run comes to allowed terminals only, and adds only sound events to the journal. -/
theorem SendsOnly.capture
    {chain : Chain world}
    (only : chain.SendsOnly allowed)
    (standIn : StandIn state world)
    (recording : Recording state) :
    (∀ terminal ∈ (chain.capture standIn recording).1.allTerminals, allowed terminal) ∧
      ∀ event ∈ (chain.capture standIn recording).2.journal,
        event ∈ recording.journal ∨ event.IsSound := by
  have noted {before : Recording state} {event : Event} (sound : event.IsSound) :
      ∀ other ∈ (before.note event).journal, other ∈ before.journal ∨ other.IsSound := by
    intro other present
    refine (List.mem_append.1 present).imp_right fun isIt => ?_
    exact List.mem_singleton.1 isIt ▸ sound
  -- What was sound after the first steps is sound after all of them.
  have later {before between after : Recording state}
      (first : ∀ event ∈ between.journal, event ∈ before.journal ∨ event.IsSound)
      (second : ∀ event ∈ after.journal, event ∈ between.journal ∨ event.IsSound) :
      ∀ event ∈ after.journal, event ∈ before.journal ∨ event.IsSound :=
    fun event present => (second event present).elim (first event) Or.inr
  induction only generalizing recording with
  | respond isAllowed =>
      exact ⟨List.forall_mem_singleton.2 isAllowed, fun event present => Or.inl present⟩
  | session owed _ inductionHypothesis => exact inductionHypothesis _ recording
  | body owed _ inductionHypothesis => exact inductionHypothesis _ recording
  | query owed issued _ inductionHypothesis =>
      obtain ⟨terminals, events⟩ := inductionHypothesis
        (issued.resolve (recording.query standIn issued.statement).1)
        (recording.query standIn issued.statement).2
      exact ⟨terminals, later (noted (Event.isSound_queried _)) events⟩
  | task owed call _ inductionHypothesis =>
      obtain ⟨terminals, events⟩ := inductionHypothesis
        (call.resolve (recording.task standIn call.description).1)
        (recording.task standIn call.description).2
      exact ⟨terminals, later (noted (Event.isSound_asked _)) events⟩
  | detach _ _ asideHypothesis restHypothesis =>
      obtain ⟨asideTerminals, asideEvents⟩ := asideHypothesis recording
      obtain ⟨terminals, events⟩ := restHypothesis _
      refine ⟨fun terminal present => ?_, later asideEvents events⟩
      rcases List.mem_cons.1 present with rfl | present
      · exact terminals _ List.mem_cons_self
      · rcases List.mem_append.1 present with inAside | inRest
        · exact asideTerminals terminal inAside
        · exact terminals terminal (List.mem_cons_of_mem _ inRest)
  | ensure cleanup _ inductionHypothesis =>
      obtain ⟨terminals, events⟩ := inductionHypothesis recording
      refine ⟨?_, later events (noted (Event.isSound_cleaned cleanup))⟩
      intro terminal present
      refine terminals terminal ?_
      change terminal ∈ _ :: Resolved.terminalsOfAll (_ ++ [Resolved.cleanup]) at present
      rwa [Resolved.terminalsOfAll_append_cleanup] at present
  | note sound _ inductionHypothesis =>
      obtain ⟨terminals, events⟩ := inductionHypothesis (recording.note _)
      exact ⟨terminals, later (noted sound) events⟩
  | fresh _ inductionHypothesis => exact inductionHypothesis _ recording.draw.2
  | observe _ inductionHypothesis => exact inductionHypothesis _ recording

end Chain

/-! ## Steps -/

namespace Step

variable {world result other error : Type} {allowed : Terminal → Prop}

/-- A step leaves it to what follows which terminals are sent. -/
def LeavesTerminals (allowed : Terminal → Prop) (step : Step world result) : Prop :=
  ∀ rest : Rest world result,
    (∀ value, (rest.next value).SendsOnly allowed) → (step.run rest).SendsOnly allowed

theorem leavesTerminals_pure (value : result) :
    (pure value : Step world result).LeavesTerminals allowed :=
  fun _ follow => follow value

theorem leavesTerminals_session : (session : Step world (Option Session)).LeavesTerminals allowed :=
  fun rest follow => Chain.SendsOnly.session rest.owed follow

theorem leavesTerminals_observe : (observe : Step world world).LeavesTerminals allowed :=
  fun _ follow => Chain.SendsOnly.observe follow

/-- What a query yields, or an error page, leaves the terminals to what follows, where pages are
allowed. -/
theorem leavesTerminals_queryOrFail
    (pages : ∀ node status, allowed (Terminal.html node status))
    (issued : Query result) :
    (queryOrFail issued : Step world result).LeavesTerminals allowed := by
  intro rest follow
  refine Chain.SendsOnly.query rest.owed issued fun outcome => ?_
  cases outcome with
  | ok value => exact follow value
  | error error => exact Chain.sendsOnly_failOwing pages rest.owed (ServerError.ofQuery error)

variable {step : Step world result}

theorem LeavesTerminals.andThen
    {follow : result → Step world other}
    (first : step.LeavesTerminals allowed)
    (second : ∀ value, (follow value).LeavesTerminals allowed) :
    (step.andThen follow).LeavesTerminals allowed :=
  fun _ only => first _ fun value => second value _ only

theorem LeavesTerminals.map
    (leaves : step.LeavesTerminals allowed)
    (change : result → other) :
    (step.map change).LeavesTerminals allowed :=
  fun _ only => leaves _ fun value => only (change value)

theorem LeavesTerminals.finish
    (leaves : step.LeavesTerminals allowed)
    {close : result → Chain world}
    (only : ∀ value, (close value).SendsOnly allowed) :
    (step.finish close).SendsOnly allowed :=
  leaves _ only

end Step

end Screencast
