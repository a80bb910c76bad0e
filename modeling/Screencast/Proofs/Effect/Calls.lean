import Screencast.Effect.Capture

/-!
# What a stand-in is asked

A stand-in may keep a log of its own of the calls that it answers. What a captured run keeps is
compared with this log: the steps that were resolved tell all calls in their order, each of them
once and with its success, and they tell the calls of a chain itself from those of the chains that
it detached.
-/

namespace Screencast

variable {state world : Type}

/-! ## Logs -/

/-- A call of a stand-in, and whether it succeeded. -/
inductive Call
  | query (statement : Statement) (succeeded : Bool)
  | task (description : TaskDescription) (succeeded : Bool)

namespace Call

/-- The statement of a query. -/
def statement? : Call → Option Statement
  | query statement _ => some statement
  | task _ _ => none

/-- The description of a task. -/
def description? : Call → Option TaskDescription
  | query _ _ => none
  | task description _ => some description

/-- The statements of calls. -/
def statements (calls : List Call) : List Statement := calls.filterMap statement?

/-- The tasks of calls. -/
def descriptions (calls : List Call) : List TaskDescription := calls.filterMap description?

end Call

/-- A stand-in that keeps a log beside its state, and answers as before. -/
def StandIn.logging (standIn : StandIn state world) : StandIn (state × List Call) world where
  session := standIn.session
  body := standIn.body
  query := fun statement (before, log) =>
    let (rows, after) := standIn.query statement before
    (rows, after, log ++ [Call.query statement rows.toBool])
  task := fun description (before, log) =>
    let (answer, after) := standIn.task description before
    (answer, after, log ++ [Call.task description answer.toBool])
  world := fun (before, _) => standIn.world before

/-- A recording with a log beside the state of the stand-in. -/
def Recording.withLog (recording : Recording state) (log : List Call) :
    Recording (state × List Call) :=
  { recording with state := (recording.state, log) }

/-! ## What was resolved -/

namespace Resolved

mutual

/-- The calls of a step and of the chain that it detached. -/
def calls : Resolved → List Call
  | query statement succeeded => [Call.query statement succeeded]
  | task description succeeded => [Call.task description succeeded]
  | detached _ trace => callsOfAll trace
  | _ => []

/-- The calls of steps one after another. -/
def callsOfAll : List Resolved → List Call
  | [] => []
  | step :: rest => calls step ++ callsOfAll rest

end

/-- The call of a step, if a chain makes it itself. -/
def ownCall? : Resolved → Option Call
  | query statement succeeded => some (Call.query statement succeeded)
  | task description succeeded => some (Call.task description succeeded)
  | _ => none

theorem callsOfAll_append (first second : List Resolved) :
    callsOfAll (first ++ second) = callsOfAll first ++ callsOfAll second := by
  induction first with
  | nil => simp [callsOfAll]
  | cons step rest inductionHypothesis => simp [callsOfAll, inductionHypothesis]

mutual

theorem queries_eq : (step : Resolved) → step.queries = Call.statements step.calls
  | session _ | body _ | query _ _ | task _ _ | cleanup => by
    simp [queries, calls, Call.statements, Call.statement?]
  | detached _ trace => by
    rw [queries, calls, queriesOfAll_eq trace]

theorem queriesOfAll_eq :
    (steps : List Resolved) → queriesOfAll steps = Call.statements (callsOfAll steps)
  | [] => by simp [queriesOfAll, callsOfAll, Call.statements]
  | step :: rest => by
    rw [queriesOfAll, callsOfAll, queries_eq step, queriesOfAll_eq rest, Call.statements,
      Call.statements, Call.statements, List.filterMap_append]

end

mutual

theorem tasks_eq : (step : Resolved) → step.tasks = Call.descriptions step.calls
  | session _ | body _ | query _ _ | task _ _ | cleanup => by
    simp [tasks, calls, Call.descriptions, Call.description?]
  | detached _ trace => by
    rw [tasks, calls, tasksOfAll_eq trace]

theorem tasksOfAll_eq :
    (steps : List Resolved) → tasksOfAll steps = Call.descriptions (callsOfAll steps)
  | [] => by simp [tasksOfAll, callsOfAll, Call.descriptions]
  | step :: rest => by
    rw [tasksOfAll, callsOfAll, tasks_eq step, tasksOfAll_eq rest, Call.descriptions,
      Call.descriptions, Call.descriptions, List.filterMap_append]

end

end Resolved

namespace Outcome

/-- The calls that a chain made itself. -/
def ownCalls (outcome : Outcome) : List Call := outcome.trace.filterMap Resolved.ownCall?

/-- The calls of a chain and of every chain that it detached. -/
def allCalls (outcome : Outcome) : List Call := Resolved.callsOfAll outcome.trace

theorem queries_eq (outcome : Outcome) : outcome.queries = Call.statements outcome.ownCalls := by
  have same : Resolved.ownQuery? = fun step => step.ownCall?.bind Call.statement? := by
    funext step
    cases step <;> rfl
  rw [queries, ownCalls, Call.statements, List.filterMap_filterMap, same]

theorem tasks_eq (outcome : Outcome) : outcome.tasks = Call.descriptions outcome.ownCalls := by
  have same : Resolved.ownTask? = fun step => step.ownCall?.bind Call.description? := by
    funext step
    cases step <;> rfl
  rw [tasks, ownCalls, Call.descriptions, List.filterMap_filterMap, same]

theorem allQueries_eq (outcome : Outcome) :
    outcome.allQueries = Call.statements outcome.allCalls :=
  Resolved.queriesOfAll_eq outcome.trace

theorem allTasks_eq (outcome : Outcome) :
    outcome.allTasks = Call.descriptions outcome.allCalls :=
  Resolved.tasksOfAll_eq outcome.trace

end Outcome

/-! ## What is called for -/

/-- A call that is made within so many detached chains. -/
structure Made where
  depth : Nat
  call : Call

namespace Made

/-- A call that is made within one more detached chain. -/
def deeper (made : Made) : Made := { made with depth := made.depth + 1 }

/-- The calls that are not made within detached chains. -/
def own (made : List Made) : List Call := (made.filter (·.depth = 0)).map call

@[simp] theorem own_append (first second : List Made) :
    own (first ++ second) = own first ++ own second := by
  simp [own]

@[simp] theorem own_map_deeper (made : List Made) : own (made.map deeper) = [] := by
  simp [own, deeper]

@[simp] theorem map_call_map_deeper (made : List Made) :
    (made.map deeper).map call = made.map call := by
  simp [deeper, Function.comp_def]

end Made

namespace Chain

/-- The calls that a chain makes, in their order, while a stand-in answers it, and the recording
that it leaves. A chain that it detaches makes all its calls before the chain goes on. -/
inductive Makes (standIn : StandIn state world) :
    Chain world → Recording state → List Made → Recording state → Prop
  | respond (terminal : Terminal) (recording : Recording state) :
      Makes standIn (respond terminal) recording [] recording
  | session (owed : List Cleanup) {next : Option Session → Chain world}
      {recording after : Recording state} {made : List Made}
      (later : Makes standIn (next standIn.session) recording made after) :
      Makes standIn (session owed next) recording made after
  | body (owed : List Cleanup) {next : Bytes → Chain world}
      {recording after : Recording state} {made : List Made}
      (later : Makes standIn (next standIn.body) recording made after) :
      Makes standIn (body owed next) recording made after
  | query {result : Type} (owed : List Cleanup) {issued : Query result}
      {next : Except QueryError result → Chain world} {rows : Except QueryError (List Row)}
      {recording between after : Recording state} {made : List Made}
      (answered : recording.query standIn issued.statement = (rows, between))
      (later : Makes standIn (next (issued.resolve rows)) between made after) :
      Makes standIn (query owed issued next) recording
        ({ depth := 0, call := Call.query issued.statement rows.toBool } :: made) after
  | task {result : Type} (owed : List Cleanup) {call : Task world result}
      {next : Except TaskError result → Chain world} {answer : Except TaskError Answer}
      {recording between after : Recording state} {made : List Made}
      (answered : recording.task standIn call.description = (answer, between))
      (later : Makes standIn (next (call.resolve answer)) between made after) :
      Makes standIn (task owed call next) recording
        ({ depth := 0, call := Call.task call.description answer.toBool } :: made) after
  | detach {aside rest : Chain world} {recording between after : Recording state}
      {inside made : List Made}
      (first : Makes standIn aside recording inside between)
      (later : Makes standIn rest between made after) :
      Makes standIn (detach aside rest) recording (inside.map Made.deeper ++ made) after
  | ensure {guarded : Chain world} (cleanup : Cleanup) {recording after : Recording state}
      {made : List Made}
      (before : Makes standIn guarded recording made after) :
      Makes standIn (ensure guarded cleanup) recording made (after.note (Event.cleaned cleanup))
  | note (event : Event) {rest : Chain world} {recording after : Recording state}
      {made : List Made}
      (later : Makes standIn rest (recording.note event) made after) :
      Makes standIn (note event rest) recording made after
  | fresh {next : Uuid → Chain world} {recording after : Recording state} {made : List Made}
      (later : Makes standIn (next recording.draw.1) recording.draw.2 made after) :
      Makes standIn (fresh next) recording made after
  | observe {next : world → Chain world} {recording after : Recording state} {made : List Made}
      (later : Makes standIn (next (standIn.world recording.state)) recording made after) :
      Makes standIn (observe next) recording made after

variable {standIn : StandIn state world}

/-- Every chain makes some calls, and leaves what a captured run leaves. -/
theorem exists_makes (standIn : StandIn state world) (chain : Chain world)
    (recording : Recording state) :
    ∃ made, chain.Makes standIn recording made (chain.capture standIn recording).2 := by
  induction chain generalizing recording with
  | respond terminal => exact ⟨_, Makes.respond terminal recording⟩
  | session owed next inductionHypothesis =>
      obtain ⟨made, later⟩ := inductionHypothesis standIn.session recording
      exact ⟨made, Makes.session owed later⟩
  | body owed next inductionHypothesis =>
      obtain ⟨made, later⟩ := inductionHypothesis standIn.body recording
      exact ⟨made, Makes.body owed later⟩
  | query owed issued next inductionHypothesis =>
      obtain ⟨made, later⟩ := inductionHypothesis
        (issued.resolve (recording.query standIn issued.statement).1)
        (recording.query standIn issued.statement).2
      exact ⟨_, Makes.query owed rfl later⟩
  | task owed call next inductionHypothesis =>
      obtain ⟨made, later⟩ := inductionHypothesis
        (call.resolve (recording.task standIn call.description).1)
        (recording.task standIn call.description).2
      exact ⟨_, Makes.task owed rfl later⟩
  | detach aside rest asideHypothesis restHypothesis =>
      obtain ⟨inside, first⟩ := asideHypothesis recording
      obtain ⟨made, later⟩ := restHypothesis (aside.capture standIn recording).2
      exact ⟨_, Makes.detach first later⟩
  | ensure guarded cleanup inductionHypothesis =>
      obtain ⟨made, before⟩ := inductionHypothesis recording
      exact ⟨made, Makes.ensure cleanup before⟩
  | note event rest inductionHypothesis =>
      obtain ⟨made, later⟩ := inductionHypothesis (recording.note event)
      exact ⟨made, Makes.note event later⟩
  | fresh next inductionHypothesis =>
      obtain ⟨made, later⟩ := inductionHypothesis recording.draw.1 recording.draw.2
      exact ⟨made, Makes.fresh later⟩
  | observe next inductionHypothesis =>
      obtain ⟨made, later⟩ := inductionHypothesis (standIn.world recording.state) recording
      exact ⟨made, Makes.observe later⟩

/-! ## What is kept of the calls -/

/-- An outcome tells the calls that were made: all of them, and those of the chain itself. -/
structure Tells (outcome : Outcome) (made : List Made) : Prop where
  all : outcome.allCalls = made.map Made.call
  own : outcome.ownCalls = Made.own made

/-- One more step at the beginning tells its calls before the others. -/
theorem Tells.after
    {outcome : Outcome}
    {step : Resolved}
    {made : List Made}
    (tells : Tells outcome made)
    (inside : List Made)
    (all : step.calls = inside.map Made.call)
    (own : step.ownCall?.toList = Made.own inside) :
    Tells (outcome.after step) (inside ++ made) where
  all := by
    have later := tells.all
    rw [Outcome.allCalls] at later
    rw [Outcome.allCalls, Outcome.after, Resolved.callsOfAll, all, later, List.map_append]
  own := by
    have later := tells.own
    rw [Outcome.ownCalls] at later
    rw [Outcome.ownCalls, Outcome.after, Made.own_append, ← own, ← later]
    cases step <;> rfl

/-- A captured run tells the calls that a chain makes. -/
theorem Makes.tells
    {chain : Chain world}
    {recording after : Recording state}
    {made : List Made}
    (makes : chain.Makes standIn recording made after) :
    (chain.capture standIn recording).2 = after ∧
      Tells (chain.capture standIn recording).1 made := by
  induction makes with
  | respond terminal recording =>
      exact ⟨rfl, { all := by simp [Outcome.allCalls, Resolved.callsOfAll, capture], own := rfl }⟩
  | session owed later inductionHypothesis =>
      obtain ⟨left, tells⟩ := inductionHypothesis
      exact ⟨left, tells.after [] rfl rfl⟩
  | body owed later inductionHypothesis =>
      obtain ⟨left, tells⟩ := inductionHypothesis
      exact ⟨left, tells.after [] rfl rfl⟩
  | query owed answered later inductionHypothesis =>
      obtain ⟨left, tells⟩ := inductionHypothesis
      simp only [capture, answered]
      exact ⟨left, tells.after [_] rfl rfl⟩
  | task owed answered later inductionHypothesis =>
      obtain ⟨left, tells⟩ := inductionHypothesis
      simp only [capture, answered]
      exact ⟨left, tells.after [_] rfl rfl⟩
  | detach first later firstHypothesis laterHypothesis =>
      obtain ⟨between, asideTells⟩ := firstHypothesis
      obtain ⟨left, tells⟩ := laterHypothesis
      simp only [capture, between]
      refine ⟨left, tells.after _ ?_ ?_⟩
      · rw [Made.map_call_map_deeper]
        exact asideTells.all
      · rw [Made.own_map_deeper]
        rfl
  | ensure cleanup before inductionHypothesis =>
      obtain ⟨left, tells⟩ := inductionHypothesis
      refine ⟨congrArg (Recording.note · (Event.cleaned cleanup)) left, ?_, ?_⟩
      · rw [capture, Outcome.allCalls, Resolved.callsOfAll_append, ← tells.all]
        exact List.append_nil _
      · rw [capture, Outcome.ownCalls, List.filterMap_append, ← tells.own]
        exact List.append_nil _
  | note event later inductionHypothesis => exact inductionHypothesis
  | fresh later inductionHypothesis => exact inductionHypothesis
  | observe later inductionHypothesis => exact inductionHypothesis

/-- A stand-in with a log has the calls that a chain makes in it. The log changes nothing else. -/
theorem Makes.capture_logging
    {chain : Chain world}
    {recording after : Recording state}
    {made : List Made}
    (makes : chain.Makes standIn recording made after)
    (log : List Call) :
    (chain.capture standIn.logging (recording.withLog log)).1 =
        (chain.capture standIn recording).1 ∧
      (chain.capture standIn.logging (recording.withLog log)).2 =
        after.withLog (log ++ made.map Made.call) := by
  induction makes generalizing log with
  | respond terminal recording =>
      refine ⟨rfl, ?_⟩
      rw [List.map_nil, List.append_nil]
      rfl
  | session owed later inductionHypothesis =>
      obtain ⟨same, left⟩ := inductionHypothesis log
      exact ⟨congrArg (Outcome.after _) same, left⟩
  | body owed later inductionHypothesis =>
      obtain ⟨same, left⟩ := inductionHypothesis log
      exact ⟨congrArg (Outcome.after _) same, left⟩
  | @query _ owed issued next rows recording between after made answered later
      inductionHypothesis =>
      obtain ⟨same, left⟩ := inductionHypothesis (log ++ [Call.query issued.statement rows.toBool])
      obtain ⟨rfl, rfl⟩ := Prod.ext_iff.1 answered
      rw [List.append_assoc] at left
      exact ⟨congrArg (Outcome.after _) same, left⟩
  | @task _ owed call next answer recording between after made answered later
      inductionHypothesis =>
      obtain ⟨same, left⟩ := inductionHypothesis (log ++ [Call.task call.description answer.toBool])
      obtain ⟨rfl, rfl⟩ := Prod.ext_iff.1 answered
      rw [List.append_assoc] at left
      exact ⟨congrArg (Outcome.after _) same, left⟩
  | @detach aside rest recording between after inside made first later firstHypothesis
      laterHypothesis =>
      obtain rfl := first.tells.1
      obtain ⟨sameAside, leftByAside⟩ := firstHypothesis log
      obtain ⟨same, left⟩ := laterHypothesis (log ++ inside.map Made.call)
      simp only [capture, leftByAside, sameAside, same, left, List.map_append,
        Made.map_call_map_deeper, List.append_assoc, and_self]
  | ensure cleanup before inductionHypothesis =>
      obtain ⟨same, left⟩ := inductionHypothesis log
      let cleaned (outcome : Outcome) : Outcome :=
        { outcome with trace := outcome.trace ++ [Resolved.cleanup] }
      exact ⟨congrArg cleaned same, congrArg (Recording.note · (Event.cleaned cleanup)) left⟩
  | note event later inductionHypothesis => exact inductionHypothesis log
  | fresh later inductionHypothesis => exact inductionHypothesis log
  | observe later inductionHypothesis => exact inductionHypothesis log

end Chain

/-- The trace of a captured run is faithful, whatever answers the chain. Let the stand-in keep a log
of its own: the run is the same, and all calls of the trace are those in the log, in their order,
each of them once and with its success. All statements and all tasks of the outcome are those of the
log, and its own ones are those of the calls that are not made within a detached chain. -/
theorem trace_tells_calls
    (standIn : StandIn state world)
    (chain : Chain world)
    (recording : Recording state) :
    ∃ made, chain.Makes standIn recording made (chain.capture standIn recording).2 ∧
      ∀ log,
        let (outcome, left) := chain.capture standIn.logging (recording.withLog log)
        outcome = (chain.capture standIn recording).1 ∧
          left = (chain.capture standIn recording).2.withLog (log ++ outcome.allCalls) ∧
          outcome.allCalls = made.map Made.call ∧
          outcome.allQueries = Call.statements outcome.allCalls ∧
          outcome.allTasks = Call.descriptions outcome.allCalls ∧
          outcome.ownCalls = Made.own made ∧
          outcome.queries = Call.statements outcome.ownCalls ∧
          outcome.tasks = Call.descriptions outcome.ownCalls := by
  obtain ⟨made, makes⟩ := chain.exists_makes standIn recording
  refine ⟨made, makes, fun log => ?_⟩
  obtain ⟨same, left⟩ := makes.capture_logging log
  have tells := makes.tells.2
  rw [← same] at tells
  refine ⟨same, ?_, tells.all, Outcome.allQueries_eq _, Outcome.allTasks_eq _, tells.own,
    Outcome.queries_eq _, Outcome.tasks_eq _⟩
  rw [left, tells.all]

end Screencast
