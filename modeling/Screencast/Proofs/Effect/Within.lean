import Screencast.Effect.Stubs

/-!
# What a chain may issue

A chain is within a kind of statements and tasks if it issues no others, whatever it is told. What
such statements and tasks keep, a run of the chain keeps, even if some of its queries fail.
-/

namespace Screencast

/-! ## Queries that failed -/

namespace Resolved

mutual

/-- The statements that failed in a step and in the chain that it detached. -/
def failures : Resolved → List Statement
  | query statement succeeded => if succeeded then [] else [statement]
  | detached _ trace => failuresOfAll trace
  | _ => []

/-- The statements that failed in steps one after another. -/
def failuresOfAll : List Resolved → List Statement
  | [] => []
  | step :: rest => failures step ++ failuresOfAll rest

end

@[simp] theorem tasks_query (statement : Statement) (succeeded : Bool) :
    (query statement succeeded).tasks = [] := rfl

@[simp] theorem tasks_task (description : TaskDescription) (succeeded : Bool) :
    (task description succeeded).tasks = [description] := rfl

@[simp] theorem failures_query_true (statement : Statement) :
    (query statement true).failures = [] := rfl

@[simp] theorem failures_query_false (statement : Statement) :
    (query statement false).failures = [statement] := rfl

@[simp] theorem failures_task (description : TaskDescription) (succeeded : Bool) :
    (task description succeeded).failures = [] := rfl

end Resolved

namespace Outcome

/-- The statements that failed in a chain and in every chain that it detached. -/
def failedQueries (outcome : Outcome) : List Statement := Resolved.failuresOfAll outcome.trace

@[simp] theorem failedQueries_after (step : Resolved) (outcome : Outcome) :
    (outcome.after step).failedQueries = step.failures ++ outcome.failedQueries := rfl

@[simp] theorem allTasks_after (step : Resolved) (outcome : Outcome) :
    (outcome.after step).allTasks = step.tasks ++ outcome.allTasks := rfl

end Outcome

namespace Resolved

theorem tasksOfAll_append_cleanup (trace : List Resolved) :
    tasksOfAll (trace ++ [cleanup]) = tasksOfAll trace := by
  induction trace with
  | nil => rfl
  | cons step rest inductionHypothesis =>
      rw [List.cons_append, tasksOfAll, tasksOfAll, inductionHypothesis]

theorem queriesOfAll_append_cleanup (trace : List Resolved) :
    queriesOfAll (trace ++ [cleanup]) = queriesOfAll trace := by
  induction trace with
  | nil => rfl
  | cons step rest inductionHypothesis =>
      rw [List.cons_append, queriesOfAll, queriesOfAll, inductionHypothesis]

theorem failuresOfAll_append_cleanup (trace : List Resolved) :
    failuresOfAll (trace ++ [cleanup]) = failuresOfAll trace := by
  induction trace with
  | nil => rfl
  | cons step rest inductionHypothesis =>
      rw [List.cons_append, failuresOfAll, failuresOfAll, inductionHypothesis]

end Resolved

/-! ## Chains within a kind -/

namespace Chain

variable {world : Type}

/-- Whatever a chain is told, the statements and tasks that it and its detached chains issue are of
a kind. -/
inductive IsWithin (statements : Statement → Prop) (tasks : TaskDescription → Prop) :
    Chain world → Prop
  | respond (terminal : Terminal) : IsWithin statements tasks (respond terminal)
  | session (owed : List Cleanup) {next : Option Session → Chain world}
      (follow : ∀ found, IsWithin statements tasks (next found)) :
      IsWithin statements tasks (session owed next)
  | body (owed : List Cleanup) {next : Bytes → Chain world}
      (follow : ∀ bytes, IsWithin statements tasks (next bytes)) :
      IsWithin statements tasks (body owed next)
  | query {result : Type} (owed : List Cleanup) {issued : Query result}
      {next : Except QueryError result → Chain world} (isOfKind : statements issued.statement)
      (follow : ∀ outcome, IsWithin statements tasks (next outcome)) :
      IsWithin statements tasks (query owed issued next)
  | task {result : Type} (owed : List Cleanup) {call : Task world result}
      {next : Except TaskError result → Chain world} (isOfKind : tasks call.description)
      (follow : ∀ outcome, IsWithin statements tasks (next outcome)) :
      IsWithin statements tasks (task owed call next)
  | detach {aside rest : Chain world} (first : IsWithin statements tasks aside)
      (second : IsWithin statements tasks rest) : IsWithin statements tasks (detach aside rest)
  | ensure {guarded : Chain world} (cleanup : Cleanup)
      (within : IsWithin statements tasks guarded) :
      IsWithin statements tasks (ensure guarded cleanup)
  | note (event : Event) {rest : Chain world} (within : IsWithin statements tasks rest) :
      IsWithin statements tasks (note event rest)
  | fresh {next : Uuid → Chain world} (follow : ∀ id, IsWithin statements tasks (next id)) :
      IsWithin statements tasks (fresh next)
  | observe {next : world → Chain world} (follow : ∀ seen, IsWithin statements tasks (next seen)) :
      IsWithin statements tasks (observe next)

variable {statements : Statement → Prop} {tasks : TaskDescription → Prop}

theorem isWithin_fail (error : ServerError) :
    (fail error : Chain world).IsWithin statements tasks := by
  unfold fail failOwing
  split
  · exact IsWithin.note _ (IsWithin.respond _)
  · exact IsWithin.respond _

theorem isWithin_logFailure (context : String) (failure : Option String) :
    (logFailure context failure : Chain world).IsWithin statements tasks := by
  cases failure with
  | none => exact IsWithin.respond _
  | some message => exact IsWithin.note _ (IsWithin.respond _)

variable {state : Type} {standIn : StandIn state world} {keeps : state → Prop} {chain : Chain world}

/-- A run of a chain keeps what the stand-in keeps when it answers the statements and tasks that the
chain may issue, and none of the others is issued or fails. -/
theorem IsWithin.capture
    (within : chain.IsWithin statements tasks)
    (queried : ∀ statement, statements statement →
      ∀ before, keeps before → keeps (standIn.query statement before).2)
    (asked : ∀ description, tasks description →
      ∀ before, keeps before → keeps (standIn.task description before).2)
    {recording : Recording state}
    (kept : keeps recording.state) :
    keeps (chain.capture standIn recording).2.state ∧
      (∀ task ∈ (chain.capture standIn recording).1.allTasks, tasks task) ∧
      ∀ statement ∈ (chain.capture standIn recording).1.failedQueries, statements statement := by
  induction within generalizing recording with
  | respond => exact ⟨kept, List.forall_mem_nil _, List.forall_mem_nil _⟩
  | session _ _ inductionHypothesis => exact inductionHypothesis standIn.session kept
  | body _ _ inductionHypothesis => exact inductionHypothesis standIn.body kept
  | query _ isOfKind _ inductionHypothesis =>
      have keptNow : keeps (recording.query standIn _).2.state :=
        queried _ isOfKind recording.state kept
      obtain ⟨keptThen, ofKind, failed⟩ := inductionHypothesis _ keptNow
      refine ⟨keptThen, ofKind, fun statement isFailed => ?_⟩
      rcases List.mem_append.1 isFailed with isFirst | isLater
      · unfold Resolved.failures at isFirst
        split at isFirst
        next => cases isFirst
        next => exact List.mem_singleton.1 isFirst ▸ isOfKind
      · exact failed statement isLater
  | task _ isOfKind _ inductionHypothesis =>
      have keptNow : keeps (recording.task standIn _).2.state :=
        asked _ isOfKind recording.state kept
      obtain ⟨keptThen, ofKind, failed⟩ := inductionHypothesis _ keptNow
      exact ⟨keptThen, List.forall_mem_cons.2 ⟨isOfKind, ofKind⟩, failed⟩
  | detach _ _ asideHypothesis restHypothesis =>
      obtain ⟨keptBetween, asideOfKind, asideFailed⟩ := asideHypothesis kept
      obtain ⟨keptThen, restOfKind, restFailed⟩ := restHypothesis keptBetween
      exact ⟨keptThen, List.forall_mem_append.2 ⟨asideOfKind, restOfKind⟩,
        List.forall_mem_append.2 ⟨asideFailed, restFailed⟩⟩
  | ensure cleanup _ inductionHypothesis =>
      obtain ⟨keptThen, ofKind, failed⟩ := inductionHypothesis kept
      refine ⟨keptThen, ?_, ?_⟩
      · rw [Outcome.allTasks, Chain.capture, Resolved.tasksOfAll_append_cleanup]
        exact ofKind
      · rw [Outcome.failedQueries, Chain.capture, Resolved.failuresOfAll_append_cleanup]
        exact failed
  | note event _ inductionHypothesis => exact inductionHypothesis kept
  | fresh _ inductionHypothesis => exact inductionHypothesis _ kept
  | observe _ inductionHypothesis => exact inductionHypothesis _ kept

end Chain

/-! ## Stubs -/

namespace Stubs

variable {world : Type}

/-- A query fails and leaves the tables alone, or is answered from them. -/
theorem query_cases (statement : Statement) (stubs : Stubs world) :
    (∃ error left, query statement stubs = (Except.error error, left) ∧ left.pool = stubs.pool) ∨
      ∃ left, query statement stubs = (Except.ok (stubs.pool.apply statement).1, left) ∧
        left.pool = (stubs.pool.apply statement).2 := by
  unfold query
  split
  next error planned _ => exact Or.inl ⟨error, _, rfl, rfl⟩
  next => exact Or.inr ⟨_, rfl, rfl⟩

/-- A task is answered by the next answer in the script, if there is one. -/
theorem fst_task (description : TaskDescription) (stubs : Stubs world) :
    (task description stubs).1 =
      (stubs.answers.next description.name).1.getD (Except.error (unanswered description)) := by
  unfold task
  split
  next isNext => rw [isNext, Option.getD_some]
  next isNext => rw [isNext, Option.getD_none]

@[simp] theorem pool_task (description : TaskDescription) (stubs : Stubs world) :
    (task description stubs).2.pool = stubs.pool := by
  unfold task
  split <;> rfl

end Stubs

end Screencast
