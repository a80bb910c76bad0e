import Screencast.Proofs.Effect.Discretion
import Screencast.Proofs.Effect.Within

/-!
# What a visitor cannot see

Two worlds may differ in something that is hidden from a visitor. Two chains show the visitor the
same if they take the same steps in such worlds, but that one of them may ask who the visitor is
where the other one responds at once. Run with stand-ins that give the same answers, both come to
the same terminal, and issue the same statements and tasks.
-/

namespace Screencast

/-! ## Outcomes -/

/-- Two outcomes have the same terminal, and the same statements and tasks on the way. -/
structure Outcome.ShowsSame (outcome other : Outcome) : Prop where
  terminal : outcome.terminal = other.terminal
  queries : outcome.allQueries = other.allQueries
  tasks : outcome.allTasks = other.allTasks

namespace Outcome.ShowsSame

variable {outcome other : Outcome}

theorem after (same : outcome.ShowsSame other) (step : Resolved) :
    (outcome.after step).ShowsSame (other.after step) where
  terminal := same.terminal
  queries := congrArg (step.queries ++ ·) same.queries
  tasks := congrArg (step.tasks ++ ·) same.tasks

theorem afterSession (same : outcome.ShowsSame other) (signedIn otherSignedIn : Bool) :
    (outcome.after (Resolved.session signedIn)).ShowsSame
      (other.after (Resolved.session otherSignedIn)) where
  terminal := same.terminal
  queries := same.queries
  tasks := same.tasks

theorem afterSessionLeft (same : outcome.ShowsSame other) (signedIn : Bool) :
    (outcome.after (Resolved.session signedIn)).ShowsSame other where
  terminal := same.terminal
  queries := same.queries
  tasks := same.tasks

theorem afterSessionRight (same : outcome.ShowsSame other) (signedIn : Bool) :
    outcome.ShowsSame (other.after (Resolved.session signedIn)) where
  terminal := same.terminal
  queries := same.queries
  tasks := same.tasks

/-- Chains with such outcomes may have been detached before. -/
theorem afterDetached
    {side otherSide : Outcome}
    (same : outcome.ShowsSame other)
    (sides : side.ShowsSame otherSide) :
    (outcome.after (Resolved.detached side.terminal side.trace)).ShowsSame
      (other.after (Resolved.detached otherSide.terminal otherSide.trace)) where
  terminal := same.terminal
  queries := congrArg₂ (· ++ ·) sides.queries same.queries
  tasks := congrArg₂ (· ++ ·) sides.tasks same.tasks

/-- Both outcomes may end with a cleanup. -/
theorem cleaned (same : outcome.ShowsSame other) :
    ShowsSame { outcome with trace := outcome.trace ++ [Resolved.cleanup] }
      { other with trace := other.trace ++ [Resolved.cleanup] } where
  terminal := same.terminal
  queries := by
    simpa only [allQueries, Resolved.queriesOfAll_append_cleanup] using same.queries
  tasks := by
    simpa only [allTasks, Resolved.tasksOfAll_append_cleanup] using same.tasks

end Outcome.ShowsSame

/-! ## Stand-ins -/

/-- Two stand-ins give the same answers in states that belong together, and show worlds that differ
in what is hidden only. -/
structure StandIn.ShowsSame {state other world : Type} (first : StandIn state world)
    (second : StandIn other world) (hidden : world → world → Prop)
    (belong : state → other → Prop) : Prop where
  session : first.session = second.session
  body : first.body = second.body
  query : ∀ statement left right, belong left right →
    (first.query statement left).1 = (second.query statement right).1 ∧
      belong (first.query statement left).2 (second.query statement right).2
  task : ∀ description left right, belong left right →
    (first.task description left).1 = (second.task description right).1 ∧
      belong (first.task description left).2 (second.task description right).2
  world : ∀ left right, belong left right → hidden (first.world left) (second.world right)

namespace Recording.GoesWith

variable {state other world : Type} {left : Recording state} {right : Recording other}
  {belong : state → other → Prop} {hidden : world → world → Prop}
  {first : StandIn state world} {second : StandIn other world}

/-- A query is answered the same. -/
theorem query_of_showsSame
    (together : GoesWith belong left right)
    (agree : first.ShowsSame second hidden belong)
    (statement : Statement) :
    (left.query first statement).1 = (right.query second statement).1 ∧
      GoesWith belong (left.query first statement).2 (right.query second statement).2 := by
  have noted := together.note (Event.queried statement)
  obtain ⟨same, states⟩ := agree.query statement left.state right.state together.state
  exact ⟨same, states, noted.drawn, noted.journal⟩

/-- A task is answered the same. -/
theorem task_of_showsSame
    (together : GoesWith belong left right)
    (agree : first.ShowsSame second hidden belong)
    (description : TaskDescription) :
    (left.task first description).1 = (right.task second description).1 ∧
      GoesWith belong (left.task first description).2 (right.task second description).2 := by
  have noted := together.note (Event.asked description)
  obtain ⟨same, states⟩ := agree.task description left.state right.state together.state
  exact ⟨same, states, noted.drawn, noted.journal⟩

end Recording.GoesWith

namespace Stubs

variable {world : Type} {hidden : world → world → Prop}

/-- Two stubs are the same but for the worlds that they show. -/
structure DiffersInWorld (hidden : world → world → Prop) (left right : Stubs world) : Prop where
  pool : left.pool = right.pool
  world : hidden left.world right.world
  answers : left.answers = right.answers
  planned : left.planned = right.planned

/-- Stubs that differ in the worlds that they show give the same answers. -/
theorem showsSame_standIn (session : Option Session) (body : Bytes) :
    (standIn session body : StandIn (Stubs world) world).ShowsSame (standIn session body) hidden
      (DiffersInWorld hidden) where
  session := rfl
  body := rfl
  query := by
    rintro statement ⟨pool, world, answers, planned⟩ ⟨_, otherWorld, _, _⟩ ⟨rfl, worlds, rfl, rfl⟩
    match planned with
    | [] => exact ⟨rfl, rfl, worlds, rfl, rfl⟩
    | none :: rest => exact ⟨rfl, rfl, worlds, rfl, rfl⟩
    | some _ :: rest => exact ⟨rfl, rfl, worlds, rfl, rfl⟩
  task := by
    rintro description ⟨pool, world, answers, planned⟩ ⟨_, otherWorld, _, _⟩ ⟨rfl, worlds, rfl, rfl⟩
    simp only [standIn, Stubs.task]
    split
    · exact ⟨rfl, rfl, worlds, rfl, rfl⟩
    · exact ⟨rfl, rfl, worlds, rfl, rfl⟩
  world := fun _ _ differ => differ.world

end Stubs

/-! ## Chains -/

namespace Chain

variable {world : Type} {visitor : Option Session} {hidden : world → world → Prop}

/-- Two chains show a visitor the same in worlds that differ in what is hidden only. -/
inductive ShowsSame (visitor : Option Session) (hidden : world → world → Prop) :
    Chain world → Chain world → Prop
  | respond (terminal : Terminal) : ShowsSame visitor hidden (respond terminal) (respond terminal)
  | session (owed : List Cleanup) {next other : Option Session → Chain world}
      (follow : ShowsSame visitor hidden (next visitor) (other visitor)) :
      ShowsSame visitor hidden (session owed next) (session owed other)
  | sessionLeft (owed : List Cleanup) {next : Option Session → Chain world} {terminal : Terminal}
      (follow : ShowsSame visitor hidden (next visitor) (respond terminal)) :
      ShowsSame visitor hidden (session owed next) (respond terminal)
  | sessionRight (owed : List Cleanup) {terminal : Terminal} {next : Option Session → Chain world}
      (follow : ShowsSame visitor hidden (respond terminal) (next visitor)) :
      ShowsSame visitor hidden (respond terminal) (session owed next)
  | body (owed : List Cleanup) {next other : Bytes → Chain world}
      (follow : ∀ bytes, ShowsSame visitor hidden (next bytes) (other bytes)) :
      ShowsSame visitor hidden (body owed next) (body owed other)
  | query {result : Type} (owed : List Cleanup) (issued : Query result)
      {next other : Except QueryError result → Chain world}
      (follow : ∀ outcome, ShowsSame visitor hidden (next outcome) (other outcome)) :
      ShowsSame visitor hidden (query owed issued next) (query owed issued other)
  | task {result : Type} (owed : List Cleanup) (call : Task world result)
      {next other : Except TaskError result → Chain world}
      (follow : ∀ outcome, ShowsSame visitor hidden (next outcome) (other outcome)) :
      ShowsSame visitor hidden (task owed call next) (task owed call other)
  | detach {aside rest otherAside otherRest : Chain world}
      (asides : ShowsSame visitor hidden aside otherAside)
      (rests : ShowsSame visitor hidden rest otherRest) :
      ShowsSame visitor hidden (detach aside rest) (detach otherAside otherRest)
  | ensure {guarded other : Chain world} (cleanup : Cleanup)
      (same : ShowsSame visitor hidden guarded other) :
      ShowsSame visitor hidden (ensure guarded cleanup) (ensure other cleanup)
  | note (event : Event) {rest other : Chain world} (same : ShowsSame visitor hidden rest other) :
      ShowsSame visitor hidden (note event rest) (note event other)
  | fresh {next other : Uuid → Chain world}
      (follow : ∀ id, ShowsSame visitor hidden (next id) (other id)) :
      ShowsSame visitor hidden (fresh next) (fresh other)
  | observe {next other : world → Chain world}
      (follow : ∀ seen changed, hidden seen changed →
        ShowsSame visitor hidden (next seen) (other changed)) :
      ShowsSame visitor hidden (observe next) (observe other)

/-- A chain shows a visitor nothing of what is hidden. -/
def Hides (visitor : Option Session) (hidden : world → world → Prop) (chain : Chain world) : Prop :=
  ShowsSame visitor hidden chain chain

/-- Chains that show a visitor the same come to the same terminal, with the same statements and
tasks on the way. -/
theorem ShowsSame.capture
    {state other : Type}
    {chain changed : Chain world}
    {first : StandIn state world}
    {second : StandIn other world}
    {belong : state → other → Prop}
    {left : Recording state}
    {right : Recording other}
    (same : ShowsSame first.session hidden chain changed)
    (agree : first.ShowsSame second hidden belong)
    (together : left.GoesWith belong right) :
    (chain.capture first left).1.ShowsSame (changed.capture second right).1 ∧
      (chain.capture first left).2.GoesWith belong (changed.capture second right).2 := by
  -- The recordings are general, since a step leaves others than it was taken with.
  induction same generalizing left right with
  | respond => exact ⟨⟨rfl, rfl, rfl⟩, together⟩
  | session _ _ inductionHypothesis =>
      obtain ⟨outcomes, states⟩ := inductionHypothesis together
      simp only [Chain.capture, ← agree.session]
      exact ⟨outcomes.afterSession _ _, states⟩
  | sessionLeft _ _ inductionHypothesis =>
      obtain ⟨outcomes, states⟩ := inductionHypothesis together
      exact ⟨outcomes.afterSessionLeft _, states⟩
  | sessionRight _ _ inductionHypothesis =>
      obtain ⟨outcomes, states⟩ := inductionHypothesis together
      simp only [Chain.capture, ← agree.session]
      exact ⟨outcomes.afterSessionRight _, states⟩
  | body _ _ inductionHypothesis =>
      obtain ⟨outcomes, states⟩ := inductionHypothesis first.body together
      simp only [Chain.capture, ← agree.body]
      exact ⟨outcomes.after _, states⟩
  | query _ issued _ inductionHypothesis =>
      obtain ⟨sameRows, answered⟩ := together.query_of_showsSame agree issued.statement
      obtain ⟨outcomes, states⟩ := inductionHypothesis _ answered
      simp only [Chain.capture, ← sameRows]
      exact ⟨outcomes.after _, states⟩
  | task _ call _ inductionHypothesis =>
      obtain ⟨sameAnswer, answered⟩ := together.task_of_showsSame agree call.description
      obtain ⟨outcomes, states⟩ := inductionHypothesis _ answered
      simp only [Chain.capture, ← sameAnswer]
      exact ⟨outcomes.after _, states⟩
  | detach _ _ asideHypothesis restHypothesis =>
      obtain ⟨asides, between⟩ := asideHypothesis together
      obtain ⟨rests, states⟩ := restHypothesis between
      exact ⟨rests.afterDetached asides, states⟩
  | ensure cleanup _ inductionHypothesis =>
      obtain ⟨outcomes, states⟩ := inductionHypothesis together
      exact ⟨outcomes.cleaned, states.note (Event.cleaned cleanup)⟩
  | note event _ inductionHypothesis => exact inductionHypothesis (together.note event)
  | fresh _ inductionHypothesis =>
      obtain ⟨sameId, drawn⟩ := together.draw
      have follows := inductionHypothesis right.draw.1 drawn
      simp only [Chain.capture, sameId]
      exact follows
  | observe _ inductionHypothesis =>
      exact inductionHypothesis _ _ (agree.world _ _ together.state) together

/-! ## Building chains that hide -/

variable {chain changed rest otherRest : Chain world} {result : Type}

/-- The rest of a chain that was detached may be changed. -/
theorem ShowsSame.continuing
    {aside otherAside : Chain world}
    (rests : ShowsSame visitor hidden rest otherRest)
    (asides : ShowsSame visitor hidden aside otherAside) :
    ShowsSame visitor hidden (besides.continuing aside rest)
      (besides.continuing otherAside otherRest) := by
  induction rests with
  | respond terminal => exact detach asides (respond terminal)
  | session owed follow => exact detach asides (session owed follow)
  | sessionLeft owed follow => exact detach asides (sessionLeft owed follow)
  | sessionRight owed follow => exact detach asides (sessionRight owed follow)
  | body owed follow => exact detach asides (body owed follow)
  | query owed issued follow => exact detach asides (query owed issued follow)
  | task owed call follow => exact detach asides (task owed call follow)
  | detach inner outer => exact detach asides (detach inner outer)
  | ensure cleanup same => exact detach asides (ensure cleanup same)
  | note event _ inductionHypothesis => exact note event inductionHypothesis
  | fresh _ inductionHypothesis => exact fresh inductionHypothesis
  | observe _ inductionHypothesis => exact observe inductionHypothesis

/-- A chain that is run on its own may be changed together with the rest. -/
theorem ShowsSame.besides
    (asides : ShowsSame visitor hidden chain changed)
    (rests : ShowsSame visitor hidden rest otherRest) :
    ShowsSame visitor hidden (besides chain rest) (besides changed otherRest) := by
  induction asides with
  | respond terminal => exact rests.continuing (respond terminal)
  | session owed follow => exact rests.continuing (session owed follow)
  | sessionLeft owed follow => exact rests.continuing (sessionLeft owed follow)
  | sessionRight owed follow => exact rests.continuing (sessionRight owed follow)
  | body owed follow => exact rests.continuing (body owed follow)
  | query owed issued follow => exact rests.continuing (query owed issued follow)
  | task owed call follow => exact rests.continuing (task owed call follow)
  | detach inner outer => exact rests.continuing (detach inner outer)
  | ensure cleanup same => exact rests.continuing (ensure cleanup same)
  | note event _ inductionHypothesis => exact note event inductionHypothesis
  | fresh _ inductionHypothesis => exact fresh inductionHypothesis
  | observe _ inductionHypothesis => exact observe inductionHypothesis

theorem hides_fail (error : ServerError) : (fail error).Hides visitor hidden := by
  unfold Hides fail failOwing
  dsimp only
  split
  · exact ShowsSame.note _ (ShowsSame.respond _)
  · exact ShowsSame.respond _

theorem hides_send (terminal : Terminal) : (send terminal).Hides visitor hidden := by
  unfold Hides send
  split
  · exact ShowsSame.respond terminal
  · exact ShowsSame.note _ (ShowsSame.respond terminal)

theorem hides_writeJson (value : Except String Json) :
    (writeJson value).Hides visitor hidden := by
  cases value with
  | ok value => exact ShowsSame.respond _
  | error detail => exact hides_fail _

theorem hides_logFailure (context message : String) :
    (logFailure context (some message)).Hides visitor hidden :=
  ShowsSame.note _ (ShowsSame.respond _)

/-- Chains may be changed that come after a query whose failure is reported. -/
theorem showsSame_queryOrFail
    {next other : result → Chain world}
    (issued : Query result)
    (follow : ∀ value, ShowsSame visitor hidden (next value) (other value)) :
    ShowsSame visitor hidden (queryOrFail issued next) (queryOrFail issued other) := by
  refine ShowsSame.query [] issued fun outcome => ?_
  cases outcome with
  | ok value => exact follow value
  | error failure => exact hides_fail _

/-- Chains may be changed that come after a task whose failure is reported. -/
theorem showsSame_awaitOrFail
    {next other : result → Chain world}
    (call : Task world result)
    (publicMessage : String)
    (follow : ∀ value, ShowsSame visitor hidden (next value) (other value)) :
    ShowsSame visitor hidden (awaitOrFail call publicMessage next)
      (awaitOrFail call publicMessage other) := by
  refine ShowsSame.task [] call fun outcome => ?_
  cases outcome with
  | ok value => exact follow value
  | error failure => exact hides_fail _

end Chain

end Screencast
