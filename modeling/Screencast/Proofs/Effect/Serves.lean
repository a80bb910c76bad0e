import Screencast.Proofs.Effect.Discretion

/-!
# What chains do for a visitor

A chain that is told who its visitor is, and whatever else, issues statements of a kind only and
comes to a terminal of a kind. Two stand-ins that answer the statements of the kind alike run such a
chain to one outcome, whatever else differs between their states.
-/

namespace Screencast

namespace Chain

variable {world result other : Type}

/-- Told who the visitor is, and whatever else it is told, a chain comes to an allowed terminal, and
all statements that it and its detached chains issue are of a kind. -/
inductive Serves (visitor : Option Session) (statements : Statement → Prop) :
    (Terminal → Prop) → Chain world → Prop
  | respond {allowed : Terminal → Prop} {terminal : Terminal} (isAllowed : allowed terminal) :
      Serves visitor statements allowed (respond terminal)
  | session {allowed : Terminal → Prop} (owed : List Cleanup)
      {next : Option Session → Chain world}
      (follow : Serves visitor statements allowed (next visitor)) :
      Serves visitor statements allowed (session owed next)
  | body {allowed : Terminal → Prop} (owed : List Cleanup) {next : Bytes → Chain world}
      (follow : ∀ bytes, Serves visitor statements allowed (next bytes)) :
      Serves visitor statements allowed (body owed next)
  | query {allowed : Terminal → Prop} {result : Type} (owed : List Cleanup)
      {issued : Query result} {next : Except QueryError result → Chain world}
      (isOfKind : statements issued.statement)
      (follow : ∀ outcome, Serves visitor statements allowed (next outcome)) :
      Serves visitor statements allowed (query owed issued next)
  | task {allowed : Terminal → Prop} {result : Type} (owed : List Cleanup)
      (call : Task world result) {next : Except TaskError result → Chain world}
      (follow : ∀ outcome, Serves visitor statements allowed (next outcome)) :
      Serves visitor statements allowed (task owed call next)
  | detach {others allowed : Terminal → Prop} {aside rest : Chain world}
      (first : Serves visitor statements others aside)
      (second : Serves visitor statements allowed rest) :
      Serves visitor statements allowed (detach aside rest)
  | ensure {allowed : Terminal → Prop} {guarded : Chain world} (cleanup : Cleanup)
      (serves : Serves visitor statements allowed guarded) :
      Serves visitor statements allowed (ensure guarded cleanup)
  | note {allowed : Terminal → Prop} (event : Event) {rest : Chain world}
      (serves : Serves visitor statements allowed rest) :
      Serves visitor statements allowed (note event rest)
  | fresh {allowed : Terminal → Prop} {next : Uuid → Chain world}
      (follow : ∀ id, Serves visitor statements allowed (next id)) :
      Serves visitor statements allowed (fresh next)
  | observe {allowed : Terminal → Prop} {next : world → Chain world}
      (follow : ∀ seen, Serves visitor statements allowed (next seen)) :
      Serves visitor statements allowed (observe next)

variable {visitor : Option Session} {statements : Statement → Prop} {others allowed : Terminal → Prop}

/-! ## Building blocks -/

theorem serves_send {terminal : Terminal} (isAllowed : allowed terminal) :
    (send terminal : Chain world).Serves visitor statements allowed := by
  unfold send
  split
  · exact Serves.respond isAllowed
  · exact Serves.note _ (Serves.respond isAllowed)

/-- A failure may be reported where its page is allowed. -/
theorem serves_failOwing
    {error : ServerError}
    (isAllowed : allowed (Terminal.html error.page error.status))
    (owed : List Cleanup) :
    (failOwing owed error : Chain world).Serves visitor statements allowed := by
  have ending : (clean owed (respond (Terminal.html error.page error.status)) :
      Chain world).Serves visitor statements allowed := by
    induction owed with
    | nil => exact Serves.respond isAllowed
    | cons cleanup owed inductionHypothesis => exact Serves.note _ inductionHypothesis
  unfold failOwing
  dsimp only
  split
  · exact Serves.note _ ending
  · exact ending

/-- What follows a query that succeeded is all that matters, where failures may be reported. -/
theorem serves_queryOrFail
    (failures : ∀ error : ServerError, allowed (Terminal.html error.page error.status))
    {issued : Query result}
    (isOfKind : statements issued.statement)
    {next : result → Chain world}
    (follow : ∀ value, (next value).Serves visitor statements allowed) :
    (queryOrFail issued next).Serves visitor statements allowed := by
  refine Serves.query [] isOfKind fun outcome => ?_
  cases outcome with
  | ok value => exact follow value
  | error error => exact serves_failOwing (failures _) []

/-- What follows a task that succeeded is all that matters, where failures may be reported. -/
theorem serves_awaitOrFail
    (failures : ∀ error : ServerError, allowed (Terminal.html error.page error.status))
    (call : Task world result)
    (publicMessage : String)
    {next : result → Chain world}
    (follow : ∀ value, (next value).Serves visitor statements allowed) :
    (awaitOrFail call publicMessage next).Serves visitor statements allowed := by
  refine Serves.task [] call fun outcome => ?_
  cases outcome with
  | ok value => exact follow value
  | error error => exact serves_failOwing (failures _) []

/-- A chain that no visitor waits for ends with an empty text. -/
theorem serves_logFailure
    (silent : allowed (Terminal.text "" Status.ok []))
    (context : String)
    (failure : Option String) :
    (logFailure context failure : Chain world).Serves visitor statements allowed := by
  cases failure with
  | none => exact Serves.respond silent
  | some message => exact Serves.note _ (Serves.respond silent)

/-- Taking the building steps of the rest of a chain changes nothing for the visitor. -/
theorem Serves.continuing
    {aside rest : Chain world}
    (first : aside.Serves visitor statements others)
    (second : rest.Serves visitor statements allowed) :
    (Chain.besides.continuing aside rest).Serves visitor statements allowed := by
  induction second with
  | note event _ inductionHypothesis => exact Serves.note event inductionHypothesis
  | fresh _ inductionHypothesis => exact Serves.fresh inductionHypothesis
  | observe _ inductionHypothesis => exact Serves.observe inductionHypothesis
  | respond isAllowed => exact Serves.detach first (Serves.respond isAllowed)
  | session owed follow => exact Serves.detach first (Serves.session owed follow)
  | body owed follow => exact Serves.detach first (Serves.body owed follow)
  | query owed isOfKind follow => exact Serves.detach first (Serves.query owed isOfKind follow)
  | task owed call follow => exact Serves.detach first (Serves.task owed call follow)
  | detach aside rest => exact Serves.detach first (Serves.detach aside rest)
  | ensure cleanup serves => exact Serves.detach first (Serves.ensure cleanup serves)

/-- A chain may run another one on its own, whose terminal nobody is sent. -/
theorem Serves.besides
    {aside rest : Chain world}
    (first : aside.Serves visitor statements others)
    (second : rest.Serves visitor statements allowed) :
    (Chain.besides aside rest).Serves visitor statements allowed := by
  induction first with
  | note event _ inductionHypothesis => exact Serves.note event inductionHypothesis
  | fresh _ inductionHypothesis => exact Serves.fresh inductionHypothesis
  | observe _ inductionHypothesis => exact Serves.observe inductionHypothesis
  | respond isAllowed => exact (Serves.respond isAllowed).continuing second
  | session owed follow => exact (Serves.session owed follow).continuing second
  | body owed follow => exact (Serves.body owed follow).continuing second
  | query owed isOfKind follow => exact (Serves.query owed isOfKind follow).continuing second
  | task owed call follow => exact (Serves.task owed call follow).continuing second
  | detach aside rest => exact (Serves.detach aside rest).continuing second
  | ensure cleanup serves => exact (Serves.ensure cleanup serves).continuing second

/-! ## Runs -/

variable {state otherState : Type}

/-- A captured run comes to an allowed terminal. -/
theorem Serves.terminal_capture
    {standIn : StandIn state world}
    {chain : Chain world}
    (serves : chain.Serves standIn.session statements allowed)
    (recording : Recording state) :
    allowed (chain.capture standIn recording).1.terminal := by
  induction serves generalizing recording with
  | respond isAllowed => exact isAllowed
  | session _ _ inductionHypothesis => exact inductionHypothesis recording
  | body _ _ inductionHypothesis => exact inductionHypothesis _ recording
  | query _ _ _ inductionHypothesis => exact inductionHypothesis _ _
  | task _ _ _ inductionHypothesis => exact inductionHypothesis _ _
  | detach _ _ _ restHypothesis => exact restHypothesis _
  | ensure _ _ inductionHypothesis => exact inductionHypothesis recording
  | note _ _ inductionHypothesis => exact inductionHypothesis _
  | fresh _ inductionHypothesis => exact inductionHypothesis _ _
  | observe _ inductionHypothesis => exact inductionHypothesis _ recording

end Chain

/-! ## Two stand-ins -/

/-- Two stand-ins answer tasks and the statements of a kind alike, and show the same world, as long
as their states belong together; and they keep their states together. -/
structure StandIn.AgreesOn {state otherState world : Type} (statements : Statement → Prop)
    (first : StandIn state world) (second : StandIn otherState world)
    (belong : state → otherState → Prop) : Prop where
  session : first.session = second.session
  body : first.body = second.body
  query : ∀ statement, statements statement → ∀ left right, belong left right →
    (first.query statement left).1 = (second.query statement right).1 ∧
      belong (first.query statement left).2 (second.query statement right).2
  task : ∀ description left right, belong left right →
    (first.task description left).1 = (second.task description right).1 ∧
      belong (first.task description left).2 (second.task description right).2
  world : ∀ left right, belong left right → first.world left = second.world right

namespace Chain

variable {state otherState world : Type} {statements : Statement → Prop}
  {allowed : Terminal → Prop} {first : StandIn state world} {second : StandIn otherState world}
  {belong : state → otherState → Prop} {left : Recording state} {right : Recording otherState}

/-- A chain that issues only statements that two stand-ins answer alike comes to the same outcome
with both of them. -/
theorem Serves.capture_eq
    {chain : Chain world}
    (serves : chain.Serves second.session statements allowed)
    (agree : first.AgreesOn statements second belong)
    (together : left.GoesWith belong right) :
    (chain.capture first left).1 = (chain.capture second right).1 ∧
      (chain.capture first left).2.GoesWith belong (chain.capture second right).2 := by
  induction serves generalizing left right with
  | respond => exact ⟨rfl, together⟩
  | session _ _ inductionHypothesis =>
      obtain ⟨outcomes, after⟩ := inductionHypothesis together
      simp only [Chain.capture, agree.session, outcomes]
      exact ⟨trivial, after⟩
  | body _ _ inductionHypothesis =>
      obtain ⟨outcomes, after⟩ := inductionHypothesis second.body together
      simp only [Chain.capture, agree.body, outcomes]
      exact ⟨trivial, after⟩
  | @query _ _ _ issued _ isOfKind _ inductionHypothesis =>
      have noted := together.note (Event.queried issued.statement)
      obtain ⟨same, states⟩ := agree.query _ isOfKind _ _ noted.state
      have answered : (left.query first issued.statement).2.GoesWith belong
          (right.query second issued.statement).2 := ⟨states, noted.drawn, noted.journal⟩
      have sameRows : (left.query first issued.statement).1 =
          (right.query second issued.statement).1 := same
      obtain ⟨outcomes, after⟩ := inductionHypothesis
        (issued.resolve (right.query second issued.statement).1) answered
      simp only [Chain.capture, sameRows, outcomes]
      exact ⟨trivial, after⟩
  | task _ call _ inductionHypothesis =>
      have noted := together.note (Event.asked call.description)
      obtain ⟨same, states⟩ := agree.task call.description _ _ noted.state
      have answered : (left.task first call.description).2.GoesWith belong
          (right.task second call.description).2 := ⟨states, noted.drawn, noted.journal⟩
      have sameAnswer : (left.task first call.description).1 =
          (right.task second call.description).1 := same
      obtain ⟨outcomes, after⟩ := inductionHypothesis
        (call.resolve (right.task second call.description).1) answered
      simp only [Chain.capture, sameAnswer, outcomes]
      exact ⟨trivial, after⟩
  | detach _ _ asideHypothesis restHypothesis =>
      obtain ⟨asides, between⟩ := asideHypothesis together
      obtain ⟨rests, after⟩ := restHypothesis between
      simp only [Chain.capture, asides, rests]
      exact ⟨trivial, after⟩
  | ensure cleanup _ inductionHypothesis =>
      obtain ⟨outcomes, after⟩ := inductionHypothesis together
      simp only [Chain.capture, outcomes]
      exact ⟨trivial, after.note (Event.cleaned cleanup)⟩
  | note event _ inductionHypothesis => exact inductionHypothesis (together.note event)
  | fresh _ inductionHypothesis =>
      obtain ⟨sameId, drawn⟩ := together.draw
      simp only [Chain.capture, sameId]
      exact inductionHypothesis right.draw.1 drawn
  | observe _ inductionHypothesis =>
      simp only [Chain.capture, agree.world _ _ together.state]
      exact inductionHypothesis (second.world right.state) together

end Chain

end Screencast
