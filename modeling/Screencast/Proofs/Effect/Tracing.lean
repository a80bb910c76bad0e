import Mathlib.Logic.Function.Iterate
import Screencast.Account.Resolve
import Screencast.Effect.Interpreter
import Screencast.Proofs.Effect.Discretion

/-!
# Logging beside a chain

An interpreter may log what happens besides handing everything to another one. What is meant by a
chain is then the same for everybody who disregards the log. This is shown once for all
interpreters: two interpreters whose operations are related give related meanings to every chain.
-/

namespace Screencast

namespace Interpreter

variable {world : Type} {meaning other : Type 1}

/-- The operations of two interpreters keep a relation between their meanings. -/
structure Relates (first : Interpreter world meaning) (second : Interpreter world other)
    (same : meaning → other → Prop) : Prop where
  respond : ∀ terminal, same (first.respond terminal) (second.respond terminal)
  session : ∀ owed {next follow}, (∀ found, same (next found) (follow found)) →
    same (first.session owed next) (second.session owed follow)
  body : ∀ owed {next follow}, (∀ bytes, same (next bytes) (follow bytes)) →
    same (first.body owed next) (second.body owed follow)
  query : ∀ {result : Type} owed (issued : Query result) {next follow},
    (∀ outcome, same (next outcome) (follow outcome)) →
      same (first.query owed issued next) (second.query owed issued follow)
  task : ∀ {result : Type} owed (call : Task world result) {next follow},
    (∀ outcome, same (next outcome) (follow outcome)) →
      same (first.task owed call next) (second.task owed call follow)
  detach : ∀ {aside rest otherAside otherRest}, same aside otherAside → same rest otherRest →
    same (first.detach aside rest) (second.detach otherAside otherRest)
  ensure : ∀ {guarded otherGuarded} cleanup, same guarded otherGuarded →
    same (first.ensure guarded cleanup) (second.ensure otherGuarded cleanup)
  note : ∀ event {rest otherRest}, same rest otherRest →
    same (first.note event rest) (second.note event otherRest)
  fresh : ∀ {next follow}, (∀ id, same (next id) (follow id)) →
    same (first.fresh next) (second.fresh follow)
  observe : ∀ {next follow}, (∀ seen, same (next seen) (follow seen)) →
    same (first.observe next) (second.observe follow)

/-- Entries of the log that an interpreter makes do not matter for a relation. -/
def Disregards (interpreter : Interpreter world other) (same : meaning → other → Prop) : Prop :=
  ∀ entry left right, same left right →
    same left (interpreter.note (Event.logged entry) right)

variable {first : Interpreter world meaning} {second : Interpreter world other}
  {same : meaning → other → Prop}

/-- Related interpreters give related meanings to every chain. -/
theorem Relates.interpret
    (related : first.Relates second same)
    (chain : Chain world) :
    same (chain.interpret first) (chain.interpret second) := by
  induction chain with
  | respond terminal => exact related.respond terminal
  | session owed _ follow => exact related.session owed follow
  | body owed _ follow => exact related.body owed follow
  | query owed issued _ follow => exact related.query owed issued follow
  | task owed call _ follow => exact related.task owed call follow
  | detach _ _ aside rest => exact related.detach aside rest
  | ensure _ cleanup guarded => exact related.ensure cleanup guarded
  | note event _ rest => exact related.note event rest
  | fresh _ follow => exact related.fresh follow
  | observe _ follow => exact related.observe follow

/-- Tracing an interpreter changes nothing for those who disregard its log. -/
theorem Relates.traced
    (related : first.Relates second same)
    (disregards : second.Disregards same) :
    first.Relates second.traced same where
  respond := related.respond
  session := related.session
  body := related.body
  query := by
    intro result owed issued next follow alike
    refine related.query owed issued fun outcome => ?_
    cases outcome with
    | ok value => exact alike (Except.ok value)
    | error error => exact disregards _ _ _ (alike (Except.error error))
  task := by
    intro result owed call next follow alike
    refine related.task owed call fun outcome => ?_
    cases outcome with
    | ok value => exact alike (Except.ok value)
    | error error => exact disregards _ _ _ (alike (Except.error error))
  detach := related.detach
  ensure := related.ensure
  note := related.note
  fresh := related.fresh
  observe := related.observe

/-- Tracing an interpreter any number of times changes nothing for those who disregard its log. -/
theorem Relates.iterate_traced
    (related : first.Relates second same)
    (disregards : second.Disregards same)
    (layers : Nat) :
    first.Relates (Interpreter.traced^[layers] second) same ∧
      (Interpreter.traced^[layers] second).Disregards same := by
  induction layers with
  | zero => exact ⟨related, disregards⟩
  | succ layers inductionHypothesis =>
      rw [Function.iterate_succ_apply']
      exact ⟨inductionHypothesis.1.traced inductionHypothesis.2, inductionHypothesis.2⟩

end Interpreter

namespace Chain

variable {world : Type} {plain logging : Chain world}

/-! ## Chains with more entries of the log -/

/-- The second chain is the first one, with further entries of the log. -/
inductive AddsLog : Chain world → Chain world → Prop
  | respond (terminal : Terminal) : AddsLog (respond terminal) (respond terminal)
  | session (owed : List Cleanup) {next follow : Option Session → Chain world}
      (adds : ∀ found, AddsLog (next found) (follow found)) :
      AddsLog (session owed next) (session owed follow)
  | body (owed : List Cleanup) {next follow : Bytes → Chain world}
      (adds : ∀ bytes, AddsLog (next bytes) (follow bytes)) :
      AddsLog (body owed next) (body owed follow)
  | query {result : Type} (owed : List Cleanup) (issued : Query result)
      {next follow : Except QueryError result → Chain world}
      (adds : ∀ outcome, AddsLog (next outcome) (follow outcome)) :
      AddsLog (query owed issued next) (query owed issued follow)
  | task {result : Type} (owed : List Cleanup) (call : Task world result)
      {next follow : Except TaskError result → Chain world}
      (adds : ∀ outcome, AddsLog (next outcome) (follow outcome)) :
      AddsLog (task owed call next) (task owed call follow)
  | detach {aside rest otherAside otherRest : Chain world}
      (asideAdds : AddsLog aside otherAside) (restAdds : AddsLog rest otherRest) :
      AddsLog (detach aside rest) (detach otherAside otherRest)
  | ensure {guarded otherGuarded : Chain world} (cleanup : Cleanup)
      (adds : AddsLog guarded otherGuarded) :
      AddsLog (ensure guarded cleanup) (ensure otherGuarded cleanup)
  | note (event : Event) {rest otherRest : Chain world} (adds : AddsLog rest otherRest) :
      AddsLog (note event rest) (note event otherRest)
  | fresh {next follow : Uuid → Chain world} (adds : ∀ id, AddsLog (next id) (follow id)) :
      AddsLog (fresh next) (fresh follow)
  | observe {next follow : world → Chain world} (adds : ∀ seen, AddsLog (next seen) (follow seen)) :
      AddsLog (observe next) (observe follow)
  | logged (entry : LogEntry) {rest otherRest : Chain world} (adds : AddsLog rest otherRest) :
      AddsLog rest (note (Event.logged entry) otherRest)

/-- How many notes a chain makes before it does something else. -/
def leadingNotes : Chain world → Nat
  | note _ rest => rest.leadingNotes + 1
  | _ => 0

/-- Building chains keeps that the second one has further entries. -/
theorem relates_tree :
    (Interpreter.tree : Interpreter world (Chain world)).Relates Interpreter.tree AddsLog where
  respond := AddsLog.respond
  session := AddsLog.session
  body := AddsLog.body
  query := AddsLog.query
  task := AddsLog.task
  detach := AddsLog.detach
  ensure := AddsLog.ensure
  note := AddsLog.note
  fresh := AddsLog.fresh
  observe := AddsLog.observe

theorem disregards_tree :
    (Interpreter.tree : Interpreter world (Chain world)).Disregards AddsLog :=
  fun entry _ _ adds => AddsLog.logged entry adds

theorem addsLog_interpret_traced (layers : Nat) (chain : Chain world) :
    AddsLog chain (chain.interpret (Interpreter.traced^[layers] Interpreter.tree)) := by
  have related := (relates_tree.iterate_traced disregards_tree layers).1.interpret chain
  rwa [interpret_tree] at related

theorem AddsLog.refl (chain : Chain world) : AddsLog chain chain := by
  have related := relates_tree.interpret chain
  rwa [interpret_tree] at related

end Chain

/-! ## Captured runs -/

namespace Recording.GoesWith

variable {state world : Type} {left right : Recording state}

/-- A query has the same answer for recordings that differ only in the log. -/
theorem query_eq
    (together : GoesWith Eq left right)
    (standIn : StandIn state world)
    (statement : Statement) :
    (left.query standIn statement).1 = (right.query standIn statement).1 ∧
      GoesWith Eq (left.query standIn statement).2 (right.query standIn statement).2 := by
  have noted := together.note (Event.queried statement)
  have sameAnswer := congrArg (standIn.query statement) together.state
  exact ⟨(congrArg Prod.fst sameAnswer :), (congrArg Prod.snd sameAnswer :), noted.drawn,
    noted.journal⟩

/-- A task has the same answer for recordings that differ only in the log. -/
theorem task_eq
    (together : GoesWith Eq left right)
    (standIn : StandIn state world)
    (description : TaskDescription) :
    (left.task standIn description).1 = (right.task standIn description).1 ∧
      GoesWith Eq (left.task standIn description).2 (right.task standIn description).2 := by
  have noted := together.note (Event.asked description)
  have sameAnswer := congrArg (standIn.task description) together.state
  exact ⟨(congrArg Prod.fst sameAnswer :), (congrArg Prod.snd sameAnswer :), noted.drawn,
    noted.journal⟩

end Recording.GoesWith

namespace Chain

variable {world : Type} {plain logging : Chain world}

/-- A captured run resolves the same if further entries of the log are made. -/
theorem AddsLog.capture
    {state : Type}
    {left right : Recording state}
    (adds : AddsLog plain logging)
    (standIn : StandIn state world)
    (together : Recording.GoesWith Eq left right) :
    (plain.capture standIn left).1 = (logging.capture standIn right).1 ∧
      Recording.GoesWith Eq (plain.capture standIn left).2 (logging.capture standIn right).2 := by
  induction adds generalizing left right with
  | respond terminal => exact ⟨rfl, together⟩
  | session _ _ follow =>
      obtain ⟨outcomes, states⟩ := follow standIn.session together
      exact ⟨congrArg (Outcome.after _) outcomes, states⟩
  | body _ _ follow =>
      obtain ⟨outcomes, states⟩ := follow standIn.body together
      exact ⟨congrArg (Outcome.after _) outcomes, states⟩
  | query _ issued _ follow =>
      obtain ⟨sameRows, noted⟩ := together.query_eq standIn issued.statement
      obtain ⟨outcomes, states⟩ :=
        follow (issued.resolve (left.query standIn issued.statement).1) noted
      simp only [Chain.capture, ← sameRows, outcomes]
      exact ⟨trivial, states⟩
  | task _ call _ follow =>
      obtain ⟨sameAnswer, noted⟩ := together.task_eq standIn call.description
      obtain ⟨outcomes, states⟩ :=
        follow (call.resolve (left.task standIn call.description).1) noted
      simp only [Chain.capture, ← sameAnswer, outcomes]
      exact ⟨trivial, states⟩
  | detach _ _ asideHypothesis restHypothesis =>
      obtain ⟨sides, between⟩ := asideHypothesis together
      obtain ⟨outcomes, states⟩ := restHypothesis between
      simp only [Chain.capture, sides, outcomes]
      exact ⟨trivial, states⟩
  | ensure cleanup _ inductionHypothesis =>
      obtain ⟨outcomes, states⟩ := inductionHypothesis together
      simp only [Chain.capture, outcomes]
      exact ⟨trivial, states.note (Event.cleaned cleanup)⟩
  | note event _ inductionHypothesis => exact inductionHypothesis (together.note event)
  | fresh _ follow =>
      obtain ⟨sameId, drawn⟩ := together.draw
      simp only [Chain.capture, ← sameId]
      exact follow _ drawn
  | observe _ follow =>
      simp only [Chain.capture, ← together.state]
      exact follow _ together
  | logged entry _ inductionHypothesis => exact inductionHypothesis (together.logRight entry)

end Chain

/-! ## Steps -/

namespace Step

variable {world result other : Type}

/-- A step goes on in the same way if what follows has further entries of the log. A step that does
not look into what follows it always does. -/
def KeepsLog (step : Step world result) : Prop :=
  ∀ rest more : Rest world result, rest.owed = more.owed →
    (∀ value, Chain.AddsLog (rest.next value) (more.next value)) →
      Chain.AddsLog (step.run rest) (step.run more)

theorem keepsLog_pure (value : result) : (pure value : Step world result).KeepsLog :=
  fun _ _ _ adds => adds value

/-- A query that may fail is the same query. -/
theorem keepsLog_queryOrFail (issued : Query result) :
    (queryOrFail issued : Step world result).KeepsLog := by
  rintro ⟨next, owed⟩ ⟨follow, _⟩ rfl adds
  refine Chain.AddsLog.query owed issued fun outcome => ?_
  cases outcome with
  | ok value => exact adds value
  | error error => exact Chain.AddsLog.refl _

variable {step : Step world result}

/-- Steps one after the other go on in the same way if both do. -/
theorem KeepsLog.andThen
    {follow : result → Step world other}
    (first : step.KeepsLog)
    (second : ∀ value, (follow value).KeepsLog) :
    (step.andThen follow).KeepsLog :=
  fun rest more sameOwed adds =>
    first { next := fun value => (follow value).run rest, owed := rest.owed }
      { next := fun value => (follow value).run more, owed := more.owed } sameOwed
      fun value => second value rest more sameOwed adds

/-- A step with another value goes on in the same way. -/
theorem KeepsLog.map
    (keeps : step.KeepsLog)
    (change : result → other) :
    (step.map change).KeepsLog :=
  fun rest more sameOwed adds =>
    keeps { next := fun value => rest.next (change value), owed := rest.owed }
      { next := fun value => more.next (change value), owed := more.owed } sameOwed
      fun value => adds (change value)

end Step

/-- A session is looked up in the same way. -/
theorem Session.keepsLog_resolve {world : Type} (token : Uuid) :
    (resolve token : Step world (Option Session)).KeepsLog := by
  refine Step.KeepsLog.andThen (Step.keepsLog_queryOrFail _) fun signIn => ?_
  cases signIn with
  | none => exact Step.keepsLog_pure _
  | some signIn =>
      refine Step.KeepsLog.andThen (Step.keepsLog_queryOrFail _) fun user => ?_
      cases user with
      | none => exact Step.keepsLog_pure _
      | some user =>
          refine Step.KeepsLog.map
            (Step.KeepsLog.andThen (Step.keepsLog_queryOrFail _) fun membership => ?_) _
          cases membership with
          | none => exact Step.keepsLog_pure _
          | some membership => exact Step.keepsLog_queryOrFail _

end Screencast
