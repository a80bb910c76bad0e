import Mathlib.Data.List.Forall2
import Screencast.Effect.Step
import Screencast.Effect.Stubs

/-!
# The details of failures

A failure has a detail that is meant for the log. Two stand-ins may differ in nothing but such
details, and a chain is discreet if it takes the same steps whatever the details are, but for what
it logs. A discreet chain comes to the same outcome with both stand-ins.
-/

namespace Screencast

/-! ## Answers -/

/-- Two answers are the same value, or both are failures. -/
inductive SameButFailure {failure value : Type} :
    Except failure value → Except failure value → Prop
  | ok (result : value) : SameButFailure (Except.ok result) (Except.ok result)
  | error (first second : failure) : SameButFailure (Except.error first) (Except.error second)

namespace SameButFailure

variable {failure value : Type} {answer other : Except failure value}

theorem refl (answer : Except failure value) : SameButFailure answer answer := by
  cases answer with
  | ok result => exact ok result
  | error failure => exact error failure failure

theorem toBool_eq (same : SameButFailure answer other) : answer.toBool = other.toBool := by
  cases same <;> rfl

/-- A query makes the same of such rows. -/
theorem resolve_query
    {result : Type}
    {rows others : Except QueryError (List Row)}
    (same : SameButFailure rows others)
    (issued : Query result) :
    SameButFailure (issued.resolve rows) (issued.resolve others) := by
  cases same with
  | ok => exact refl _
  | error failure other => exact error failure other

/-- A task makes the same of such answers. -/
theorem resolve_task
    {world result : Type}
    {answer other : Except TaskError Answer}
    (same : SameButFailure answer other)
    (call : Task world result) :
    SameButFailure (call.resolve answer) (call.resolve other) := by
  cases same with
  | ok => exact refl _
  | error failure other => exact error failure other

end SameButFailure

/-! ## Chains -/

namespace Chain

variable {world : Type}

/-- Two chains take the same steps with the same answers, and also if both are told of failures that
have different details. What they log may be different. -/
inductive Alike : Chain world → Chain world → Prop
  | respond (terminal : Terminal) : Alike (respond terminal) (respond terminal)
  | session (owed : List Cleanup) {next other : Option Session → Chain world}
      (follow : ∀ found, Alike (next found) (other found)) :
      Alike (session owed next) (session owed other)
  | body (owed : List Cleanup) {next other : Bytes → Chain world}
      (follow : ∀ bytes, Alike (next bytes) (other bytes)) :
      Alike (body owed next) (body owed other)
  | query {result : Type} (owed : List Cleanup) (issued : Query result)
      {next other : Except QueryError result → Chain world}
      (follow : ∀ outcome changed, SameButFailure outcome changed →
        Alike (next outcome) (other changed)) :
      Alike (query owed issued next) (query owed issued other)
  | task {result : Type} (owed : List Cleanup) (call : Task world result)
      {next other : Except TaskError result → Chain world}
      (follow : ∀ outcome changed, SameButFailure outcome changed →
        Alike (next outcome) (other changed)) :
      Alike (task owed call next) (task owed call other)
  | detach {aside rest otherAside otherRest : Chain world}
      (asides : Alike aside otherAside) (rests : Alike rest otherRest) :
      Alike (detach aside rest) (detach otherAside otherRest)
  | ensure {guarded other : Chain world} (cleanup : Cleanup) (alike : Alike guarded other) :
      Alike (ensure guarded cleanup) (ensure other cleanup)
  | note (event : Event) {rest other : Chain world} (alike : Alike rest other) :
      Alike (note event rest) (note event other)
  | logLeft (entry : LogEntry) {rest other : Chain world} (alike : Alike rest other) :
      Alike (note (Event.logged entry) rest) other
  | logRight (entry : LogEntry) {rest other : Chain world} (alike : Alike rest other) :
      Alike rest (note (Event.logged entry) other)
  | fresh {next other : Uuid → Chain world} (follow : ∀ id, Alike (next id) (other id)) :
      Alike (fresh next) (fresh other)
  | observe {next other : world → Chain world} (follow : ∀ seen, Alike (next seen) (other seen)) :
      Alike (observe next) (observe other)

/-- A chain that takes the same steps whatever the details of failures are. -/
def IsDiscreet (chain : Chain world) : Prop := Alike chain chain

end Chain

/-! ## Stand-ins -/

namespace StandIn

variable {state other world : Type}

/-- Two stand-ins give the same answers in states that belong together, but for the details of their
failures, and go on to states that belong together. -/
structure AgreesWith (first : StandIn state world) (second : StandIn other world)
    (belong : state → other → Prop) : Prop where
  session : first.session = second.session
  body : first.body = second.body
  query : ∀ statement left right, belong left right →
    SameButFailure (first.query statement left).1 (second.query statement right).1 ∧
      belong (first.query statement left).2 (second.query statement right).2
  task : ∀ description left right, belong left right →
    SameButFailure (first.task description left).1 (second.task description right).1 ∧
      belong (first.task description left).2 (second.task description right).2
  world : ∀ left right, belong left right → first.world left = second.world right

end StandIn

/-! ## Stubs -/

/-- Two scripts give the same answers to the same calls, but for the details of failures. -/
def Script.DiffersInFailures (left right : Script (Except TaskError Answer)) : Prop :=
  List.Forall₂ (fun first second => first.1 = second.1 ∧
    List.Forall₂ SameButFailure first.2 second.2) left right

namespace Script.DiffersInFailures

variable {left right : Script (Except TaskError Answer)}

/-- The answers to calls of one name are the same, but for the details of failures. -/
theorem find? (differ : DiffersInFailures left right) (name : String) :
    Option.Rel (List.Forall₂ SameButFailure) (KeyMap.find? name left)
      (KeyMap.find? name right) := by
  induction differ with
  | nil => exact Option.Rel.none
  | cons first _ inductionHypothesis =>
      obtain ⟨sameName, answers⟩ := first
      simp only [KeyMap.find?, sameName]
      split
      · exact Option.Rel.some answers
      · exact inductionHypothesis

/-- Such answers may be put into both scripts. -/
theorem put
    {answers others : List (Except TaskError Answer)}
    (differ : DiffersInFailures left right)
    (same : List.Forall₂ SameButFailure answers others)
    (name : String) :
    DiffersInFailures (KeyMap.put name answers left) (KeyMap.put name others right) := by
  induction differ with
  | nil => exact List.Forall₂.cons ⟨rfl, same⟩ List.Forall₂.nil
  | @cons first second _ _ heads tails inductionHypothesis =>
      obtain ⟨firstName, _⟩ := first
      obtain ⟨secondName, _⟩ := second
      obtain ⟨rfl, answered⟩ := heads
      simp only [KeyMap.put]
      split
      · exact List.Forall₂.cons ⟨rfl, same⟩ (List.Forall₂.cons ⟨rfl, answered⟩ tails)
      · split
        · exact List.Forall₂.cons ⟨rfl, same⟩ tails
        · exact List.Forall₂.cons ⟨rfl, answered⟩ inductionHypothesis

/-- The next answer to a call is the same, but for the detail of a failure. -/
theorem next (differ : DiffersInFailures left right) (name : String) :
    Option.Rel SameButFailure (Script.next left name).1 (Script.next right name).1 ∧
      DiffersInFailures (Script.next left name).2 (Script.next right name).2 := by
  have found := differ.find? name
  unfold Script.next
  generalize KeyMap.find? name left = lefts at found ⊢
  generalize KeyMap.find? name right = rights at found ⊢
  cases found with
  | none => exact ⟨Option.Rel.none, differ⟩
  | some answers =>
      cases answers with
      | nil => exact ⟨Option.Rel.none, differ⟩
      | cons head tail =>
          cases tail with
          | nil => exact ⟨Option.Rel.some head, differ⟩
          | cons second others =>
              exact ⟨Option.Rel.some head, differ.put (List.Forall₂.cons second others) name⟩

end Script.DiffersInFailures

namespace Stubs

variable {world : Type}

/-- Two stubs hold the same tables and the same answers, and plan failures for the same queries; the
failures may have different details. -/
structure DiffersInFailures (left right : Stubs world) : Prop where
  pool : left.pool = right.pool
  world : left.world = right.world
  answers : Script.DiffersInFailures left.answers right.answers
  planned : List.Forall₂ (Option.Rel fun _ _ => True) left.planned right.planned

/-- Stubs that differ in the details of failures answer queries the same, but for these details. -/
theorem DiffersInFailures.query
    {left right : Stubs world}
    (differ : left.DiffersInFailures right)
    (statement : Statement) :
    SameButFailure (Stubs.query statement left).1 (Stubs.query statement right).1 ∧
      (Stubs.query statement left).2.DiffersInFailures (Stubs.query statement right).2 := by
  obtain ⟨leftPool, leftWorld, leftAnswers, leftPlanned⟩ := left
  obtain ⟨rightPool, rightWorld, rightAnswers, rightPlanned⟩ := right
  obtain ⟨rfl, rfl, answers, planned⟩ := differ
  cases planned with
  | nil => exact ⟨SameButFailure.refl _, rfl, rfl, answers, List.Forall₂.nil⟩
  | cons head tail =>
      cases head with
      | none => exact ⟨SameButFailure.refl _, rfl, rfl, answers, tail⟩
      | some _ => exact ⟨SameButFailure.error _ _, rfl, rfl, answers, tail⟩

/-- Stubs that differ in the details of failures answer tasks the same, but for these details. -/
theorem DiffersInFailures.task
    {left right : Stubs world}
    (differ : left.DiffersInFailures right)
    (description : TaskDescription) :
    SameButFailure (Stubs.task description left).1 (Stubs.task description right).1 ∧
      (Stubs.task description left).2.DiffersInFailures (Stubs.task description right).2 := by
  obtain ⟨answered, kept⟩ := differ.answers.next description.name
  unfold Stubs.task
  generalize left.answers.next description.name = leftNext at answered kept ⊢
  generalize right.answers.next description.name = rightNext at answered kept ⊢
  obtain ⟨leftAnswer, leftAnswers⟩ := leftNext
  obtain ⟨rightAnswer, rightAnswers⟩ := rightNext
  cases answered with
  | none => exact ⟨SameButFailure.error _ _, differ⟩
  | some same => exact ⟨same, differ.pool, differ.world, kept, differ.planned⟩

/-- Stubs that differ in the details of failures agree. -/
theorem agreesWith_standIn (session : Option Session) (body : Bytes) :
    (standIn session body : StandIn (Stubs world) world).AgreesWith (standIn session body)
      DiffersInFailures where
  session := rfl
  body := rfl
  query := fun statement _ _ differ => differ.query statement
  task := fun description _ _ differ => differ.task description
  world := fun _ _ differ => differ.world

end Stubs

/-! ## Recordings -/

namespace Event

/-- Whether an event is an entry of the log. -/
def isLogged : Event → Bool
  | logged _ => true
  | _ => false

/-- The events that are not entries of the log. -/
def unlogged (journal : List Event) : List Event := journal.filter fun event => !event.isLogged

@[simp] theorem unlogged_append (first second : List Event) :
    unlogged (first ++ second) = unlogged first ++ unlogged second :=
  List.filter_append first second

@[simp] theorem unlogged_singleton_logged (entry : LogEntry) : unlogged [logged entry] = [] := rfl

end Event

namespace Recording

variable {state other : Type} {world : Type} {left : Recording state} {right : Recording other}
  {belong : state → other → Prop}

/-- Two recordings are of stand-ins in states that belong together, with as many identifiers drawn,
and with the same events but for the log. -/
structure GoesWith (belong : state → other → Prop) (left : Recording state)
    (right : Recording other) : Prop where
  state : belong left.state right.state
  drawn : left.drawn = right.drawn
  journal : Event.unlogged left.journal = Event.unlogged right.journal

namespace GoesWith

theorem note (together : GoesWith belong left right) (event : Event) :
    GoesWith belong (left.note event) (right.note event) where
  state := together.state
  drawn := together.drawn
  journal := by simp only [Recording.note, Event.unlogged_append, together.journal]

theorem logLeft (together : GoesWith belong left right) (entry : LogEntry) :
    GoesWith belong (left.note (Event.logged entry)) right where
  state := together.state
  drawn := together.drawn
  journal := by simp [Recording.note, together.journal]

theorem logRight (together : GoesWith belong left right) (entry : LogEntry) :
    GoesWith belong left (right.note (Event.logged entry)) where
  state := together.state
  drawn := together.drawn
  journal := by simp [Recording.note, together.journal]

theorem draw (together : GoesWith belong left right) :
    left.draw.1 = right.draw.1 ∧ GoesWith belong left.draw.2 right.draw.2 := by
  obtain ⟨states, drawn, journals⟩ := together
  simp only [Recording.draw, drawn]
  exact ⟨trivial, states, rfl, journals⟩

/-- A query is answered the same, but for the detail of a failure. -/
theorem query
    {first : StandIn state world}
    {second : StandIn other world}
    (together : GoesWith belong left right)
    (agree : first.AgreesWith second belong)
    (statement : Statement) :
    SameButFailure (left.query first statement).1 (right.query second statement).1 ∧
      GoesWith belong (left.query first statement).2 (right.query second statement).2 := by
  have noted := together.note (Event.queried statement)
  obtain ⟨same, states⟩ := agree.query statement left.state right.state together.state
  exact ⟨same, states, noted.drawn, noted.journal⟩

/-- A task is answered the same, but for the detail of a failure. -/
theorem task
    {first : StandIn state world}
    {second : StandIn other world}
    (together : GoesWith belong left right)
    (agree : first.AgreesWith second belong)
    (description : TaskDescription) :
    SameButFailure (left.task first description).1 (right.task second description).1 ∧
      GoesWith belong (left.task first description).2 (right.task second description).2 := by
  have noted := together.note (Event.asked description)
  obtain ⟨same, states⟩ := agree.task description left.state right.state together.state
  exact ⟨same, states, noted.drawn, noted.journal⟩

end GoesWith

end Recording

namespace Chain

variable {state other world : Type}

/-- Chains that are alike come to the same outcome with stand-ins that differ in the details of
failures only. -/
theorem Alike.capture
    {chain changed : Chain world}
    {first : StandIn state world}
    {second : StandIn other world}
    {belong : state → other → Prop}
    {left : Recording state}
    {right : Recording other}
    (alike : Alike chain changed)
    (agree : first.AgreesWith second belong)
    (together : left.GoesWith belong right) :
    (chain.capture first left).1 = (changed.capture second right).1 ∧
      (chain.capture first left).2.GoesWith belong (changed.capture second right).2 := by
  induction alike generalizing left right with
  | respond => exact ⟨rfl, together⟩
  | session _ _ inductionHypothesis =>
      obtain ⟨outcomes, states⟩ := inductionHypothesis second.session together
      simp only [Chain.capture, agree.session, outcomes]
      exact ⟨trivial, states⟩
  | body _ _ inductionHypothesis =>
      obtain ⟨outcomes, states⟩ := inductionHypothesis second.body together
      simp only [Chain.capture, agree.body, outcomes]
      exact ⟨trivial, states⟩
  | query _ issued _ inductionHypothesis =>
      obtain ⟨same, answered⟩ := together.query agree issued.statement
      obtain ⟨outcomes, states⟩ :=
        inductionHypothesis _ _ (same.resolve_query issued) answered
      simp only [Chain.capture, outcomes, same.toBool_eq]
      exact ⟨trivial, states⟩
  | task _ call _ inductionHypothesis =>
      obtain ⟨same, answered⟩ := together.task agree call.description
      obtain ⟨outcomes, states⟩ :=
        inductionHypothesis _ _ (same.resolve_task call) answered
      simp only [Chain.capture, outcomes, same.toBool_eq]
      exact ⟨trivial, states⟩
  | detach _ _ asideHypothesis restHypothesis =>
      obtain ⟨asides, between⟩ := asideHypothesis together
      obtain ⟨rests, states⟩ := restHypothesis between
      simp only [Chain.capture, asides, rests]
      exact ⟨trivial, states⟩
  | ensure cleanup _ inductionHypothesis =>
      obtain ⟨outcomes, states⟩ := inductionHypothesis together
      simp only [Chain.capture, outcomes]
      exact ⟨trivial, states.note (Event.cleaned cleanup)⟩
  | note event _ inductionHypothesis => exact inductionHypothesis (together.note event)
  | logLeft entry _ inductionHypothesis => exact inductionHypothesis (together.logLeft entry)
  | logRight entry _ inductionHypothesis => exact inductionHypothesis (together.logRight entry)
  | fresh _ inductionHypothesis =>
      obtain ⟨sameId, drawn⟩ := together.draw
      have follows := inductionHypothesis right.draw.1 drawn
      simp only [Chain.capture, sameId]
      exact follows
  | observe _ inductionHypothesis =>
      have sameWorld := agree.world left.state right.state together.state
      have follows := inductionHypothesis (second.world right.state) together
      simp only [Chain.capture, sameWorld]
      exact follows

/-! ## Building discreet chains -/

variable {chain changed rest otherRest : Chain world} {result : Type}

/-- The rest of a chain that was detached may be changed. -/
theorem Alike.continuing
    {aside otherAside : Chain world}
    (rests : Alike rest otherRest)
    (asides : Alike aside otherAside) :
    Alike (besides.continuing aside rest) (besides.continuing otherAside otherRest) := by
  induction rests with
  | respond terminal => exact detach asides (respond terminal)
  | session owed follow => exact detach asides (session owed follow)
  | body owed follow => exact detach asides (body owed follow)
  | query owed issued follow => exact detach asides (query owed issued follow)
  | task owed call follow => exact detach asides (task owed call follow)
  | detach inner outer => exact detach asides (detach inner outer)
  | ensure cleanup alike => exact detach asides (ensure cleanup alike)
  | note event _ inductionHypothesis => exact note event inductionHypothesis
  | logLeft entry _ inductionHypothesis => exact logLeft entry inductionHypothesis
  | logRight entry _ inductionHypothesis => exact logRight entry inductionHypothesis
  | fresh _ inductionHypothesis => exact fresh inductionHypothesis
  | observe _ inductionHypothesis => exact observe inductionHypothesis

/-- A chain that is run on its own may be changed together with the rest. -/
theorem Alike.besides
    (asides : Alike chain changed)
    (rests : Alike rest otherRest) :
    Alike (besides chain rest) (besides changed otherRest) := by
  induction asides with
  | respond terminal => exact rests.continuing (respond terminal)
  | session owed follow => exact rests.continuing (session owed follow)
  | body owed follow => exact rests.continuing (body owed follow)
  | query owed issued follow => exact rests.continuing (query owed issued follow)
  | task owed call follow => exact rests.continuing (task owed call follow)
  | detach inner outer => exact rests.continuing (detach inner outer)
  | ensure cleanup alike => exact rests.continuing (ensure cleanup alike)
  | note event _ inductionHypothesis => exact note event inductionHypothesis
  | logLeft entry _ inductionHypothesis => exact logLeft entry inductionHypothesis
  | logRight entry _ inductionHypothesis => exact logRight entry inductionHypothesis
  | fresh _ inductionHypothesis => exact fresh inductionHypothesis
  | observe _ inductionHypothesis => exact observe inductionHypothesis

/-- Failures with the same public message and the same status are reported alike. -/
theorem alike_failOwing
    {error other : ServerError}
    (samePublic : error.publicMessage = other.publicMessage)
    (sameStatus : error.status = other.status)
    (owed : List Cleanup) :
    Alike (failOwing owed error : Chain world) (failOwing owed other) := by
  have samePage : error.page = other.page := by rw [ServerError.page, ServerError.page, samePublic]
  have ending : Alike (clean owed (respond (Terminal.html error.page error.status)) : Chain world)
      (clean owed (respond (Terminal.html other.page other.status))) := by
    rw [samePage, sameStatus]
    induction owed with
    | nil => exact Alike.respond _
    | cons cleanup _ inductionHypothesis => exact Alike.note (Event.cleaned cleanup) inductionHypothesis
  unfold failOwing
  rw [sameStatus]
  split
  · exact Alike.logLeft _ (Alike.logRight _ (sameStatus ▸ ending))
  · exact sameStatus ▸ ending

theorem alike_fail_ofQuery (owed : List Cleanup) (error other : QueryError) :
    Alike (failOwing owed (ServerError.ofQuery error) : Chain world)
      (failOwing owed (ServerError.ofQuery other)) := by
  have samePublic : (ServerError.ofQuery error).publicMessage =
      (ServerError.ofQuery other).publicMessage := rfl
  exact alike_failOwing samePublic rfl owed

theorem isDiscreet_fail (error : ServerError) : (fail error : Chain world).IsDiscreet :=
  alike_failOwing rfl rfl []

theorem isDiscreet_send (terminal : Terminal) : (send terminal : Chain world).IsDiscreet := by
  unfold IsDiscreet send
  split
  · exact Alike.respond terminal
  · exact Alike.note _ (Alike.respond terminal)

theorem isDiscreet_writeJson (value : Except String Json) :
    (writeJson value : Chain world).IsDiscreet := by
  cases value with
  | ok value => exact Alike.respond _
  | error detail => exact isDiscreet_fail _

theorem alike_logFailure (context message other : String) :
    Alike (logFailure context (some message) : Chain world) (logFailure context (some other)) :=
  Alike.logLeft _ (Alike.logRight _ (Alike.respond _))

/-- A query whose failure is reported is discreet if what follows is. -/
theorem isDiscreet_queryOrFail
    {next : result → Chain world}
    (issued : Query result)
    (follow : ∀ value, (next value).IsDiscreet) :
    (queryOrFail issued next).IsDiscreet := by
  refine Alike.query [] issued fun outcome changed same => ?_
  cases same with
  | ok value => exact follow value
  | error failure other => exact alike_fail_ofQuery [] failure other

/-- A task whose failure is reported with a message of its own is discreet if what follows is. -/
theorem isDiscreet_awaitOrFail
    {next : result → Chain world}
    (call : Task world result)
    (publicMessage : String)
    (follow : ∀ value, (next value).IsDiscreet) :
    (awaitOrFail call publicMessage next).IsDiscreet := by
  refine Alike.task [] call fun outcome changed same => ?_
  cases same with
  | ok value => exact follow value
  | error failure other =>
      have samePublic : (taskFailure call publicMessage failure).publicMessage =
          (taskFailure call publicMessage other).publicMessage := rfl
      exact alike_failOwing samePublic rfl []

end Chain

namespace Step

variable {world result other : Type}

/-- A step that takes the same steps whatever the details of failures are, if what follows does. -/
def IsDiscreet (step : Step world result) : Prop :=
  ∀ rest : Rest world result, (∀ value, (rest.next value).IsDiscreet) → (step.run rest).IsDiscreet

theorem isDiscreet_pure (value : result) : (pure value : Step world result).IsDiscreet :=
  fun _ follow => follow value

theorem isDiscreet_observe : (observe : Step world world).IsDiscreet :=
  fun _ follow => Chain.Alike.observe follow

theorem isDiscreet_session : (session : Step world (Option Session)).IsDiscreet :=
  fun rest follow => Chain.Alike.session rest.owed follow

/-- A query whose failure is reported is discreet. -/
theorem isDiscreet_queryOrFail (issued : Query result) :
    (queryOrFail issued : Step world result).IsDiscreet := by
  intro rest follow
  refine Chain.Alike.query rest.owed issued fun outcome changed same => ?_
  cases same with
  | ok value => exact follow value
  | error failure other => exact Chain.alike_fail_ofQuery rest.owed failure other

namespace IsDiscreet

/-- Discreet steps may follow each other. -/
theorem andThen
    {step : Step world result}
    {follow : result → Step world other}
    (first : step.IsDiscreet)
    (second : ∀ value, (follow value).IsDiscreet) :
    (step.andThen follow).IsDiscreet :=
  fun rest ends => first _ fun value => second value rest ends

theorem map
    {step : Step world result}
    (discreet : step.IsDiscreet)
    (change : result → other) :
    (step.map change).IsDiscreet :=
  fun _ ends => discreet _ fun value => ends (change value)

/-- A discreet step with a discreet end is a discreet chain. -/
theorem finish
    {step : Step world result}
    {close : result → Chain world}
    (discreet : step.IsDiscreet)
    (ends : ∀ value, (close value).IsDiscreet) :
    (step.finish close).IsDiscreet :=
  discreet { next := close, owed := [] } ends

end IsDiscreet

end Step

end Screencast
