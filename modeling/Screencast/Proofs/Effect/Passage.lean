import Screencast.Effect.Capture
import Screencast.Effect.Chain

/-!
# The way of a chain

A chain goes on with what it is handed, whoever hands it over. Its way is the list of what it has
been handed so far, with the events that it has noted and the cleanups that it has come to owe for
the time after its terminal. What is handed over decides what is left of the chain. Stand-ins hand
over something at every step, so a captured run goes such a way to its end.
-/

namespace Screencast

/-- What a chain is handed at one of its steps. A chain may also be refused what it waits for, and
ends with an error page then. -/
inductive Delivery (world : Type) : Type 1
  | session (found : Option Session)
  | body (bytes : Bytes)
  | query {result : Type} (outcome : Except QueryError result)
  | task {result : Type} (outcome : Except TaskError result)
  | drawn (id : Uuid)
  | seen (outside : world)
  | refused (error : ServerError)

namespace Event

/-- The cleanups that were done, in order. -/
def cleanups (events : List Event) : List Cleanup :=
  events.filterMap fun event =>
    match event with
    | cleaned cleanup => some cleanup
    | _ => none

@[simp] theorem cleanups_nil : cleanups [] = [] := rfl

@[simp] theorem cleanups_append (first second : List Event) :
    cleanups (first ++ second) = cleanups first ++ cleanups second :=
  List.filterMap_append

@[simp] theorem cleanups_map_cleaned (done : List Cleanup) :
    cleanups (done.map cleaned) = done := by
  rw [cleanups, List.filterMap_map]
  exact List.filterMap_some

end Event

namespace Chain

variable {world : Type}

/-- One step of a chain: what it is handed, what it notes, which cleanup it comes to owe, and how it
goes on. What it detaches goes a way of its own. -/
inductive Takes :
    Chain world → List (Delivery world) → List Event → List Cleanup → Chain world → Prop
  | session (owed : List Cleanup) (next : Option Session → Chain world) (found : Option Session) :
      Takes (session owed next) [Delivery.session found] [] [] (next found)
  | noSession (owed : List Cleanup) (next : Option Session → Chain world) (error : ServerError) :
      Takes (session owed next) [Delivery.refused error] [] [] (failOwing owed error)
  | body (owed : List Cleanup) (next : Bytes → Chain world) (bytes : Bytes) :
      Takes (body owed next) [Delivery.body bytes] [] [] (next bytes)
  | noBody (owed : List Cleanup) (next : Bytes → Chain world) (error : ServerError) :
      Takes (body owed next) [Delivery.refused error] [] [] (failOwing owed error)
  | query {result : Type} (owed : List Cleanup) (issued : Query result)
      (next : Except QueryError result → Chain world) (outcome : Except QueryError result) :
      Takes (query owed issued next) [Delivery.query outcome] [] [] (next outcome)
  | task {result : Type} (owed : List Cleanup) (call : Task world result)
      (next : Except TaskError result → Chain world) (outcome : Except TaskError result) :
      Takes (task owed call next) [Delivery.task outcome] [] [] (next outcome)
  | detach (aside rest : Chain world) : Takes (detach aside rest) [] [] [] rest
  | ensure (guarded : Chain world) (cleanup : Cleanup) :
      Takes (ensure guarded cleanup) [] [] [cleanup] guarded
  | note (event : Event) (rest : Chain world) : Takes (note event rest) [] [event] [] rest
  | fresh (next : Uuid → Chain world) (id : Uuid) :
      Takes (fresh next) [Delivery.drawn id] [] [] (next id)
  | observe (next : world → Chain world) (outside : world) :
      Takes (observe next) [Delivery.seen outside] [] [] (next outside)

/-- The way of a chain: what it has been handed, what it has noted, the cleanups that it has come to
owe with the latest first, and what is left of it. -/
inductive Passage (source : Chain world) :
    List (Delivery world) → List Event → List Cleanup → Chain world → Prop
  | start : Passage source [] [] [] source
  | step {handed given : List (Delivery world)} {noted told : List Event}
      {owed opened : List Cleanup} {middle last : Chain world}
      (way : Passage source handed noted owed middle)
      (takes : middle.Takes given told opened last) :
      Passage source (handed ++ given) (noted ++ told) (opened ++ owed) last

namespace Passage

variable {source middle last : Chain world} {handed given : List (Delivery world)}
  {noted told : List Event} {owed opened : List Cleanup}

/-- One way after another is a way. -/
theorem trans
    (first : Passage source handed noted owed middle)
    (second : Passage middle given told opened last) :
    Passage source (handed ++ given) (noted ++ told) (opened ++ owed) last := by
  induction second with
  | start =>
      rw [List.append_nil, List.append_nil]
      exact first
  | step way takes inductionHypothesis =>
      simpa only [List.append_assoc] using inductionHypothesis.step takes

/-- A way is over at once, or it begins with a step. -/
theorem cases_head (way : Passage source handed noted owed last) :
    (handed = [] ∧ noted = [] ∧ owed = [] ∧ last = source) ∨
      ∃ given told opened middle handed' noted' owed',
        source.Takes given told opened middle ∧ Passage middle handed' noted' owed' last ∧
          handed = given ++ handed' ∧ noted = told ++ noted' ∧ owed = owed' ++ opened := by
  induction way with
  | start => exact Or.inl ⟨rfl, rfl, rfl, rfl⟩
  | step way takes inductionHypothesis =>
      right
      obtain ⟨rfl, rfl, rfl, rfl⟩ | ⟨given, told, opened, middle, _, _, _, first, rest, rfl, rfl,
        rfl⟩ := inductionHypothesis
      · exact ⟨_, _, _, _, [], [], [], takes, start, by simp, by simp, by simp⟩
      · exact ⟨_, _, _, _, _, _, _, first, rest.step takes, by simp, by simp, by simp⟩

end Passage

/-! ## What is still to be done -/

/-- The cleanups that are done when a chain is built and then given up. -/
def pending (chain : Chain world) : List Cleanup := Event.cleanups chain.discarded

@[simp] theorem pending_note (event : Event) (rest : Chain world) :
    (note event rest).pending = Event.cleanups [event] ++ rest.pending :=
  Event.cleanups_append [event] rest.discarded

/-- Without notes, giving up a chain after it is built is giving it up. -/
theorem pending_eq_abandoned
    {chain : Chain world}
    (noNote : ∀ event rest, chain ≠ note event rest) :
    chain.pending = chain.abandoned := by
  cases chain with
  | note event rest => exact absurd rfl (noNote event rest)
  | _ => exact Event.cleanups_map_cleaned _

@[simp] theorem pending_respond (terminal : Terminal) :
    (respond terminal : Chain world).pending = [] := rfl

@[simp] theorem pending_ensure (guarded : Chain world) (cleanup : Cleanup) :
    (ensure guarded cleanup).pending = guarded.abandoned ++ [cleanup] :=
  Event.cleanups_map_cleaned _

@[simp] theorem pending_session (owed : List Cleanup) (next : Option Session → Chain world) :
    (session owed next).pending = owed :=
  Event.cleanups_map_cleaned _

@[simp] theorem pending_body (owed : List Cleanup) (next : Bytes → Chain world) :
    (body owed next).pending = owed :=
  Event.cleanups_map_cleaned _

@[simp] theorem pending_query {result : Type} (owed : List Cleanup) (issued : Query result)
    (next : Except QueryError result → Chain world) :
    (query owed issued next).pending = owed :=
  Event.cleanups_map_cleaned _

@[simp] theorem pending_task {result : Type} (owed : List Cleanup) (call : Task world result)
    (next : Except TaskError result → Chain world) :
    (task owed call next).pending = owed :=
  Event.cleanups_map_cleaned _

/-- A chain that does one thing after another: it detaches nothing, and nothing but notes is taken
while it is built. -/
def IsSequential : Chain world → Prop
  | respond _ => True
  | session _ next => ∀ found, (next found).IsSequential
  | body _ next => ∀ bytes, (next bytes).IsSequential
  | query _ _ next => ∀ outcome, (next outcome).IsSequential
  | task _ _ next => ∀ outcome, (next outcome).IsSequential
  | detach _ _ => False
  | ensure guarded _ => guarded.IsSequential
  | note _ rest => rest.IsSequential
  | fresh _ => False
  | observe _ => False

/-- A guarded chain does one thing after another if the chain does. -/
theorem IsSequential.guarded
    {chain : Chain world}
    (sequential : chain.IsSequential)
    (cleanup : Cleanup) :
    (Chain.guarded cleanup chain).IsSequential := by
  induction chain with
  | note event rest inductionHypothesis => exact inductionHypothesis sequential
  | fresh => exact sequential.elim
  | observe => exact sequential.elim
  | respond | session | body | query | task | detach | ensure => exact sequential

/-- The cleanup of a guard is done last when the guarded chain is given up. -/
theorem pending_guarded
    {chain : Chain world}
    (sequential : chain.IsSequential)
    (cleanup : Cleanup) :
    (Chain.guarded cleanup chain).pending = chain.pending ++ [cleanup] := by
  induction chain with
  | note event rest inductionHypothesis =>
      have guardedRest : Chain.guarded cleanup (note event rest) =
          note event (Chain.guarded cleanup rest) := rfl
      rw [guardedRest, pending_note, pending_note, inductionHypothesis sequential,
        List.append_assoc]
  | fresh => exact sequential.elim
  | observe => exact sequential.elim
  | respond | session | body | query | task | detach | ensure =>
      refine (pending_ensure _ _).trans (congrArg (· ++ [cleanup]) ?_)
      exact (pending_eq_abandoned (by rintro event rest ⟨⟩)).symm

/-- The way of a chain that is guarded by a cleanup is its own way, with the cleanup to be done at
the end. -/
theorem Passage.of_guarded
    {chain last : Chain world}
    {cleanup : Cleanup}
    {handed : List (Delivery world)}
    {noted : List Event}
    {owed : List Cleanup}
    (sequential : chain.IsSequential)
    (way : Passage (Chain.guarded cleanup chain) handed noted owed last) :
    ∃ own inner, Passage chain handed noted own inner ∧
      last.pending ++ owed = inner.pending ++ own ++ [cleanup] ∧
      ∀ terminal, last = respond terminal → inner = respond terminal := by
  have atStart {begun : Chain world} (isSequential : begun.IsSequential) :
      ∃ own inner, Passage begun [] [] own inner ∧
        (Chain.guarded cleanup begun).pending ++ [] = inner.pending ++ own ++ [cleanup] ∧
        ∀ terminal, Chain.guarded cleanup begun = respond terminal → inner = respond terminal := by
    refine ⟨[], begun, Passage.start, by rw [pending_guarded isSequential]; simp, ?_⟩
    intro terminal isEnd
    cases begun <;> cases isEnd
  induction chain generalizing handed noted owed with
  | note event chain inductionHypothesis =>
      obtain ⟨rfl, rfl, rfl, rfl⟩ | ⟨_, _, _, _, _, _, _, takes, rest, rfl, rfl, rfl⟩ :=
        way.cases_head
      · exact atStart sequential
      · cases takes
        obtain ⟨own, inner, ownWay, same, ends⟩ := inductionHypothesis sequential rest
        have first : Passage (note event chain) [] [event] [] chain :=
          Passage.start.step (Takes.note event chain)
        exact ⟨_, inner, first.trans ownWay, by simpa using same, ends⟩
  | fresh => exact sequential.elim
  | observe => exact sequential.elim
  | respond | session | body | query | task | detach | ensure =>
      -- The guard is the head of the chain, and its first step is to owe the cleanup.
      obtain ⟨rfl, rfl, rfl, rfl⟩ | ⟨_, _, _, _, _, _, owed', takes, rest, rfl, rfl, rfl⟩ :=
        way.cases_head
      · exact atStart sequential
      · cases takes
        exact ⟨owed', last, rest, by simp, fun terminal same => same⟩

/-! ## Notes -/

/-- A chain that makes notes and ends. -/
def notes (events : List Event) (terminal : Terminal) : Chain world :=
  events.foldr note (respond terminal)

@[simp] theorem notes_nil (terminal : Terminal) :
    (notes [] terminal : Chain world) = respond terminal := rfl

@[simp] theorem notes_cons (event : Event) (events : List Event) (terminal : Terminal) :
    (notes (event :: events) terminal : Chain world) = note event (notes events terminal) := rfl

@[simp] theorem pending_notes (events : List Event) (terminal : Terminal) :
    (notes events terminal : Chain world).pending = Event.cleanups events := by
  induction events with
  | nil => rfl
  | cons event events inductionHypothesis =>
      rw [notes_cons, pending_note, inductionHypothesis, ← Event.cleanups_append]
      rfl

/-- Such a chain is handed nothing, and has made some of its notes. -/
theorem Passage.of_notes
    {events : List Event}
    {terminal : Terminal}
    {last : Chain world}
    {handed : List (Delivery world)}
    {noted : List Event}
    {owed : List Cleanup}
    (way : Passage (notes events terminal) handed noted owed last) :
    handed = [] ∧ owed = [] ∧ ∃ left, events = noted ++ left ∧ last = notes left terminal := by
  induction events generalizing handed noted owed with
  | nil =>
      obtain ⟨rfl, rfl, rfl, rfl⟩ | ⟨_, _, _, _, _, _, _, takes, _⟩ := way.cases_head
      · exact ⟨rfl, rfl, [], rfl, rfl⟩
      · cases takes
  | cons event events inductionHypothesis =>
      obtain ⟨rfl, rfl, rfl, rfl⟩ | ⟨_, _, _, _, _, _, _, takes, rest, rfl, rfl, rfl⟩ :=
        way.cases_head
      · exact ⟨rfl, rfl, event :: events, rfl, rfl⟩
      · cases takes
        obtain ⟨rfl, rfl, left, rfl, rfl⟩ := inductionHypothesis rest
        exact ⟨rfl, rfl, left, rfl, rfl⟩

/-- What is noted when a failure is reported: an entry of the log, and the owed cleanups. -/
def failureNotes (owed : List Cleanup) (error : ServerError) : List Event :=
  (if error.status.isServerError then [Event.logged (Event.requestFailed error)] else []) ++
    owed.map Event.cleaned

/-- Reporting a failure is making its notes, and showing a page. -/
theorem failOwing_eq_notes (owed : List Cleanup) (error : ServerError) :
    (failOwing owed error : Chain world) =
      notes (failureNotes owed error) (Terminal.html error.page error.status) := by
  have cleaning (ending : Chain world) :
      clean owed ending = (owed.map Event.cleaned).foldr note ending := by
    simp only [clean, List.foldr_map]
  unfold failOwing failureNotes notes
  dsimp only
  split <;> rw [cleaning] <;> rfl

@[simp] theorem cleanups_failureNotes (owed : List Cleanup) (error : ServerError) :
    Event.cleanups (failureNotes owed error) = owed := by
  rw [failureNotes, Event.cleanups_append, Event.cleanups_map_cleaned]
  split <;> rfl

theorem isSequential_notes (events : List Event) (terminal : Terminal) :
    (notes events terminal : Chain world).IsSequential := by
  induction events with
  | nil => trivial
  | cons event events inductionHypothesis => exact inductionHypothesis

theorem isSequential_failOwing (owed : List Cleanup) (error : ServerError) :
    (failOwing owed error : Chain world).IsSequential := by
  rw [failOwing_eq_notes]
  exact isSequential_notes _ _

end Chain

/-! ## What stand-ins hand over

A captured run goes the way of its chain to the end, with what the stand-ins hand over. What a chain
detaches is run before the rest, but it is handed things of its own.
-/

namespace Chain

variable {state world : Type}

/-- What a chain is handed in a captured run, without what its detached chains are handed. -/
def handed (standIn : StandIn state world) :
    Chain world → Recording state → List (Delivery world)
  | respond _, _ => []
  | session _ next, recording =>
    Delivery.session standIn.session :: (next standIn.session).handed standIn recording
  | body _ next, recording =>
    Delivery.body standIn.body :: (next standIn.body).handed standIn recording
  | query _ issued next, recording =>
    let (rows, recording) := recording.query standIn issued.statement
    Delivery.query (issued.resolve rows) :: (next (issued.resolve rows)).handed standIn recording
  | task _ call next, recording =>
    let (answer, recording) := recording.task standIn call.description
    Delivery.task (call.resolve answer) :: (next (call.resolve answer)).handed standIn recording
  | detach aside rest, recording => rest.handed standIn (aside.capture standIn recording).2
  | ensure guarded _, recording => guarded.handed standIn recording
  | note event rest, recording => rest.handed standIn (recording.note event)
  | fresh next, recording =>
    let (id, recording) := recording.draw
    Delivery.drawn id :: (next id).handed standIn recording
  | observe next, recording =>
    let outside := standIn.world recording.state
    Delivery.seen outside :: (next outside).handed standIn recording

/-- A step before the way of what is left makes the way of the chain. -/
theorem Passage.after_step
    {source middle last : Chain world}
    {given handed : List (Delivery world)}
    {told noted : List Event}
    {opened owed : List Cleanup}
    (takes : source.Takes given told opened middle)
    (way : middle.Passage handed noted owed last) :
    source.Passage (given ++ handed) (told ++ noted) (owed ++ opened) last := by
  simpa using (Passage.start.step takes).trans way

/-- A step that owes no cleanup before the way of what is left makes the way of the chain. -/
theorem Passage.after_free_step
    {source middle last : Chain world}
    {given handed : List (Delivery world)}
    {told noted : List Event}
    {owed : List Cleanup}
    (takes : source.Takes given told [] middle)
    (way : middle.Passage handed noted owed last) :
    source.Passage (given ++ handed) (told ++ noted) owed last := by
  simpa using Passage.after_step takes way

/-- A captured run of a chain that does one thing after another goes the way of the chain to its
terminal. The cleanups that it has come to owe are done at the end, and noted down when everything
else has been resolved. -/
theorem capture_of_isSequential
    (standIn : StandIn state world)
    (chain : Chain world)
    (sequential : chain.IsSequential)
    (recording : Recording state) :
    ∃ noted owed events steps,
      chain.Passage (chain.handed standIn recording) noted owed
        (respond (chain.capture standIn recording).1.terminal) ∧
      Event.cleanups events = Event.cleanups noted ∧
      (chain.capture standIn recording).2.journal =
        recording.journal ++ events ++ owed.map Event.cleaned ∧
      (chain.capture standIn recording).1.trace =
        steps ++ List.replicate owed.length Resolved.cleanup ∧
      Resolved.cleanup ∉ steps := by
  induction chain generalizing recording with
  | respond terminal =>
      exact ⟨[], [], [], [], Passage.start, rfl, by simp [capture], rfl, List.not_mem_nil⟩
  | session owed next inductionHypothesis =>
      obtain ⟨noted, owing, events, steps, way, same, journal, trace, noCleanup⟩ :=
        inductionHypothesis standIn.session (sequential _) recording
      refine ⟨noted, owing, events, _ :: steps, ?_, same, journal, congrArg (_ :: ·) trace, ?_⟩
      · exact Passage.after_free_step (Takes.session owed next _) way
      · simpa using noCleanup
  | body owed next inductionHypothesis =>
      obtain ⟨noted, owing, events, steps, way, same, journal, trace, noCleanup⟩ :=
        inductionHypothesis standIn.body (sequential _) recording
      refine ⟨noted, owing, events, _ :: steps, ?_, same, journal, congrArg (_ :: ·) trace, ?_⟩
      · exact Passage.after_free_step (Takes.body owed next _) way
      · simpa using noCleanup
  | query owed issued next inductionHypothesis =>
      obtain ⟨noted, owing, events, steps, way, same, journal, trace, noCleanup⟩ :=
        inductionHypothesis (issued.resolve (recording.query standIn issued.statement).1)
          (sequential _) (recording.query standIn issued.statement).2
      refine ⟨noted, owing, Event.queried issued.statement :: events, _ :: steps, ?_, same, ?_,
        congrArg (_ :: ·) trace, ?_⟩
      · exact Passage.after_free_step (Takes.query owed issued next _) way
      · refine journal.trans ?_
        simp [Recording.query, Recording.note]
      · simpa using noCleanup
  | task owed call next inductionHypothesis =>
      obtain ⟨noted, owing, events, steps, way, same, journal, trace, noCleanup⟩ :=
        inductionHypothesis (call.resolve (recording.task standIn call.description).1)
          (sequential _) (recording.task standIn call.description).2
      refine ⟨noted, owing, Event.asked call.description :: events, _ :: steps, ?_, same, ?_,
        congrArg (_ :: ·) trace, ?_⟩
      · exact Passage.after_free_step (Takes.task owed call next _) way
      · refine journal.trans ?_
        simp [Recording.task, Recording.note]
      · simpa using noCleanup
  | detach => exact sequential.elim
  | ensure guarded cleanup inductionHypothesis =>
      obtain ⟨noted, owing, events, steps, way, same, journal, trace, noCleanup⟩ :=
        inductionHypothesis sequential recording
      refine ⟨noted, owing ++ [cleanup], events, steps, ?_, same, ?_, ?_, noCleanup⟩
      · exact Passage.after_step (Takes.ensure guarded cleanup) way
      · change (guarded.capture standIn recording).2.journal ++ [Event.cleaned cleanup] = _
        rw [journal]
        simp
      · change (guarded.capture standIn recording).1.trace ++ [Resolved.cleanup] = _
        rw [trace, List.length_append, List.length_singleton, List.replicate_succ',
          List.append_assoc]
  | note event rest inductionHypothesis =>
      obtain ⟨noted, owing, events, steps, way, same, journal, trace, noCleanup⟩ :=
        inductionHypothesis sequential (recording.note event)
      refine ⟨event :: noted, owing, event :: events, steps, ?_, ?_, ?_, trace, noCleanup⟩
      · exact Passage.after_free_step (Takes.note event rest) way
      · exact (Event.cleanups_append [event] events).trans
          ((congrArg (Event.cleanups [event] ++ ·) same).trans
            (Event.cleanups_append [event] noted).symm)
      · refine journal.trans ?_
        simp [Recording.note]
  | fresh => exact sequential.elim
  | observe => exact sequential.elim

end Chain

end Screencast
