import Screencast.Proofs.Account.Resolve
import Screencast.Proofs.Effect.Cleanups
import Screencast.Proofs.Serve.Turn

/-!
# The cleanups of a server

A thread goes the way of its chain, whatever the other threads do meanwhile. Where the chain waits
for a session, the thread may be looking it up. Its cleanups are those of the composition that its
chain was built from: when the thread is given up, and when it has sent its response.
-/

namespace Screencast

namespace Serve

variable {world : Type}

namespace Thread

/-! ## The way of a thread -/

/-- Where a thread is on the way of a chain. -/
inductive IsOn (source : Chain world) (handed : List (Delivery world)) (noted : List Event)
    (thread : Thread world) : Prop
  | here (way : source.Passage handed noted thread.cleanups thread.chain) :
      IsOn source handed noted thread
  /-- The session is looked up that the chain waits for. -/
  | lookingUp {owed : List Cleanup} {next : Option Session → Chain world} {result : Type}
      {issued : Query result} {follow : Except QueryError result → Chain world}
      (way : source.Passage handed noted thread.cleanups (Chain.session owed next))
      (atQuery : thread.chain = Chain.query owed issued follow)
      (looksUp : ∀ outcome, Chain.LooksUp owed next (follow outcome)) :
      IsOn source handed noted thread

/-- A thread has gone on, whatever happened meanwhile to what all threads share. These are the
events by which it has grown the journal. -/
inductive Goes (setup : Setup world) (thread : Thread world) : List Event → Thread world → Prop
  | start : Goes setup thread [] thread
  | step {told events : List Event} {middle last : Thread world}
      (goes : Goes setup thread told middle)
      (shared : Shared world)
      (left : (middle.step setup shared).1.threads.head? = some last)
      (grows : (middle.step setup shared).2.journal = shared.journal ++ events) :
      Goes setup thread (told ++ events) last

variable {setup : Setup world} {source : Chain world} {thread : Thread world}
  {handed : List (Delivery world)} {noted : List Event}

/-- A thread that looks up a session where its chain waits for it is on the way of the chain. -/
theorem IsOn.of_looksUp
    {owed : List Cleanup}
    {next : Option Session → Chain world}
    (way : source.Passage handed noted thread.cleanups (Chain.session owed next))
    (looksUp : Chain.LooksUp owed next thread.chain) :
    ∃ further, IsOn source further noted thread := by
  obtain ⟨chain, scope, stage, cleanups⟩ := thread
  cases looksUp with
  | found session =>
      have further := way.step (Chain.Takes.session owed next session)
      rw [List.append_nil] at further
      exact ⟨_, IsOn.here further⟩
  | failed error =>
      have further := way.step (Chain.Takes.noSession owed next error)
      rw [List.append_nil] at further
      exact ⟨_, IsOn.here further⟩
  | asks issued looksUp => exact ⟨handed, IsOn.lookingUp way rfl looksUp⟩

/-- After a turn, a thread is still on the way of its chain, and it has done the cleanups that the
chain has noted. -/
theorem IsOn.turn
    {events : List Event}
    {progress : Progress world}
    {last : Thread world}
    (isOn : IsOn source handed noted thread)
    (orderly : thread.IsOrderly)
    (turn : Turn setup thread events progress)
    (resolver : setup.resolver = Session.resolve)
    (left : progress.threads.head? = some last) :
    ∃ further told, IsOn source further (noted ++ told) last ∧
      Event.cleanups events = Event.cleanups told := by
  have silently {last : Thread world}
      (isOn : ∃ further, IsOn source further noted last)
      (quiet : Event.cleanups events = []) :
      ∃ further told, IsOn source further (noted ++ told) last ∧
        Event.cleanups events = Event.cleanups told := by
    obtain ⟨further, isOn⟩ := isOn
    exact ⟨further, [], by rwa [List.append_nil], quiet⟩
  cases turn with
  | finished atEnd => cases left
  | @lookUp owed next token atSession named =>
      obtain rfl := Option.some.inj left
      cases isOn with
      | here way =>
          rw [atSession] at way
          refine silently (IsOn.of_looksUp way ?_) rfl
          rw [resolver]
          exact Session.looksUp_resolve token owed next
      | lookingUp way atQuery looksUp => cases atSession.symm.trans atQuery
  | took takes remains =>
      rw [remains] at left
      obtain rfl := Option.some.inj left
      cases isOn with
      | here way => exact ⟨_, _, IsOn.here (way.step takes), by simp⟩
      | lookingUp way atQuery looksUp =>
          rw [atQuery] at takes
          cases takes with
          | query owed issued follow outcome =>
              exact silently (IsOn.of_looksUp way (looksUp outcome)) rfl
  | @answered result owed issued next outcome events progress atQuery only remains =>
      rw [remains] at left
      obtain rfl := Option.some.inj left
      have quiet := Event.cleanups_of_isOfConnection only
      cases isOn with
      | here way =>
          rw [atQuery] at way
          have further := way.step (Chain.Takes.query owed issued next outcome)
          rw [List.append_nil] at further
          exact silently ⟨_, IsOn.here further⟩ quiet
      | lookingUp way atOther looksUp =>
          cases atQuery.symm.trans atOther
          exact silently (IsOn.of_looksUp way (looksUp outcome)) quiet
  | within _ only remains =>
      rw [remains] at left
      obtain rfl := Option.some.inj left
      refine silently ⟨handed, ?_⟩ (Event.cleanups_of_isOfConnection only)
      cases isOn with
      | here way => exact IsOn.here way
      | lookingUp way atQuery looksUp => exact IsOn.lookingUp way atQuery looksUp
  | waits atTask remains =>
      -- The chain stays at the task, and so does its way.
      rw [remains] at left
      obtain rfl := Option.some.inj left
      cases isOn with
      | here way => exact silently ⟨handed, IsOn.here way⟩ rfl
      | lookingUp way atQuery looksUp => cases atTask.symm.trans atQuery
  | @continues result next outcome isSettled =>
      obtain rfl := Option.some.inj left
      obtain ⟨owed, call, atTask⟩ := orderly.task_of_settled isSettled
      cases isOn with
      | here way =>
          rw [atTask] at way
          have further := way.step (Chain.Takes.task owed call next outcome)
          rw [List.append_nil] at further
          exact silently ⟨_, IsOn.here further⟩ rfl
      | lookingUp way atQuery looksUp => cases atTask.symm.trans atQuery
  | @split aside rest atDetach =>
      obtain rfl := Option.some.inj left
      cases isOn with
      | here way =>
          rw [atDetach] at way
          have further := way.step (Chain.Takes.detach aside rest)
          rw [List.append_nil, List.append_nil] at further
          exact silently ⟨_, IsOn.here further⟩ rfl
      | lookingUp way atQuery looksUp => cases atDetach.symm.trans atQuery
  | stuck => cases left

/-- A thread that goes on from a fresh start is orderly. -/
theorem Goes.isOrderly
    {told : List Event}
    {last : Thread world}
    (goes : Goes setup thread told last)
    (orderly : thread.IsOrderly) :
    last.IsOrderly := by
  induction goes with
  | start => exact orderly
  | step goes shared left grows inductionHypothesis =>
      have dealing := dealing_step setup _ shared inductionHypothesis
      exact dealing.isOrderly inductionHypothesis _ (List.mem_of_mem_head? left)

/-- However far a thread has gone, it is on the way of its chain, and it has done the cleanups that
the chain has noted. -/
theorem Goes.isOn
    {scope : Scope}
    {told : List Event}
    {last : Thread world}
    (goes : Goes setup { chain := source, scope } told last)
    (resolver : setup.resolver = Session.resolve) :
    ∃ handed noted, IsOn source handed noted last ∧
      Event.cleanups told = Event.cleanups noted := by
  induction goes with
  | start => exact ⟨[], [], IsOn.here Chain.Passage.start, rfl⟩
  | @step told events middle last goes shared left grows inductionHypothesis =>
      obtain ⟨handed, noted, isOn, same⟩ := inductionHypothesis
      obtain ⟨others, journal, turn⟩ := takesTurn_step setup middle shared
      obtain rfl := List.append_cancel_left (grows.symm.trans journal)
      have orderly := goes.isOrderly (IsOrderly.idle rfl)
      obtain ⟨further, more, isFurther, alike⟩ := isOn.turn orderly turn resolver left
      refine ⟨further, noted ++ more, isFurther, ?_⟩
      rw [Event.cleanups_append, Event.cleanups_append, same, alike]

/-- A thread that is given up does what is done when its chain is given up, and then what it owes
for the time after its terminal. -/
theorem cleanups_journal_abandon
    (thread : Thread world)
    (shared : Shared world) :
    Event.cleanups (thread.abandon shared).journal =
      Event.cleanups shared.journal ++ thread.chain.pending ++ thread.cleanups := by
  unfold abandon
  dsimp only
  rw [Shared.foldl_note, Event.cleanups_append, Event.cleanups_map_served,
    Event.cleanups_append, Event.cleanups_map_cleaned, ← Chain.pending, ← List.append_assoc]
  congr 2
  split
  · rw [Shared.journal_note, Event.cleanups_append]
    simp [Event.cleanups]
  · rfl

/-- A step that sends a response does it for the terminal that the thread has come to, and does
then the cleanups that the thread owes. -/
theorem journal_of_finished
    {last : Thread world}
    {shared : Shared world}
    {response : Http.Response}
    (finished : (last.step setup shared).1 = Progress.finished response) :
    ∃ terminal, last.chain = Chain.respond terminal ∧
      response = (Http.Response.ofTerminal setup.files terminal).1 ∧
      (last.step setup shared).2.journal =
        shared.journal ++ (Http.Response.ofTerminal setup.files terminal).2.map Event.logged ++
          last.cleanups.map Event.cleaned := by
  obtain ⟨events, journal, turn⟩ := takesTurn_step setup last shared
  rw [finished] at turn
  cases turn with
  | @finished terminal atEnd => exact ⟨terminal, atEnd, rfl, journal.trans (by simp)⟩
  | took takes left => cases left
  | answered atQuery only left => cases left
  | within atQuery only left => cases left
  | waits atTask left => cases left

end Thread

end Serve

namespace Composition

open Serve

variable {world result : Type}

/-- Wherever the thread of a composition is, the scopes that are open have been cleaned up or will
be, and those that are closed will be cleaned up after them, the last one first. All of this is done
when the thread is given up there. When the thread sends its response, only the closed scopes are
still to be cleaned up, and that is what it does then. -/
theorem cleanups_of_goes
    {composition : Composition world result}
    {close : result → Ending}
    {setup : Setup world}
    {scope : Scope}
    {told : List Event}
    {last : Thread world}
    (goes : Thread.Goes setup { chain := composition.finish close, scope } told last)
    (resolver : setup.resolver = Session.resolve) :
    ∃ handed noted opened closed standing left,
      last.IsOn (composition.finish close) handed noted ∧
        Comes composition handed opened closed standing ∧
        Event.cleanups told ++ left = opened ∧
        (∀ shared, Event.cleanups (last.abandon shared).journal =
          Event.cleanups shared.journal ++ left ++ closed.reverse) ∧
        ∀ shared response, (last.step setup shared).1 = Progress.finished response →
          left = [] ∧ ∃ terminal, standing.EndsWith close terminal ∧
            response = (Http.Response.ofTerminal setup.files terminal).1 ∧
            (last.step setup shared).2.journal =
              shared.journal ++
                (Http.Response.ofTerminal setup.files terminal).2.map Event.logged ++
                closed.reverse.map Event.cleaned := by
  obtain ⟨handed, noted, isOn, same⟩ := goes.isOn resolver
  cases isOn with
  | here way =>
      obtain ⟨opened, closed, standing, left, comes, done, toDo, atEnd⟩ := comes_of_passage way
      refine ⟨handed, noted, opened, closed, standing, left, Thread.IsOn.here way, comes,
        same ▸ done, fun shared => ?_, fun shared response finished => ?_⟩
      · rw [Thread.cleanups_journal_abandon, List.append_assoc, toDo, List.append_assoc]
      · obtain ⟨terminal, isEnd, isResponse, journal⟩ := Thread.journal_of_finished finished
        obtain ⟨rfl, ends⟩ := atEnd terminal isEnd
        rw [isEnd] at toDo
        have owes : last.cleanups = closed.reverse := toDo
        exact ⟨rfl, terminal, ends, isResponse, owes ▸ journal⟩
  | lookingUp way atQuery looksUp =>
      obtain ⟨opened, closed, standing, left, comes, done, toDo, atEnd⟩ := comes_of_passage way
      refine ⟨handed, noted, opened, closed, standing, left,
        Thread.IsOn.lookingUp way atQuery looksUp, comes, same ▸ done,
        fun shared => ?_, fun shared response finished => ?_⟩
      · rw [Chain.pending_session] at toDo
        rw [Thread.cleanups_journal_abandon, atQuery, Chain.pending_query, List.append_assoc,
          List.append_assoc, toDo]
      · obtain ⟨terminal, isEnd, _⟩ := Thread.journal_of_finished finished
        cases atQuery.symm.trans isEnd

/-- However the chain of a composition is dealt with, every scope that has been entered is cleaned
up exactly once. If the chain is given up before it runs, these are the scopes that are entered
while it is built. In a captured run, and on a server whether the thread is given up or comes to its
end, the scopes that are open when the composition stops come first. Those that are closed follow,
the last one first. Unless the thread is given up, nothing else is done after them. A composition may
also change the value of an outcome, or continue only if there is a value: such a composition stands
for the step that does so. -/
theorem cleanups_of_every_run
    {state : Type}
    (composition : Composition world result)
    (close : result → Ending)
    (standIn : StandIn state world)
    (files : Http.StaticFiles)
    (limit : Option Nat) :
    let chain := composition.finish close
    let setup : Setup world := { files, resolver := Session.resolve, taskTimeoutMillis := limit }
    (∃ opened closed standing, Comes composition [] opened closed standing ∧
      Event.cleanups chain.discarded = opened ++ closed.reverse) ∧
    (∀ recording, ∃ opened closed standing events steps,
      Comes composition (chain.handed standIn recording) opened closed standing ∧
        standing.EndsWith close (chain.capture standIn recording).1.terminal ∧
        Event.cleanups events = opened ∧
        (chain.capture standIn recording).2.journal =
          recording.journal ++ events ++ closed.reverse.map Event.cleaned ∧
        (chain.capture standIn recording).1.trace =
          steps ++ List.replicate closed.length Resolved.cleanup ∧
        Resolved.cleanup ∉ steps) ∧
    (∀ scope told last, Thread.Goes setup { chain, scope } told last →
      ∃ handed noted opened closed standing left,
        last.IsOn chain handed noted ∧
          Comes composition handed opened closed standing ∧
          Event.cleanups told ++ left = opened ∧
          (∀ shared, Event.cleanups (last.abandon shared).journal =
            Event.cleanups shared.journal ++ left ++ closed.reverse) ∧
          ∀ shared response, (last.step setup shared).1 = Progress.finished response →
            left = [] ∧ ∃ terminal, standing.EndsWith close terminal ∧
              response = (Http.Response.ofTerminal files terminal).1 ∧
              (last.step setup shared).2.journal =
                shared.journal ++ (Http.Response.ofTerminal files terminal).2.map Event.logged ++
                  closed.reverse.map Event.cleaned) ∧
    ∀ {error value other : Type} (first : Composition world (Except error value)),
      (∀ change : value → other,
        (first.mapResult change).step = first.step.mapResult change) ∧
      ∀ follow : value → Composition world (Except error other),
        (first.andThenOk follow).step = first.step.andThenOk fun value => (follow value).step := by
  refine ⟨composition.cleanups_of_discarded close,
    composition.cleanups_of_capture close standIn, ?_, fun first => ?_⟩
  · intro scope told last goes
    exact cleanups_of_goes goes rfl
  · exact ⟨first.step_mapResult, first.step_andThenOk⟩

/-- A scope is not cleaned up that would have been entered after a query that failed. -/
theorem cleanups_capture_unentered :
    let things : Query Unit :=
      { statement := Statement.select "things" [] none none
        parser := fun _ => Except.ok () }
    let composition : Composition Unit Nat :=
      ((query things).orFail ServerError.ofQuery).andThen fun _ => (pure 1).ensuring "late"
    let standIn : StandIn Unit Unit :=
      { session := none
        body := []
        query := fun _ state => (Except.error (QueryError.execute "no"), state)
        task := fun _ state => (Except.error TaskError.cancelled, state)
        world := fun state => state }
    let chain := composition.finish fun _ => Ending.send (Terminal.text "" Status.ok [])
    Event.cleanups (chain.capture standIn { state := () }).2.journal = [] :=
  rfl

end Composition

end Screencast
