import Screencast.Proofs.Effect.Composition
import Screencast.Proofs.Effect.Passage

/-!
# The cleanups of compositions

When a composition is ended by a terminal or by the report of a failure, every scope that it has
entered is cleaned up exactly once, wherever its chain stops: first the scopes that are open, then
those that have been left, the last one first.
-/

namespace Screencast

/-- What ends a composition: a terminal, or the report of a failure. -/
inductive Ending
  | send (terminal : Terminal)
  | fail (error : ServerError)

namespace Ending

variable {world : Type}

/-- The chain of an ending. -/
def chain : Ending → Chain world
  | send terminal => Chain.send terminal
  | fail error => Chain.fail error

/-- The terminal of an ending. -/
def terminal : Ending → Terminal
  | send terminal => terminal
  | fail error => Terminal.html error.page error.status

/-- What an ending notes. -/
def events : Ending → List Event
  | send terminal => (terminal.fault?.map Event.malformed).toList
  | fail error => Chain.failureNotes [] error

/-- An ending makes its notes and ends. -/
theorem chain_eq_notes (ending : Ending) :
    (ending.chain : Chain world) = Chain.notes ending.events ending.terminal := by
  cases ending with
  | send terminal =>
      cases fault : terminal.fault? <;>
        simp [chain, events, Ending.terminal, Chain.send, fault, Chain.notes]
  | fail error => exact Chain.failOwing_eq_notes [] error

theorem isSequential_chain (ending : Ending) : (ending.chain : Chain world).IsSequential := by
  rw [chain_eq_notes]
  exact Chain.isSequential_notes _ _

theorem cleanups_events (ending : Ending) : Event.cleanups ending.events = [] := by
  cases ending with
  | send terminal =>
      cases fault : terminal.fault? <;> simp [events, fault, Event.cleanups]
  | fail error => exact Chain.cleanups_failureNotes [] error

end Ending

namespace Composition

variable {world result : Type}

/-- The chain of a composition with an ending. -/
def finish (composition : Composition world result) (close : result → Ending) : Chain world :=
  composition.step.finish fun value => (close value).chain

theorem isSequential_finish (composition : Composition world result) (close : result → Ending) :
    (composition.finish close).IsSequential :=
  composition.isSequential_run fun value => (close value).isSequential_chain

/-- A composition that has come to a standing ends with a terminal: with the one of its ending, or
with an error page if it has failed. -/
def Standing.EndsWith (close : result → Ending) : Standing result → Terminal → Prop
  | reached value, terminal => terminal = (close value).terminal
  | stopped (Stop.failed error), terminal => terminal = Terminal.html error.page error.status
  | stopped Stop.waiting, _ => False

/-- Wherever the chain of a composition has come, the scopes that are open have been cleaned up or
will be, and after them those that are closed will be cleaned up, the last one first. The terminal
is reached when nothing else is to be done. -/
theorem comes_of_passage
    {composition : Composition world result}
    {close : result → Ending}
    {handed : List (Delivery world)}
    {noted : List Event}
    {owed : List Cleanup}
    {last : Chain world}
    (way : (composition.finish close).Passage handed noted owed last) :
    ∃ opened closed standing left,
      Comes composition handed opened closed standing ∧
        Event.cleanups noted ++ left = opened ∧
        last.pending ++ owed = left ++ closed.reverse ∧
        ∀ terminal, last = Chain.respond terminal →
          left = [] ∧ standing.EndsWith close terminal := by
  cases composition.whereabouts_of_passage (fun value => (close value).isSequential_chain) way with
  | @inside opened closed left stop comes done toDo atEnd =>
      refine ⟨opened, closed, Standing.stopped stop, left, comes, done, toDo, ?_⟩
      intro terminal isEnd
      obtain ⟨nothingLeft, error, rfl, isPage⟩ := atEnd terminal isEnd
      exact ⟨nothingLeft, isPage⟩
  | @beyond before after closed own value inner comes parts further toDo atEnd =>
      change (close value).chain.Passage after noted own inner at further
      rw [Ending.chain_eq_notes] at further
      obtain ⟨rfl, rfl, left, notes, rfl⟩ := further.of_notes
      rw [List.append_nil] at parts
      subst parts
      obtain ⟨noCleanups, noneLeft⟩ :=
        List.append_eq_nil_iff.1
          ((Event.cleanups_append noted left).symm.trans (notes ▸ (close value).cleanups_events))
      refine ⟨[], closed, Standing.reached value, [], comes, by simp [noCleanups], ?_, ?_⟩
      · simpa [noneLeft] using toDo
      · intro terminal isEnd
        cases left with
        | nil => exact ⟨rfl, (Chain.respond.inj (atEnd terminal isEnd)).symm⟩
        | cons event left => cases atEnd terminal isEnd

/-! ## Captured runs and trees that are given up -/

/-- In a captured run, the scopes that are open when the composition stops are cleaned up before the
terminal, and those that are closed after everything else has been resolved, the last one first. -/
theorem cleanups_of_capture
    {state : Type}
    (composition : Composition world result)
    (close : result → Ending)
    (standIn : StandIn state world)
    (recording : Recording state) :
    let chain := composition.finish close
    ∃ opened closed standing events steps,
      Comes composition (chain.handed standIn recording) opened closed standing ∧
        standing.EndsWith close (chain.capture standIn recording).1.terminal ∧
        Event.cleanups events = opened ∧
        (chain.capture standIn recording).2.journal =
          recording.journal ++ events ++ closed.reverse.map Event.cleaned ∧
        (chain.capture standIn recording).1.trace =
          steps ++ List.replicate closed.length Resolved.cleanup ∧
        Resolved.cleanup ∉ steps := by
  intro chain
  obtain ⟨noted, owed, events, steps, way, same, journal, trace, noCleanup⟩ :=
    Chain.capture_of_isSequential standIn chain (composition.isSequential_finish close) recording
  obtain ⟨opened, closed, standing, left, comes, done, toDo, atEnd⟩ := comes_of_passage way
  obtain ⟨rfl, ends⟩ := atEnd _ rfl
  obtain rfl : owed = closed.reverse := toDo
  refine ⟨opened, closed, standing, events, steps, comes, ends, ?_, journal, ?_, noCleanup⟩
  · rw [same, ← done, List.append_nil]
  · rw [trace, List.length_reverse]

/-- When a chain is given up before it runs, the scopes are cleaned up that have been entered or
left while it was built. -/
theorem cleanups_of_discarded
    (composition : Composition world result)
    (close : result → Ending) :
    ∃ opened closed standing,
      Comes composition [] opened closed standing ∧
        Event.cleanups (composition.finish close).discarded = opened ++ closed.reverse := by
  obtain ⟨opened, closed, standing, left, comes, rfl, toDo, _⟩ :=
    comes_of_passage (Chain.Passage.start : (composition.finish close).Passage _ _ _ _)
  exact ⟨left, closed, standing, comes, by simpa [Chain.pending] using toDo⟩

end Composition

end Screencast
