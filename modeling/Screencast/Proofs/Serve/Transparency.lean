import Screencast.Effect.Capture
import Screencast.Effect.Interpreter
import Screencast.Effect.Stubs
import Screencast.Guard
import Screencast.Proofs.Serve.Tracing

/-!
# What tracing leaves alone

A chain that is traced resolves and sends what the chain itself does, whoever runs it. So does a
chain whose first effect was held as a value and folded again: what a chain asks for first may be
handed to an interpreter later. Folded with the interpreter that builds chains, it is the chain that
it came from. Its cleanup is wrapped once more by that, and is still done once.
-/

namespace Screencast

/-! ## Effects as values -/

/-- An effect that is asked for, with what follows it. -/
inductive Effect (world : Type) (meaning : Type 1) : Type 1
  | respond (terminal : Terminal)
  | session (owed : List Cleanup) (next : Option Session → meaning)
  | body (owed : List Cleanup) (next : Bytes → meaning)
  | query {result : Type} (owed : List Cleanup) (issued : Query result)
      (next : Except QueryError result → meaning)
  | task {result : Type} (owed : List Cleanup) (call : Task world result)
      (next : Except TaskError result → meaning)
  | detach (aside rest : meaning)
  | ensure (guarded : meaning) (cleanup : Cleanup)

namespace Effect

variable {world : Type} {meaning : Type 1}

/-- Hand an effect to the operation of an interpreter for it. -/
def interpret (interpreter : Interpreter world meaning) : Effect world meaning → meaning
  | respond terminal => interpreter.respond terminal
  | session owed next => interpreter.session owed next
  | body owed next => interpreter.body owed next
  | query owed issued next => interpreter.query owed issued next
  | task owed call next => interpreter.task owed call next
  | detach aside rest => interpreter.detach aside rest
  | ensure guarded cleanup => interpreter.ensure guarded cleanup

/-- The chain that asks for an effect first. -/
def toChain : Effect world (Chain world) → Chain world
  | respond terminal => Chain.respond terminal
  | session owed next => Chain.session owed next
  | body owed next => Chain.body owed next
  | query owed issued next => Chain.query owed issued next
  | task owed call next => Chain.task owed call next
  | detach aside rest => Chain.detach aside rest
  | ensure guarded cleanup => Chain.ensure guarded cleanup

/-- What follows an effect may be changed. -/
def map {other : Type 1} (change : meaning → other) : Effect world meaning → Effect world other
  | respond terminal => respond terminal
  | session owed next => session owed fun found => change (next found)
  | body owed next => body owed fun bytes => change (next bytes)
  | query owed issued next => query owed issued fun outcome => change (next outcome)
  | task owed call next => task owed call fun outcome => change (next outcome)
  | detach aside rest => detach (change aside) (change rest)
  | ensure guarded cleanup => ensure (change guarded) cleanup

/-- A chain is read through an interpreter by reading what follows its first effect, and handing the
effect to the interpreter. -/
theorem interpret_toChain
    (interpreter : Interpreter world meaning)
    (effect : Effect world (Chain world)) :
    effect.toChain.interpret interpreter =
      (effect.map (Chain.interpret interpreter)).interpret interpreter := by
  cases effect <;> rfl

theorem interpret_tree (effect : Effect world (Chain world)) :
    effect.interpret Interpreter.tree = effect.toChain := by
  cases effect <;> rfl

end Effect

namespace Guard

variable {holder resource : Type}

/-- What so many attempts to release something release, in order. -/
def attempts (release : holder → Option resource × holder) : Nat → holder → List resource
  | 0, _ => []
  | count + 1, held => (release held).1.toList ++ attempts release count (release held).2

/-- A resource is released by the first attempt, and not again. -/
def ReleasesOnce (release : holder → Option resource × holder) (held : holder)
    (entry : resource) : Prop :=
  ∀ count, attempts release (count + 1) held = [entry]

/-- Release what a guard holds, if the guard still holds it. -/
def through (release : holder → Option resource × holder) (guard : Guard holder) :
    Option resource × Guard holder :=
  (guard.release.1.bind fun held => (release held).1, guard.release.2)

/-- Nothing is released where every attempt is in vain and changes nothing. -/
theorem attempts_of_vain
    {release : holder → Option resource × holder}
    {held : holder}
    (vain : release held = (none, held))
    (count : Nat) :
    attempts release count held = [] := by
  induction count with
  | zero => rfl
  | succ count inductionHypothesis => rw [attempts, vain, inductionHypothesis]; rfl

theorem releasesOnce_hold (entry : resource) : ReleasesOnce Guard.release (hold entry) entry := by
  intro count
  have vain : Guard.release (⟨none⟩ : Guard resource) = (none, ⟨none⟩) := rfl
  have later : attempts Guard.release count ⟨none⟩ = [] := attempts_of_vain vain count
  exact congrArg ([entry] ++ ·) later

/-- What is released once is released once through a guard that is put around it. -/
theorem ReleasesOnce.through
    {release : holder → Option resource × holder}
    {held : holder}
    {entry : resource}
    (once : ReleasesOnce release held entry) :
    ReleasesOnce (Guard.through release) (hold held) entry := by
  intro count
  have first : (release held).1.toList = [entry] := by
    rw [← once 0, attempts, attempts, List.append_nil]
  have vain : Guard.through release ⟨none⟩ = (none, ⟨none⟩) := rfl
  have later : attempts (Guard.through release) count ⟨none⟩ = [] := attempts_of_vain vain count
  change (release held).1.toList ++ attempts (Guard.through release) count ⟨none⟩ = [entry]
  rw [first, later]
  rfl

end Guard

variable {world : Type}

/-! ## Folded effects -/

/-- A guarded chain that is folded again does its cleanup once, after the run of the chain or when
it is given up. -/
theorem Effect.cleanup_interpret_ensure
    {state : Type}
    (guarded : Chain world)
    (cleanup : Cleanup)
    (standIn : StandIn state world)
    (recording : Recording state) :
    let folded := (Effect.ensure guarded cleanup).interpret Interpreter.tree
    (folded.capture standIn recording).1.trace =
        (guarded.capture standIn recording).1.trace ++ [Resolved.cleanup] ∧
      (folded.capture standIn recording).2.journal =
        (guarded.capture standIn recording).2.journal ++ [Event.cleaned cleanup] ∧
      folded.discarded = guarded.abandoned.map Event.cleaned ++ [Event.cleaned cleanup] :=
  ⟨rfl, rfl, List.map_append⟩

namespace Serve

/-! ## Traced chains -/

/-- Served by a system, a chain and one with further entries of the log send the same responses. -/
theorem System.AddsLog.response_iff
    {setup : Setup world}
    {plain logging : System world}
    (adds : plain.AddsLog logging)
    (resolves : ∀ token, (setup.resolver token).KeepsLog)
    (response : Http.Response) :
    (∃ fuel, (logging.run setup fuel).response = some response) ↔
      ∃ fuel, (plain.run setup fuel).response = some response := by
  constructor
  · rintro ⟨fuel, sent⟩
    obtain ⟨less, together⟩ := adds.exists_plain_run resolves fuel
    exact ⟨less, together.response.trans sent⟩
  · rintro ⟨fuel, sent⟩
    obtain ⟨more, together⟩ := adds.exists_run resolves fuel
    exact ⟨more, together.response.symm.trans sent⟩

/-- Tracing is transparent. Whatever an interpreter makes of a chain, it makes of the traced chain
for everybody who disregards the log. Run with stand-ins, a chain that is traced any number of times
comes to the same outcome, and to the same journal but for the log. Served by a system, it sends the
same responses, and whatever the threads of one system come to share, those of the other one do as
well, but for the log. Folding an effect that is held as a value is reading its chain, and leads to
the same outcome; its cleanup is done once, though it is behind one more guard. -/
theorem tracing_is_transparent
    {setup : Setup world}
    (resolves : ∀ token, (setup.resolver token).KeepsLog)
    (chain : Chain world)
    (layers : Nat) :
    let traced := chain.interpret (Interpreter.traced^[layers] Interpreter.tree)
    (∀ {meaning : Type 1} {inner : Interpreter world meaning} {same : meaning → meaning → Prop},
      inner.Relates inner same → inner.Disregards same →
        same (chain.interpret inner) (chain.interpret inner.traced)) ∧
    (∀ {state : Type} (standIn : StandIn state world) (recording : Recording state),
      (chain.capture standIn recording).1 = (traced.capture standIn recording).1 ∧
        Recording.GoesWith Eq (chain.capture standIn recording).2
          (traced.capture standIn recording).2) ∧
    (∀ line scope shared,
      let plain := System.start line scope chain shared
      let logging := System.start line scope traced shared
      (∀ response, (∃ fuel, (logging.run setup fuel).response = some response) ↔
        ∃ fuel, (plain.run setup fuel).response = some response) ∧
      (∀ fuel, ∃ more,
        (plain.run setup fuel).shared.SameButLog (logging.run setup more).shared) ∧
      ∀ fuel, ∃ less,
        (plain.run setup less).shared.SameButLog (logging.run setup fuel).shared) ∧
    (∀ {meaning : Type 1} (inner : Interpreter world meaning) (effect : Effect world (Chain world)),
      (effect.map (Chain.interpret inner)).interpret inner = effect.toChain.interpret inner) ∧
    (∀ {state : Type} (effect : Effect world (Chain world)) (standIn : StandIn state world)
        (recording : Recording state),
      (effect.interpret Interpreter.tree).capture standIn recording =
        effect.toChain.capture standIn recording) ∧
    ∀ {state : Type} (guarded : Chain world) (cleanup : Cleanup) (standIn : StandIn state world)
        (recording : Recording state),
      let folded := (Effect.ensure guarded cleanup).interpret Interpreter.tree
      (folded.capture standIn recording).1.trace =
          (guarded.capture standIn recording).1.trace ++ [Resolved.cleanup] ∧
        (folded.capture standIn recording).2.journal =
          (guarded.capture standIn recording).2.journal ++ [Event.cleaned cleanup] ∧
        folded.discarded = guarded.abandoned.map Event.cleaned ++ [Event.cleaned cleanup] ∧
        Guard.ReleasesOnce (Guard.through Guard.release) (Guard.hold (Guard.hold cleanup))
          cleanup := by
  intro traced
  have adds : chain.AddsLog traced := Chain.addsLog_interpret_traced layers chain
  refine ⟨?_, ?_, ?_, ?_, ?_, ?_⟩
  · intro meaning inner same related disregards
    exact (related.traced disregards).interpret chain
  · intro state standIn recording
    exact adds.capture standIn ⟨rfl, rfl, rfl⟩
  · intro line scope shared plain logging
    have together : plain.AddsLog logging := System.addsLog_start adds line scope shared
    refine ⟨together.response_iff resolves, fun fuel => ?_, fun fuel => ?_⟩
    · exact (together.exists_run resolves fuel).imp fun more comes => comes.shared
    · exact (together.exists_plain_run resolves fuel).imp fun less comes => comes.shared
  · intro meaning inner effect
    exact (effect.interpret_toChain inner).symm
  · intro state effect standIn recording
    rw [effect.interpret_tree]
  · intro state guarded cleanup standIn recording folded
    obtain ⟨trace, journal, discarded⟩ :=
      Effect.cleanup_interpret_ensure guarded cleanup standIn recording
    exact ⟨trace, journal, discarded, (Guard.releasesOnce_hold cleanup).through⟩

/-- A query that fails is logged by tracing, and nothing else is different: neither the outcome with
stand-ins, nor what a server sends that looks up sessions in the store. -/
theorem tracing_is_transparent_for_failing_query :
    let setup : Setup Unit :=
      { files := [], resolver := Session.resolve, taskTimeoutMillis := none }
    let things : Query Nat :=
      { statement := Statement.select "things" [] none none
        parser := fun rows => Except.ok rows.length }
    let chain : Chain Unit :=
      Chain.ensure (Chain.queryOrFail things fun count => Chain.write (toString count)) "done"
    let standIn : StandIn (Stubs Unit) Unit := Stubs.standIn none []
    let stubs : Stubs Unit :=
      { pool := {}, world := (), planned := [some (QueryError.acquire "closed")] }
    let run (chain : Chain Unit) := chain.capture standIn { state := stubs }
    chain.AddsLog chain.traced ∧
      (run chain).1 = (run chain.traced).1 ∧
      (Event.entries (run chain.traced).2.journal).length =
        (Event.entries (run chain).2.journal).length + 1 ∧
      ∀ line scope shared response,
        (∃ fuel, ((System.start line scope chain.traced shared).run setup fuel).response =
            some response) ↔
          ∃ fuel, ((System.start line scope chain shared).run setup fuel).response =
            some response := by
  intro setup things chain standIn stubs run
  have resolves : ∀ token, (setup.resolver token).KeepsLog := Session.keepsLog_resolve
  obtain ⟨anyMeaning, captured, served, _⟩ := tracing_is_transparent resolves chain 1
  refine ⟨?_, (captured standIn { state := stubs }).1, by decide +kernel, ?_⟩
  · have related := anyMeaning Chain.relates_tree Chain.disregards_tree
    rwa [Chain.interpret_tree] at related
  · intro line scope shared response
    exact (served line scope shared).1 response

end Serve

end Screencast
