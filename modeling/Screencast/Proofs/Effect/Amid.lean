import Mathlib.Logic.Function.Iterate
import Screencast.Effect.Capture
import Screencast.Proofs.Effect.Looks

/-!
# Runs amid changes

While a chain is run, something that nobody of the run has a hand in may change the world outside.
It takes a turn after everything that is resolved; what a chain builds in between is built at once.
A chain that looks at the world once runs as if nothing had changed since the turn at which it
looked.
-/

namespace Screencast

namespace Recording

variable {state drift : Type}

/-- Something else has changed the state of the stand-in. -/
def turned (turn : state → state) (recording : Recording state) : Recording state :=
  { recording with state := turn recording.state }

/-- A recording with something besides that changes on its own. -/
def amid (recording : Recording state) (outside : drift) : Recording (state × drift) where
  state := (recording.state, outside)
  drawn := recording.drawn
  journal := recording.journal

/-- Everything that was recorded can still be told. -/
theorem eq_of_amid_eq
    {left right : Recording state}
    {first second : drift}
    (same : left.amid first = right.amid second) :
    left = right := by
  cases left
  cases right
  simp only [amid, mk.injEq, Prod.mk.injEq] at same ⊢
  exact ⟨same.1.1, same.2⟩

end Recording

namespace StandIn

variable {state world drift : Type}

/-- The same stand-in, whose world is changed by what it is beside, which is held fixed. -/
def holding (standIn : StandIn state world) (change : drift → world → world) (outside : drift) :
    StandIn state world :=
  { standIn with world := fun state => change outside (standIn.world state) }

/-- The same stand-in, whose world is changed by what it is beside at present. -/
def amid (standIn : StandIn state world) (change : drift → world → world) :
    StandIn (state × drift) world where
  session := standIn.session
  body := standIn.body
  query := fun statement (state, outside) =>
    let (rows, state) := standIn.query statement state
    (rows, (state, outside))
  task := fun description (state, outside) =>
    let (answer, state) := standIn.task description state
    (answer, (state, outside))
  world := fun (state, outside) => change outside (standIn.world state)

end StandIn

namespace Chain

variable {state world : Type}

/-- Run a chain with stand-ins to its terminal. After everything that is resolved, something else
takes a turn to change the state. -/
def captureAmid (turn : state → state) (standIn : StandIn state world) :
    Chain world → Recording state → Outcome × Recording state
  | respond terminal, recording => ({ terminal, trace := [] }, recording)
  | session _ next, recording =>
    let (outcome, recording) :=
      (next standIn.session).captureAmid turn standIn (recording.turned turn)
    (outcome.after (Resolved.session standIn.session.isSome), recording)
  | body _ next, recording =>
    let (outcome, recording) := (next standIn.body).captureAmid turn standIn (recording.turned turn)
    (outcome.after (Resolved.body standIn.body.length), recording)
  | query _ issued next, recording =>
    let (rows, recording) := recording.query standIn issued.statement
    let (outcome, recording) :=
      (next (issued.resolve rows)).captureAmid turn standIn (recording.turned turn)
    (outcome.after (Resolved.query issued.statement rows.toBool), recording)
  | task _ call next, recording =>
    let (answer, recording) := recording.task standIn call.description
    let (outcome, recording) :=
      (next (call.resolve answer)).captureAmid turn standIn (recording.turned turn)
    (outcome.after (Resolved.task call.description answer.toBool), recording)
  | detach aside rest, recording =>
    let (side, recording) := aside.captureAmid turn standIn recording
    let (outcome, recording) := rest.captureAmid turn standIn (recording.turned turn)
    (outcome.after (Resolved.detached side.terminal side.trace), recording)
  | ensure guarded cleanup, recording =>
    let (outcome, recording) := guarded.captureAmid turn standIn recording
    ({ outcome with trace := outcome.trace ++ [Resolved.cleanup] },
      (recording.note (Event.cleaned cleanup)).turned turn)
  | note event rest, recording => rest.captureAmid turn standIn (recording.note event)
  | fresh next, recording =>
    let (id, recording) := recording.draw
    (next id).captureAmid turn standIn recording
  | observe next, recording =>
    (next (standIn.world recording.state)).captureAmid turn standIn recording

end Chain

/-! ## Something that drifts -/

namespace Chain

variable {state world drift : Type}

/-- Amid what drifts, a chain runs as if one point of the drift were held fixed. The drift has taken
so many turns at the end. -/
def RunsAsIf (turn : drift → drift) (change : drift → world → world) (standIn : StandIn state world)
    (held : drift) (turns : Nat) (chain : Chain world) (recording : Recording state)
    (outside : drift) : Prop :=
  chain.captureAmid (Prod.map id turn) (standIn.amid change) (recording.amid outside) =
    ((chain.capture (standIn.holding change held) recording).1,
      (chain.capture (standIn.holding change held) recording).2.amid (turn^[turns] outside))

namespace RunsAsIf

variable {turn : drift → drift} {change : drift → world → world} {standIn : StandIn state world}
  {held outside : drift} {turns : Nat} {recording : Recording state} {owed : List Cleanup}

theorem respond (terminal : Terminal) :
    RunsAsIf turn change standIn held 0 (Chain.respond terminal) recording outside := rfl

/-- The drift takes a turn after the session is resolved. -/
theorem session
    {next : Option Session → Chain world}
    (follow : RunsAsIf turn change standIn held turns (next standIn.session) recording
      (turn outside)) :
    RunsAsIf turn change standIn held (turns + 1) (Chain.session owed next) recording outside :=
  congrArg (fun run : Outcome × Recording (state × drift) =>
    (run.1.after (Resolved.session standIn.session.isSome), run.2)) follow

/-- The drift takes a turn after the body is resolved. -/
theorem body
    {next : Bytes → Chain world}
    (follow : RunsAsIf turn change standIn held turns (next standIn.body) recording
      (turn outside)) :
    RunsAsIf turn change standIn held (turns + 1) (Chain.body owed next) recording outside :=
  congrArg (fun run : Outcome × Recording (state × drift) =>
    (run.1.after (Resolved.body standIn.body.length), run.2)) follow

/-- The drift takes a turn after a query is resolved. -/
theorem query
    {result : Type}
    {issued : Query result}
    {next : Except QueryError result → Chain world}
    (follow : RunsAsIf turn change standIn held turns
      (next (issued.resolve (recording.query standIn issued.statement).1))
      (recording.query standIn issued.statement).2 (turn outside)) :
    RunsAsIf turn change standIn held (turns + 1) (Chain.query owed issued next) recording
      outside :=
  congrArg (fun run : Outcome × Recording (state × drift) =>
    (run.1.after (Resolved.query issued.statement
      (recording.query standIn issued.statement).1.toBool), run.2)) follow

/-- The drift takes a turn after a task is resolved. -/
theorem task
    {result : Type}
    {call : Task world result}
    {next : Except TaskError result → Chain world}
    (follow : RunsAsIf turn change standIn held turns
      (next (call.resolve (recording.task standIn call.description).1))
      (recording.task standIn call.description).2 (turn outside)) :
    RunsAsIf turn change standIn held (turns + 1) (Chain.task owed call next) recording outside :=
  congrArg (fun run : Outcome × Recording (state × drift) =>
    (run.1.after (Resolved.task call.description
      (recording.task standIn call.description).1.toBool), run.2)) follow

/-- The drift takes a turn after a chain that was detached, besides the turns of both chains. -/
theorem detach
    {aside rest : Chain world}
    {asideTurns : Nat}
    (asideRuns : RunsAsIf turn change standIn held asideTurns aside recording outside)
    (restRuns : RunsAsIf turn change standIn held turns rest
      (aside.capture (standIn.holding change held) recording).2
      (turn (turn^[asideTurns] outside))) :
    RunsAsIf turn change standIn held (turns + (asideTurns + 1)) (Chain.detach aside rest)
      recording outside := by
  have turned : turn^[turns + (asideTurns + 1)] outside =
      turn^[turns] (turn (turn^[asideTurns] outside)) := by
    rw [Function.iterate_add_apply, Function.iterate_succ_apply']
  have resting : rest.captureAmid (Prod.map id turn) (standIn.amid change)
      ((aside.captureAmid (Prod.map id turn) (standIn.amid change)
        (recording.amid outside)).2.turned (Prod.map id turn)) = _ :=
    (congrArg (fun run : Outcome × Recording (state × drift) =>
      rest.captureAmid (Prod.map id turn) (standIn.amid change)
        (run.2.turned (Prod.map id turn))) asideRuns).trans restRuns
  have sameSide : (aside.captureAmid (Prod.map id turn) (standIn.amid change)
      (recording.amid outside)).1 = (aside.capture (standIn.holding change held) recording).1 :=
    congrArg Prod.fst asideRuns
  rw [RunsAsIf, turned]
  simp only [captureAmid, resting, sameSide, capture]

/-- The drift takes a turn after the cleanup of a guard. -/
theorem ensure
    {guarded : Chain world}
    {cleanup : Cleanup}
    (runs : RunsAsIf turn change standIn held turns guarded recording outside) :
    RunsAsIf turn change standIn held (turns + 1) (Chain.ensure guarded cleanup) recording
      outside := by
  rw [RunsAsIf, Function.iterate_succ_apply']
  exact congrArg (fun run : Outcome × Recording (state × drift) =>
    ({ run.1 with trace := run.1.trace ++ [Resolved.cleanup] },
      (run.2.note (Event.cleaned cleanup)).turned (Prod.map id turn))) runs

theorem observe
    {next : world → Chain world}
    (runs : RunsAsIf turn change standIn outside turns
      (next (change outside (standIn.world recording.state))) recording outside) :
    RunsAsIf turn change standIn outside turns (Chain.observe next) recording outside := runs

/-- Whatever is held fixed, what the run records is the same if the turns are. -/
theorem capture_eq
    {other : drift}
    {chain : Chain world}
    (runs : RunsAsIf turn change standIn held turns chain recording outside)
    (runsToo : RunsAsIf turn change standIn other turns chain recording outside) :
    (chain.capture (standIn.holding change held) recording).2 =
      (chain.capture (standIn.holding change other) recording).2 :=
  Recording.eq_of_amid_eq (congrArg Prod.snd (runs.symm.trans runsToo))

end RunsAsIf

section Looks

variable {turn : drift → drift} {change : drift → world → world} {standIn : StandIn state world}
  {chain : Chain world}

/-- A chain that does not look at the world runs as if any point of the drift were held fixed. -/
theorem Unlooking.runsAsIf
    (unlooking : chain.Unlooking)
    (recording : Recording state)
    (outside : drift) :
    ∃ turns, ∀ held, RunsAsIf turn change standIn held turns chain recording outside := by
  induction chain generalizing recording outside with
  | respond terminal => exact ⟨0, fun _ => RunsAsIf.respond terminal⟩
  | session _ _ follow =>
      obtain ⟨turns, runs⟩ := follow _ (unlooking _) recording (turn outside)
      exact ⟨turns + 1, fun held => (runs held).session⟩
  | body _ _ follow =>
      obtain ⟨turns, runs⟩ := follow _ (unlooking _) recording (turn outside)
      exact ⟨turns + 1, fun held => (runs held).body⟩
  | query _ issued _ follow =>
      obtain ⟨turns, runs⟩ := follow _ (unlooking _)
        (recording.query standIn issued.statement).2 (turn outside)
      exact ⟨turns + 1, fun held => (runs held).query⟩
  | task _ call _ follow =>
      obtain ⟨turns, runs⟩ := follow _ (unlooking _)
        (recording.task standIn call.description).2 (turn outside)
      exact ⟨turns + 1, fun held => (runs held).task⟩
  | detach aside rest asideHypothesis restHypothesis =>
      obtain ⟨asideTurns, asideRuns⟩ := asideHypothesis unlooking.1 recording outside
      obtain ⟨turns, restRuns⟩ := restHypothesis unlooking.2
        (aside.capture (standIn.holding change outside) recording).2
        (turn (turn^[asideTurns] outside))
      refine ⟨turns + (asideTurns + 1), fun held => (asideRuns held).detach ?_⟩
      rw [(asideRuns held).capture_eq (asideRuns outside)]
      exact restRuns held
  | ensure guarded cleanup inductionHypothesis =>
      obtain ⟨turns, runs⟩ := inductionHypothesis unlooking recording outside
      exact ⟨turns + 1, fun held => (runs held).ensure⟩
  | note event rest inductionHypothesis =>
      exact inductionHypothesis unlooking (recording.note event) outside
  | fresh _ follow => exact follow _ (unlooking _) recording.draw.2 outside
  | observe => exact unlooking.elim

/-- A chain that looks at the world at once runs as if the drift stayed where it is. -/
theorem LooksNow.runsAsIf
    (looks : chain.LooksNow)
    (recording : Recording state)
    (outside : drift) :
    ∃ turns, RunsAsIf turn change standIn outside turns chain recording outside := by
  induction chain generalizing recording with
  | note event rest inductionHypothesis =>
      exact inductionHypothesis looks (recording.note event)
  | fresh _ follow => exact follow _ (looks _) recording.draw.2
  | observe _ follow => exact follow _ (looks _) recording
  | respond | session | body | query | task | detach | ensure =>
      obtain ⟨turns, runs⟩ := Unlooking.runsAsIf looks recording outside
      exact ⟨turns, runs outside⟩

/-- A chain that looks at the world once runs as if the drift stayed where it is after some of its
turns. -/
theorem LooksOnce.runsAsIf
    (looks : chain.LooksOnce)
    (recording : Recording state)
    (outside : drift) :
    ∃ before turns, before ≤ turns ∧
      RunsAsIf turn change standIn (turn^[before] outside) turns chain recording outside := by
  induction chain generalizing recording outside with
  | respond terminal => exact ⟨0, 0, Nat.le_refl 0, RunsAsIf.respond terminal⟩
  | session _ _ follow =>
      obtain ⟨before, turns, atMost, runs⟩ := follow _ (looks _) recording (turn outside)
      exact ⟨before + 1, turns + 1, Nat.succ_le_succ atMost, runs.session⟩
  | body _ _ follow =>
      obtain ⟨before, turns, atMost, runs⟩ := follow _ (looks _) recording (turn outside)
      exact ⟨before + 1, turns + 1, Nat.succ_le_succ atMost, runs.body⟩
  | query _ issued _ follow =>
      obtain ⟨before, turns, atMost, runs⟩ := follow _ (looks _)
        (recording.query standIn issued.statement).2 (turn outside)
      exact ⟨before + 1, turns + 1, Nat.succ_le_succ atMost, runs.query⟩
  | task _ call _ follow =>
      obtain ⟨before, turns, atMost, runs⟩ := follow _ (looks _)
        (recording.task standIn call.description).2 (turn outside)
      exact ⟨before + 1, turns + 1, Nat.succ_le_succ atMost, runs.task⟩
  | detach aside rest _ restHypothesis =>
      -- What is detached does not look, so its run does not depend on what the rest will see.
      obtain ⟨asideTurns, asideRuns⟩ := looks.1.runsAsIf recording outside
      obtain ⟨before, turns, atMost, restRuns⟩ := restHypothesis looks.2
        (aside.capture (standIn.holding change outside) recording).2
        (turn (turn^[asideTurns] outside))
      have later : turn^[before] (turn (turn^[asideTurns] outside)) =
          turn^[before + (asideTurns + 1)] outside := by
        rw [Function.iterate_add_apply, Function.iterate_succ_apply']
      refine ⟨before + (asideTurns + 1), turns + (asideTurns + 1),
        Nat.add_le_add_right atMost _, (asideRuns _).detach ?_⟩
      rw [(asideRuns _).capture_eq (asideRuns outside), ← later]
      exact restRuns
  | ensure guarded cleanup inductionHypothesis =>
      obtain ⟨before, turns, atMost, runs⟩ := inductionHypothesis looks recording outside
      exact ⟨before, turns + 1, Nat.le_succ_of_le atMost, runs.ensure⟩
  | note event rest inductionHypothesis =>
      exact inductionHypothesis looks (recording.note event) outside
  | fresh _ follow => exact follow _ (looks _) recording.draw.2 outside
  | observe _ _ =>
      obtain ⟨turns, runs⟩ := LooksNow.runsAsIf (looks _) recording outside
      exact ⟨0, turns, Nat.zero_le turns, runs.observe⟩

end Looks

end Chain

end Screencast
