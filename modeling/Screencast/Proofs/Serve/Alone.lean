import Mathlib.Logic.Relation
import Screencast.Proofs.Serve.Thread
import Screencast.Serve.System

/-!
# A thread that runs alone

What the system does as long as the thread of the request is the only one: it follows the steps of
the thread, and lets no time pass but for the tasks that the thread waits for.
-/

namespace Screencast

namespace Serve

namespace System

variable {world : Type} {setup : Setup world} {line : RequestLine} {shared after : Shared world}
  {thread next : Thread world}

/-- The system comes from one state to another. -/
def Leads (setup : Setup world) : System world → System world → Prop :=
  Relation.ReflTransGen fun before after => before.step? setup = some after

/-- The system comes from one state to another in at most so many steps. -/
inductive LeadsWithin (setup : Setup world) (last : System world) : Nat → System world → Prop
  | refl (most : Nat) : LeadsWithin setup last most last
  | head {most : Nat} {first next : System world}
      (step : first.step? setup = some next)
      (leads : LeadsWithin setup last most next) :
      LeadsWithin setup last (most + 1) first

namespace LeadsWithin

variable {first between last : System world} {most more : Nat}

theorem leads (within : LeadsWithin setup last most first) : Leads setup first last := by
  induction within with
  | refl => exact Relation.ReflTransGen.refl
  | head step _ inductionHypothesis => exact Relation.ReflTransGen.head step inductionHypothesis

/-- More steps may be allowed. -/
theorem mono
    (within : LeadsWithin setup last most first)
    (atMost : most ≤ more) :
    LeadsWithin setup last more first := by
  induction within generalizing more with
  | refl => exact LeadsWithin.refl more
  | head step _ inductionHypothesis =>
      obtain ⟨more, rfl⟩ := Nat.exists_eq_add_one_of_ne_zero (Nat.ne_of_gt (by omega : 0 < more))
      exact LeadsWithin.head step (inductionHypothesis (by omega))

/-- The steps of two ways add up. -/
theorem trans
    (toBetween : LeadsWithin setup between most first)
    (onward : LeadsWithin setup last more between) :
    LeadsWithin setup last (most + more) first := by
  induction toBetween with
  | refl most => exact onward.mono (Nat.le_add_left more most)
  | @head most _ _ step _ inductionHypothesis =>
      rw [Nat.add_right_comm]
      exact LeadsWithin.head step inductionHypothesis

/-- A system that comes to a halt in so many steps has done so with as much fuel, and then stays as
it is. -/
theorem run_eq
    {fuel : Nat}
    (within : LeadsWithin setup last most first)
    (halted : last.step? setup = none)
    (enough : most ≤ fuel) :
    first.run setup fuel = last := by
  induction within generalizing fuel with
  | refl =>
      cases fuel with
      | zero => rfl
      | succ fuel => simp [run, halted]
  | head step _ inductionHypothesis =>
      cases fuel with
      | zero => omega
      | succ fuel =>
          simp only [run, step]
          exact inductionHypothesis (by omega)

end LeadsWithin

/-- One thread is at work, and there is no other. -/
def alone (line : RequestLine) (shared : Shared world) (thread : Thread world) : System world where
  line := line
  shared := shared
  current := some { role := Role.main, thread }

/-- The system at the start of a request. -/
def start (line : RequestLine) (scope : Scope) (chain : Chain world) (shared : Shared world) :
    System world :=
  alone line shared { chain, scope }

/-- A request is answered by letting the system run from the start. -/
theorem answer_eq_run
    (setup : Setup world)
    (line : RequestLine)
    (scope : Scope)
    (chain : Chain world)
    (shared : Shared world) :
    answer setup line scope chain shared = (start line scope chain shared).run setup patience := rfl

/-- A system that comes to a halt does so after finitely many steps, and then stays as it is. -/
theorem Leads.run_eq
    {first last : System world}
    (leads : Leads setup first last)
    (halted : last.step? setup = none) :
    ∃ steps, ∀ fuel, steps ≤ fuel → first.run setup fuel = last := by
  induction leads using Relation.ReflTransGen.head_induction_on with
  | refl =>
      refine ⟨0, fun fuel _ => ?_⟩
      cases fuel with
      | zero => rfl
      | succ fuel => simp [run, halted]
  | head step _ inductionHypothesis =>
      obtain ⟨steps, enough⟩ := inductionHypothesis
      refine ⟨steps + 1, fun fuel isEnough => ?_⟩
      cases fuel with
      | zero => omega
      | succ fuel =>
          simp only [run, step]
          exact enough fuel (by omega)

theorem leadsWithin_of_moved
    (step : thread.step setup shared = (Progress.moved next, after)) :
    LeadsWithin setup (alone line after next) 1 (alone line shared thread) := by
  refine LeadsWithin.head ?_ (LeadsWithin.refl 0)
  simp [alone, step?, proceed, work, step]

theorem leads_of_moved
    (step : thread.step setup shared = (Progress.moved next, after)) :
    Leads setup (alone line shared thread) (alone line after next) :=
  (leadsWithin_of_moved step).leads

/-- A thread that lets others go on finds that there are none. -/
theorem leads_of_yielded
    (step : thread.step setup shared = (Progress.yielded next, after)) :
    Leads setup (alone line shared thread) (alone line after next) := by
  have yields : (alone line shared thread).step? setup =
      some { line, shared := after, deferred := [{ role := Role.main, thread := next }] } := by
    simp [alone, step?, proceed, work, step, Role.resumed]
  refine Relation.ReflTransGen.head yields (Relation.ReflTransGen.head rfl ?_)
  exact Relation.ReflTransGen.single rfl

/-- A thread that slept for something else than a connection lets the others go on first. -/
theorem wakened_of_ne_waiting
    {sleeper : Sleeper world}
    (forTask : sleeper.job.thread.stage ≠ Stage.waiting) :
    wakened sleeper = Ready.resumed sleeper.job := by
  unfold wakened
  split
  next isWaiting => exact absurd isWaiting forTask
  next => rfl

/-- A thread that sleeps while it waits for a task is woken when its time has come. -/
theorem leads_of_asleep
    {due : Nat}
    (forTask : next.stage ≠ Stage.waiting)
    (step : thread.step setup shared = (Progress.asleep due next, after)) :
    Leads setup (alone line shared thread) (alone line { after with clock := due } next) := by
  let job : Job world := { role := Role.main, thread := next }
  have sleeps : (alone line shared thread).step? setup =
      some { line, shared := after, sleepers := [{ due, job }] } := by
    simp [alone, step?, proceed, work, step, Role.resumed, job]
  have wakes : step? setup { line, shared := after, sleepers := [{ due, job }] } =
      some { line, shared := { after with clock := due }, ready := [Ready.resumed job] } := by
    simp [step?, earliest?, wake, wakened_of_ne_waiting, job, forTask]
  refine Relation.ReflTransGen.head sleeps (Relation.ReflTransGen.head wakes ?_)
  refine Relation.ReflTransGen.head rfl (Relation.ReflTransGen.head rfl ?_)
  exact Relation.ReflTransGen.single rfl

/-- A thread that has finished leaves nothing to do, and has taken one step. -/
theorem leadsWithin_of_finished
    {response : Http.Response}
    (step : thread.step setup shared = (Progress.finished response, after)) :
    ∃ last, LeadsWithin setup last 1 (alone line shared thread) ∧ last.step? setup = none ∧
      last.response = some response ∧ last.shared.pool = after.pool := by
  let resting : System world := { line, shared := after }
  have finishes : (alone line shared thread).step? setup =
      some { resting.complete thread response with response := some response } := by
    simp [alone, step?, proceed, work, step, finish, resting]
  refine ⟨_, LeadsWithin.head finishes (LeadsWithin.refl 0), ?_, rfl, ?_⟩
  · simp only [complete, logFault]
    split
    · rfl
    · split <;> rfl
  · simp only [complete, logFault]
    split
    · rfl
    · split <;> rfl

/-- A chain that has come to its terminal ends with the response for it, in one step. -/
theorem leadsWithin_respond
    {terminal : Terminal}
    {scope : Scope}
    {cleanups : List Cleanup} :
    ∃ last,
      LeadsWithin setup last 1
          (alone line shared { chain := Chain.respond terminal, scope, cleanups }) ∧
        last.step? setup = none ∧
        last.response = some (Http.Response.ofTerminal setup.files terminal).1 ∧
        last.shared.pool = shared.pool := by
  let entries := (Http.Response.ofTerminal setup.files terminal).2
  have closes : Thread.step setup { chain := Chain.respond terminal, scope, cleanups } shared =
      (Progress.finished (Http.Response.ofTerminal setup.files terminal).1,
        cleanups.foldl (fun shared cleanup => shared.note (Event.cleaned cleanup))
          (shared.log entries)) := rfl
  obtain ⟨last, leads, halted, response, pool⟩ := leadsWithin_of_finished closes
  exact ⟨last, leads, halted, response, by simp [pool]⟩

/-- A chain that has come to its terminal ends with the response for it. -/
theorem leads_respond
    {terminal : Terminal}
    {scope : Scope}
    {cleanups : List Cleanup} :
    ∃ last,
      Leads setup (alone line shared { chain := Chain.respond terminal, scope, cleanups }) last ∧
        last.step? setup = none ∧
        last.response = some (Http.Response.ofTerminal setup.files terminal).1 ∧
        last.shared.pool = shared.pool := by
  obtain ⟨last, within, rest⟩ := leadsWithin_respond
  exact ⟨last, within.leads, rest⟩

end System

end Serve

end Screencast
