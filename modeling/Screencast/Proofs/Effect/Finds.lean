import Screencast.Effect.Step
import Screencast.Proofs.Store.Pool

/-!
# Steps that only look

A step may find its value by selections alone, each of which is answered by the tables. The value is
the same as long as the tables are that it is looked up in, and the chain of such a step asks its
selections one after the other before it goes on.
-/

namespace Screencast

variable {world : Type} {tables : List String} {pool : Pool}

/-- On the tables of a pool, a step finds a value by at most so many selections from some tables. -/
inductive Step.Finds (tables : List String) (pool : Pool) :
    {result : Type} → (most : Nat) → Step world result → result → Prop
  | pure {result : Type} (most : Nat) (value : result) :
      Finds tables pool most (Step.pure value) value
  | queryOrFail {result : Type} {issued : Query result} {value : result}
      (accepted : issued.rejection = none)
      (isSelect : issued.statement.isSelect = true)
      (ofTables : issued.statement.table ∈ tables)
      (found : pool.ask issued = Except.ok value) :
      Finds tables pool 1 (Step.queryOrFail issued) value
  | andThen {result other : Type} {first second : Nat} {step : Step world result}
      {follow : result → Step world other} {value : result} {last : other}
      (finds : Finds tables pool first step value)
      (later : Finds tables pool second (follow value) last) :
      Finds tables pool (first + second) (step.andThen follow) last
  | map {result other : Type} {most : Nat} {step : Step world result} {value : result}
      (finds : Finds tables pool most step value) (change : result → other) :
      Finds tables pool most (step.map change) (change value)

/-- On the tables of a pool, a chain goes on with another one after at most so many selections from
some of them. -/
inductive Chain.Finds (tables : List String) (pool : Pool) (onward : Chain world) :
    (most : Nat) → Chain world → Prop
  | found (most : Nat) : Finds tables pool onward most onward
  | asks {result : Type} {most : Nat} {owed : List Cleanup} {issued : Query result}
      {follow : Except QueryError result → Chain world}
      (accepted : issued.rejection = none)
      (isSelect : issued.statement.isSelect = true)
      (ofTables : issued.statement.table ∈ tables)
      (finds : Finds tables pool onward most (follow (pool.ask issued))) :
      Finds tables pool onward (most + 1) (query owed issued follow)

/-- More selections may be allowed. -/
theorem Chain.Finds.mono
    {onward chain : Chain world}
    {most more : Nat}
    (finds : Finds tables pool onward most chain)
    (atMost : most ≤ more) :
    Finds tables pool onward more chain := by
  induction finds generalizing more with
  | found most => exact Finds.found more
  | asks accepted isSelect ofTables finds inductionHypothesis =>
      obtain ⟨more, rfl⟩ := Nat.exists_eq_add_one_of_ne_zero (Nat.ne_of_gt (by omega : 0 < more))
      exact Finds.asks accepted isSelect ofTables (inductionHypothesis (by omega))

/-- The chain of a query that may fail asks it, and goes on with its value or fails. -/
theorem Step.run_queryOrFail
    {result : Type}
    (issued : Query result)
    (rest : Rest world result) :
    (queryOrFail issued).run rest =
      Chain.query rest.owed issued fun outcome =>
        match outcome with
        | Except.ok value => rest.next value
        | Except.error error => Chain.failOwing rest.owed (ServerError.ofQuery error) := by
  refine congrArg (Chain.query rest.owed issued) (funext fun outcome => ?_)
  cases outcome <;> rfl

/-- The chain of a step that finds a value goes on with what follows the value. -/
theorem Step.Finds.run
    {result : Type}
    {most more : Nat}
    {step : Step world result}
    {value : result}
    {onward : Chain world}
    {rest : Rest world result}
    (finds : step.Finds tables pool most value)
    (follows : Chain.Finds tables pool onward more (rest.next value)) :
    Chain.Finds tables pool onward (most + more) (step.run rest) := by
  induction finds generalizing more with
  | pure most value => exact follows.mono (Nat.le_add_left more most)
  | queryOrFail accepted isSelect ofTables found =>
      rw [Step.run_queryOrFail, Nat.add_comm]
      refine Chain.Finds.asks accepted isSelect ofTables ?_
      rw [found]
      exact follows
  | andThen finds later findsHypothesis laterHypothesis =>
      rw [Nat.add_assoc]
      exact findsHypothesis (laterHypothesis follows)
  | map finds change inductionHypothesis => exact inductionHypothesis follows

end Screencast
