import Screencast.Effect.Step
import Screencast.Proofs.Effect.Passage

/-!
# Compositions of steps

A composition is written with the ways to put steps together, and it stands for a step. How far it
has come with what it was handed can be said without the step: which value it has reached or where
it has stopped, which of its scopes it has entered but not left, and which ones it has left. A scope
is entered when the step that it guards begins, and it is left when what follows the step begins.
-/

namespace Screencast

/-- A composition of steps. -/
inductive Composition (world : Type) : Type → Type 1
  | pure {result : Type} (value : result) : Composition world result
  | session : Composition world (Option Session)
  | body : Composition world Bytes
  | query {result : Type} (issued : Query result) :
      Composition world (Except QueryError result)
  | task {result : Type} (call : Task world result) :
      Composition world (Except TaskError result)
  | andThen {result other : Type} (first : Composition world result)
      (follow : result → Composition world other) : Composition world other
  | map {result other : Type} (first : Composition world result) (change : result → other) :
      Composition world other
  | orFail {result error : Type} (report : error → ServerError)
      (first : Composition world (Except error result)) : Composition world result
  | ensuring {result : Type} (first : Composition world result) (cleanup : Cleanup) :
      Composition world result

namespace Composition

variable {world result other error : Type}

/-- The step that a composition stands for. -/
def step {result : Type} : Composition world result → Step world result
  | pure value => Step.pure value
  | session => Step.session
  | body => Step.body
  | query issued => Step.query issued
  | task call => Step.task call
  | andThen first follow => first.step.andThen fun value => (follow value).step
  | map first change => first.step.map change
  | orFail report first => first.step.orFail report
  | ensuring first cleanup => first.step.ensuring cleanup

/-- Change the value of a composition that succeeded. -/
def mapResult (first : Composition world (Except error result)) (change : result → other) :
    Composition world (Except error other) :=
  first.map fun outcome => outcome.map change

/-- Continue with a composition that depends on the value, if there is one. -/
def andThenOk (first : Composition world (Except error result))
    (follow : result → Composition world (Except error other)) :
    Composition world (Except error other) :=
  first.andThen fun outcome =>
    match outcome with
    | Except.ok value => follow value
    | Except.error failure => pure (Except.error failure)

theorem step_mapResult
    (first : Composition world (Except error result))
    (change : result → other) :
    (first.mapResult change).step = first.step.mapResult change := rfl

theorem step_andThenOk
    (first : Composition world (Except error result))
    (follow : result → Composition world (Except error other)) :
    (first.andThenOk follow).step = first.step.andThenOk fun value => (follow value).step := by
  refine congrArg first.step.andThen (funext fun outcome => ?_)
  cases outcome <;> rfl

/-! ## How far a composition has come -/

/-- Why a composition has not reached a value: it waits for something, or it has failed. -/
inductive Stop
  | waiting
  | failed (error : ServerError)

/-- What a composition has come to. -/
inductive Standing (result : Type)
  | reached (value : result)
  | stopped (stop : Stop)

/-- A composition, when it has been handed these things, has come to a standing. The scopes that are
open have been entered but not left, the outermost first. The scopes that are closed have been left,
the first one first. -/
inductive Comes :
    {result : Type} → Composition world result → (handed : List (Delivery world)) →
      (opened closed : List Cleanup) → Standing result → Prop
  | pure {result : Type} (value : result) : Comes (pure value) [] [] [] (Standing.reached value)
  | sessionWaits : Comes session [] [] [] (Standing.stopped Stop.waiting)
  | session (found : Option Session) :
      Comes session [Delivery.session found] [] [] (Standing.reached found)
  | noSession (error : ServerError) :
      Comes session [Delivery.refused error] [] [] (Standing.stopped (Stop.failed error))
  | bodyWaits : Comes body [] [] [] (Standing.stopped Stop.waiting)
  | body (bytes : Bytes) : Comes body [Delivery.body bytes] [] [] (Standing.reached bytes)
  | noBody (error : ServerError) :
      Comes body [Delivery.refused error] [] [] (Standing.stopped (Stop.failed error))
  | queryWaits {result : Type} (issued : Query result) :
      Comes (query issued) [] [] [] (Standing.stopped Stop.waiting)
  | query {result : Type} (issued : Query result) (outcome : Except QueryError result) :
      Comes (query issued) [Delivery.query outcome] [] [] (Standing.reached outcome)
  | taskWaits {result : Type} (call : Task world result) :
      Comes (task call) [] [] [] (Standing.stopped Stop.waiting)
  | task {result : Type} (call : Task world result) (outcome : Except TaskError result) :
      Comes (task call) [Delivery.task outcome] [] [] (Standing.reached outcome)
  | andThenStopped {result other : Type} {first : Composition world result}
      (follow : result → Composition world other) {handed : List (Delivery world)}
      {opened closed : List Cleanup} {stop : Stop}
      (comes : Comes first handed opened closed (Standing.stopped stop)) :
      Comes (andThen first follow) handed opened closed (Standing.stopped stop)
  | andThen {result other : Type} {first : Composition world result}
      {follow : result → Composition world other} {handed given : List (Delivery world)}
      {opened closed later : List Cleanup} {value : result} {standing : Standing other}
      (comes : Comes first handed [] closed (Standing.reached value))
      (next : Comes (follow value) given opened later standing) :
      Comes (andThen first follow) (handed ++ given) opened (closed ++ later) standing
  | mapStopped {result other : Type} {first : Composition world result} (change : result → other)
      {handed : List (Delivery world)} {opened closed : List Cleanup} {stop : Stop}
      (comes : Comes first handed opened closed (Standing.stopped stop)) :
      Comes (map first change) handed opened closed (Standing.stopped stop)
  | map {result other : Type} {first : Composition world result} (change : result → other)
      {handed : List (Delivery world)} {closed : List Cleanup} {value : result}
      (comes : Comes first handed [] closed (Standing.reached value)) :
      Comes (map first change) handed [] closed (Standing.reached (change value))
  | orFailStopped {result error : Type} (report : error → ServerError)
      {first : Composition world (Except error result)} {handed : List (Delivery world)}
      {opened closed : List Cleanup} {stop : Stop}
      (comes : Comes first handed opened closed (Standing.stopped stop)) :
      Comes (orFail report first) handed opened closed (Standing.stopped stop)
  | orFailOk {result error : Type} (report : error → ServerError)
      {first : Composition world (Except error result)} {handed : List (Delivery world)}
      {closed : List Cleanup} {value : result}
      (comes : Comes first handed [] closed (Standing.reached (Except.ok value))) :
      Comes (orFail report first) handed [] closed (Standing.reached value)
  | orFailError {result error : Type} (report : error → ServerError)
      {first : Composition world (Except error result)} {handed : List (Delivery world)}
      {closed : List Cleanup} {failure : error}
      (comes : Comes first handed [] closed (Standing.reached (Except.error failure))) :
      Comes (orFail report first) handed [] closed
        (Standing.stopped (Stop.failed (report failure)))
  | ensuringStopped {result : Type} {first : Composition world result} (cleanup : Cleanup)
      {handed : List (Delivery world)} {opened closed : List Cleanup} {stop : Stop}
      (comes : Comes first handed opened closed (Standing.stopped stop)) :
      Comes (ensuring first cleanup) handed (cleanup :: opened) closed (Standing.stopped stop)
  | ensuring {result : Type} {first : Composition world result} (cleanup : Cleanup)
      {handed : List (Delivery world)} {closed : List Cleanup} {value : result}
      (comes : Comes first handed [] closed (Standing.reached value)) :
      Comes (ensuring first cleanup) handed [] (closed ++ [cleanup]) (Standing.reached value)

/-! ## Where the chain of a composition has come -/

/-- The chain of a composition does one thing after another if what follows it does. -/
theorem isSequential_run
    (composition : Composition world result)
    {rest : Rest world result}
    (follow : ∀ value, (rest.next value).IsSequential) :
    (composition.step.run rest).IsSequential := by
  induction composition with
  | pure value => exact follow value
  | session => exact follow
  | body => exact follow
  | query issued => exact follow
  | task call => exact follow
  | andThen first next firstHypothesis nextHypothesis =>
      exact firstHypothesis fun value => nextHypothesis value follow
  | map first change inductionHypothesis =>
      exact inductionHypothesis fun value => follow (change value)
  | orFail report first inductionHypothesis =>
      refine inductionHypothesis fun outcome => ?_
      cases outcome with
      | ok value => exact follow value
      | error failure => exact Chain.isSequential_failOwing rest.owed (report failure)
  | ensuring first cleanup inductionHypothesis =>
      exact inductionHypothesis fun value => (follow value).guarded cleanup

/-- Where the chain of a composition has come that is followed by a rest: it has stopped inside the
composition, or it has come to the rest. In both cases the cleanups of the scopes that have been
left are the last ones to be done. -/
inductive Whereabouts (composition : Composition world result) (rest : Rest world result)
    (handed : List (Delivery world)) (noted : List Event) (owed : List Cleanup)
    (last : Chain world) : Prop
  | inside {opened closed left : List Cleanup} {stop : Stop}
      (comes : Comes composition handed opened closed (Standing.stopped stop))
      (done : Event.cleanups noted ++ left = rest.owed ++ opened)
      (toDo : last.pending ++ owed = left ++ closed.reverse)
      (atEnd : ∀ terminal, last = Chain.respond terminal →
        left = [] ∧ ∃ error, stop = Stop.failed error ∧
          terminal = Terminal.html error.page error.status) :
      Whereabouts composition rest handed noted owed last
  | beyond {before after : List (Delivery world)} {closed own : List Cleanup} {value : result}
      {inner : Chain world}
      (comes : Comes composition before [] closed (Standing.reached value))
      (parts : handed = before ++ after)
      (way : (rest.next value).Passage after noted own inner)
      (toDo : last.pending ++ owed = inner.pending ++ own ++ closed.reverse)
      (atEnd : ∀ terminal, last = Chain.respond terminal → inner = Chain.respond terminal) :
      Whereabouts composition rest handed noted owed last

variable {rest : Rest world result} {handed : List (Delivery world)} {noted : List Event}
  {owed : List Cleanup} {last : Chain world}

/-- A chain that reports a failure has stopped inside the composition that has failed. -/
theorem Whereabouts.of_failure
    {composition : Composition world result}
    {before after : List (Delivery world)}
    {closed : List Cleanup}
    {failure : ServerError}
    {own : List Cleanup}
    {inner : Chain world}
    (comes : Comes composition before [] closed (Standing.stopped (Stop.failed failure)))
    (parts : handed = before ++ after)
    (way : (Chain.failOwing rest.owed failure).Passage after noted own inner)
    (toDo : last.pending ++ owed = inner.pending ++ own ++ closed.reverse)
    (atEnd : ∀ terminal, last = Chain.respond terminal → inner = Chain.respond terminal) :
    Whereabouts composition rest handed noted owed last := by
  rw [Chain.failOwing_eq_notes] at way
  obtain ⟨rfl, rfl, left, notes, rfl⟩ := way.of_notes
  rw [List.append_nil] at parts
  subst parts
  have done : Event.cleanups noted ++ Event.cleanups left = rest.owed ++ [] := by
    rw [← Event.cleanups_append, ← notes, Chain.cleanups_failureNotes, List.append_nil]
  refine Whereabouts.inside comes done (by simpa using toDo) fun terminal isEnd => ?_
  cases left with
  | nil =>
      have same := atEnd terminal isEnd
      simp only [Chain.notes_nil, Chain.respond.injEq] at same
      exact ⟨rfl, failure, rfl, same.symm⟩
  | cons event left => cases atEnd terminal isEnd

/-- A composition that waits for something has stopped there. -/
theorem Whereabouts.of_waiting
    {composition : Composition world result}
    (comes : Comes composition [] [] [] (Standing.stopped Stop.waiting))
    (toDo : last.pending = rest.owed)
    (noEnd : ∀ terminal, last ≠ Chain.respond terminal) :
    Whereabouts composition rest [] [] [] last :=
  Whereabouts.inside comes (List.append_nil rest.owed).symm (congrArg (· ++ []) toDo)
    fun terminal isEnd => absurd isEnd (noEnd terminal)

/-- A composition that was handed what it waited for has come to the rest. -/
theorem Whereabouts.of_handed
    {composition : Composition world result}
    {given : List (Delivery world)}
    {value : result}
    (comes : Comes composition given [] [] (Standing.reached value))
    (further : (rest.next value).Passage handed noted owed last) :
    Whereabouts composition rest (given ++ handed) ([] ++ noted) (owed ++ []) last :=
  Whereabouts.beyond comes rfl further (by simp) fun _ isEnd => isEnd

/-- A composition that was refused what it waited for has failed. -/
theorem Whereabouts.of_refused
    {composition : Composition world result}
    {given : List (Delivery world)}
    {failure : ServerError}
    (comes : Comes composition given [] [] (Standing.stopped (Stop.failed failure)))
    (further : (Chain.failOwing rest.owed failure).Passage handed noted owed last) :
    Whereabouts composition rest (given ++ handed) ([] ++ noted) (owed ++ []) last :=
  Whereabouts.of_failure comes rfl further (by simp) fun _ isEnd => isEnd

/-- A composition that goes on has stopped where its first part has, or it is where what follows the
first part is. -/
theorem Whereabouts.andThen
    {first : Composition world other}
    {follow : other → Composition world result}
    (whereabouts :
      Whereabouts first { next := fun value => (follow value).step.run rest, owed := rest.owed }
        handed noted owed last)
    (follows : ∀ {value given own inner},
      ((follow value).step.run rest).Passage given noted own inner →
        Whereabouts (follow value) rest given noted own inner) :
    Whereabouts (first.andThen follow) rest handed noted owed last := by
  cases whereabouts with
  | inside comes done toDo atEnd =>
      exact Whereabouts.inside (Comes.andThenStopped follow comes) done toDo atEnd
  | beyond comes parts further toDo atEnd =>
      subst parts
      cases follows further with
      | inside nextComes nextDone nextToDo nextAtEnd =>
          refine Whereabouts.inside (Comes.andThen comes nextComes) nextDone ?_
            fun terminal isEnd => nextAtEnd terminal (atEnd terminal isEnd)
          rw [toDo, nextToDo, List.reverse_append, List.append_assoc]
      | beyond nextComes nextParts nextFurther nextToDo nextAtEnd =>
          subst nextParts
          refine Whereabouts.beyond (Comes.andThen comes nextComes)
            (List.append_assoc _ _ _).symm nextFurther ?_
            fun terminal isEnd => nextAtEnd terminal (atEnd terminal isEnd)
          rw [toDo, nextToDo, List.reverse_append, List.append_assoc]

/-- A composition whose value is changed is where it is without the change. -/
theorem Whereabouts.map
    {first : Composition world other}
    {change : other → result}
    (whereabouts :
      Whereabouts first { next := fun value => rest.next (change value), owed := rest.owed }
        handed noted owed last) :
    Whereabouts (first.map change) rest handed noted owed last := by
  cases whereabouts with
  | inside comes done toDo atEnd =>
      exact Whereabouts.inside (Comes.mapStopped change comes) done toDo atEnd
  | beyond comes parts further toDo atEnd =>
      exact Whereabouts.beyond (Comes.map change comes) parts further toDo atEnd

/-- A composition that reports its errors has stopped where it reported one, or it is where it is
without reporting. -/
theorem Whereabouts.orFail
    {first : Composition world (Except error result)}
    {report : error → ServerError}
    (whereabouts :
      Whereabouts first
        { next := fun outcome =>
            match outcome with
            | Except.ok value => rest.next value
            | Except.error failure => Chain.failOwing rest.owed (report failure)
          owed := rest.owed }
        handed noted owed last) :
    Whereabouts (first.orFail report) rest handed noted owed last := by
  cases whereabouts with
  | inside comes done toDo atEnd =>
      exact Whereabouts.inside (Comes.orFailStopped report comes) done toDo atEnd
  | @beyond _ _ _ _ outcome _ comes parts further toDo atEnd =>
      cases outcome with
      | ok value =>
          exact Whereabouts.beyond (Comes.orFailOk report comes) parts further toDo atEnd
      | error failure =>
          exact Whereabouts.of_failure (Comes.orFailError report comes) parts further toDo atEnd

/-- A composition that is guarded by a cleanup is where it is without the cleanup. The cleanup is
owed inside, and it is the last one to be done beyond. -/
theorem Whereabouts.ensuring
    {first : Composition world result}
    {cleanup : Cleanup}
    (follow : ∀ value, (rest.next value).IsSequential)
    (whereabouts :
      Whereabouts first
        { next := fun value => Chain.guarded cleanup (rest.next value)
          owed := rest.owed ++ [cleanup] }
        handed noted owed last) :
    Whereabouts (first.ensuring cleanup) rest handed noted owed last := by
  cases whereabouts with
  | inside comes done toDo atEnd =>
      refine Whereabouts.inside (Comes.ensuringStopped cleanup comes) ?_ toDo atEnd
      rw [done]
      exact List.append_assoc rest.owed [cleanup] _
  | @beyond _ _ _ _ value _ comes parts further toDo atEnd =>
      obtain ⟨own, inner, ownWay, guardToDo, guardAtEnd⟩ :=
        Chain.Passage.of_guarded (follow value) further
      refine Whereabouts.beyond (Comes.ensuring cleanup comes) parts ownWay ?_
        fun terminal isEnd => guardAtEnd terminal (atEnd terminal isEnd)
      rw [toDo, guardToDo, List.reverse_append, List.reverse_singleton, List.append_assoc]

/-- A chain on its way through a composition and on is somewhere inside or beyond. -/
theorem whereabouts_of_passage
    (composition : Composition world result)
    (follow : ∀ value, (rest.next value).IsSequential)
    (way : (composition.step.run rest).Passage handed noted owed last) :
    Whereabouts composition rest handed noted owed last := by
  induction composition generalizing handed noted owed last with
  | pure value =>
      exact Whereabouts.beyond (Comes.pure value) rfl way (by simp) fun _ isEnd => isEnd
  | session =>
      obtain ⟨rfl, rfl, rfl, rfl⟩ | ⟨_, _, _, _, _, _, _, takes, further, rfl, rfl, rfl⟩ :=
        way.cases_head
      · exact Whereabouts.of_waiting Comes.sessionWaits (Chain.pending_session _ _)
          fun terminal same => nomatch same
      · cases takes with
        | session _ _ found => exact Whereabouts.of_handed (Comes.session found) further
        | noSession _ _ failure => exact Whereabouts.of_refused (Comes.noSession failure) further
  | body =>
      obtain ⟨rfl, rfl, rfl, rfl⟩ | ⟨_, _, _, _, _, _, _, takes, further, rfl, rfl, rfl⟩ :=
        way.cases_head
      · exact Whereabouts.of_waiting Comes.bodyWaits (Chain.pending_body _ _)
          fun terminal same => nomatch same
      · cases takes with
        | body _ _ bytes => exact Whereabouts.of_handed (Comes.body bytes) further
        | noBody _ _ failure => exact Whereabouts.of_refused (Comes.noBody failure) further
  | query issued =>
      obtain ⟨rfl, rfl, rfl, rfl⟩ | ⟨_, _, _, _, _, _, _, takes, further, rfl, rfl, rfl⟩ :=
        way.cases_head
      · exact Whereabouts.of_waiting (Comes.queryWaits issued) (Chain.pending_query _ _ _)
          fun terminal same => nomatch same
      · cases takes with
        | query _ _ _ outcome => exact Whereabouts.of_handed (Comes.query issued outcome) further
  | task call =>
      obtain ⟨rfl, rfl, rfl, rfl⟩ | ⟨_, _, _, _, _, _, _, takes, further, rfl, rfl, rfl⟩ :=
        way.cases_head
      · exact Whereabouts.of_waiting (Comes.taskWaits call) (Chain.pending_task _ _ _)
          fun terminal same => nomatch same
      · cases takes with
        | task _ _ _ outcome => exact Whereabouts.of_handed (Comes.task call outcome) further
  | andThen first next firstHypothesis nextHypothesis =>
      have nextFollow : ∀ value, ((next value).step.run rest).IsSequential :=
        fun value => (next value).isSequential_run follow
      exact (firstHypothesis nextFollow way).andThen fun further => nextHypothesis _ follow further
  | map first change inductionHypothesis =>
      exact (inductionHypothesis (fun value => follow (change value)) way).map
  | orFail report first inductionHypothesis =>
      refine (inductionHypothesis (fun outcome => ?_) way).orFail
      cases outcome with
      | ok value => exact follow value
      | error failure => exact Chain.isSequential_failOwing rest.owed (report failure)
  | ensuring first cleanup inductionHypothesis =>
      have guardedFollow : ∀ value, (Chain.guarded cleanup (rest.next value)).IsSequential :=
        fun value => (follow value).guarded cleanup
      exact (inductionHypothesis guardedFollow way).ensuring follow

end Composition

end Screencast
