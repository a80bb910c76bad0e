import Screencast.Proofs.Effect.Finds
import Screencast.Proofs.Effect.Within

/-!
# Captured runs by stubs

What a chain comes to when stubs answer it: its terminal, and the tables that it leaves. A run may
hand out any identifiers in the place of those that are drawn. There is one rule for each kind of
step, so that the proofs about a chain never open the run.
-/

namespace Screencast

namespace Chain

variable {world : Type}

/-- A chain that is given other identifiers than those that are drawn. -/
def identifiedBy (identifiers : Uuid → Uuid) : Chain world → Chain world
  | respond terminal => respond terminal
  | session owed next => session owed fun found => (next found).identifiedBy identifiers
  | body owed next => body owed fun bytes => (next bytes).identifiedBy identifiers
  | query owed issued next => query owed issued fun outcome => (next outcome).identifiedBy identifiers
  | task owed call next => task owed call fun outcome => (next outcome).identifiedBy identifiers
  | detach aside rest => detach (aside.identifiedBy identifiers) (rest.identifiedBy identifiers)
  | ensure guarded cleanup => ensure (guarded.identifiedBy identifiers) cleanup
  | note event rest => note event (rest.identifiedBy identifiers)
  | fresh next => fresh fun drawn => (next (identifiers drawn)).identifiedBy identifiers
  | observe next => observe fun seen => (next seen).identifiedBy identifiers

/-- A chain that is given the identifiers that are drawn is the chain itself. -/
@[simp] theorem identifiedBy_id (chain : Chain world) : chain.identifiedBy id = chain := by
  induction chain with
  | respond => rfl
  | session owed _ follow => exact congrArg (session owed) (funext follow)
  | body owed _ follow => exact congrArg (body owed) (funext follow)
  | query owed issued _ follow => exact congrArg (query owed issued) (funext follow)
  | task owed call _ follow => exact congrArg (task owed call) (funext follow)
  | detach _ _ asideHypothesis restHypothesis =>
      exact (congrArg (detach · _) asideHypothesis).trans (congrArg (detach _) restHypothesis)
  | ensure _ cleanup inductionHypothesis => exact congrArg (ensure · cleanup) inductionHypothesis
  | note event _ inductionHypothesis => exact congrArg (note event) inductionHypothesis
  | fresh _ follow => exact congrArg fresh (funext follow)
  | observe _ follow => exact congrArg observe (funext follow)

end Chain

/-- What a request brings along: who is signed in, the body, and the identifiers that are handed out
for it in the place of those that are drawn. -/
structure Arrival where
  session : Option Session := none
  body : Bytes := []
  identifiers : Uuid → Uuid := id

namespace Arrival

variable {world : Type}

/-- Run a chain by stubs. -/
def run (arrival : Arrival) (chain : Chain world) (stubs : Stubs world) : Outcome × Stubs world :=
  let (outcome, recording) :=
    (chain.identifiedBy arrival.identifiers).capture (Stubs.standIn arrival.session arrival.body)
      { state := stubs }
  (outcome, recording.state)

/-- Whichever queries fail, a run of a chain by stubs comes to a terminal and leaves a pool that
meet a condition. -/
def ComesTo (arrival : Arrival) (chain : Chain world) (stubs : Stubs world) (drawn : Nat)
    (post : Terminal → Pool → Prop) : Prop :=
  ∀ journal : List Event,
    let (outcome, recording) :=
      (chain.identifiedBy arrival.identifiers).capture (Stubs.standIn arrival.session arrival.body)
        { state := stubs, drawn, journal }
    post outcome.terminal recording.state.pool

namespace ComesTo

variable {arrival : Arrival} {stubs : Stubs world} {drawn : Nat} {post : Terminal → Pool → Prop}
  {owed : List Cleanup} {result : Type}

theorem run_spec
    {chain : Chain world}
    (comes : ComesTo arrival chain stubs 0 post) :
    post (arrival.run chain stubs).1.terminal (arrival.run chain stubs).2.pool :=
  comes []

/-- A condition may be weakened. -/
theorem imp
    {chain : Chain world}
    {weaker : Terminal → Pool → Prop}
    (comes : ComesTo arrival chain stubs drawn post)
    (implies : ∀ terminal pool, post terminal pool → weaker terminal pool) :
    ComesTo arrival chain stubs drawn weaker :=
  fun journal => implies _ _ (comes journal)

theorem respond
    {terminal : Terminal}
    (meets : post terminal stubs.pool) :
    ComesTo arrival (Chain.respond terminal) stubs drawn post :=
  fun _ => meets

theorem session
    {next : Option Session → Chain world}
    (comes : ComesTo arrival (next arrival.session) stubs drawn post) :
    ComesTo arrival (Chain.session owed next) stubs drawn post :=
  fun journal => comes journal

/-- A task is answered by the script. -/
theorem task
    {call : Task world result}
    {next : Except TaskError result → Chain world}
    (comes : ComesTo arrival (next (call.resolve (Stubs.task call.description stubs).1))
      (Stubs.task call.description stubs).2 drawn post) :
    ComesTo arrival (Chain.task owed call next) stubs drawn post :=
  fun journal => comes (journal ++ [Event.asked call.description])

/-- A query fails, or is answered from the tables. -/
theorem query
    {issued : Query result}
    {next : Except QueryError result → Chain world}
    (fails : ∀ error left, left.pool = stubs.pool →
      ComesTo arrival (next (Except.error error)) left drawn post)
    (succeeds : ∀ left, left.pool = (stubs.pool.apply issued.statement).2 →
      ComesTo arrival (next (stubs.pool.ask issued)) left drawn post) :
    ComesTo arrival (Chain.query owed issued next) stubs drawn post := by
  intro journal
  rcases Stubs.query_cases issued.statement stubs with
    ⟨error, left, isLeft, unchanged⟩ | ⟨left, isLeft, applied⟩
  · have failed := fails error left unchanged (journal ++ [Event.queried issued.statement])
    simp only [Chain.identifiedBy, Chain.capture, Recording.query, Recording.note, Stubs.standIn,
      isLeft]
    exact failed
  · have answered := succeeds left applied (journal ++ [Event.queried issued.statement])
    simp only [Chain.identifiedBy, Chain.capture, Recording.query, Recording.note, Stubs.standIn,
      isLeft]
    exact answered

theorem fresh
    {next : Uuid → Chain world}
    (comes : ComesTo arrival (next (arrival.identifiers (Uuid.drawn (drawn + 1)))) stubs (drawn + 1)
      post) :
    ComesTo arrival (Chain.fresh next) stubs drawn post :=
  fun journal => comes journal

theorem observe
    {next : world → Chain world}
    (comes : ComesTo arrival (next stubs.world) stubs drawn post) :
    ComesTo arrival (Chain.observe next) stubs drawn post :=
  fun journal => comes journal

theorem body
    {next : Bytes → Chain world}
    (comes : ComesTo arrival (next arrival.body) stubs drawn post) :
    ComesTo arrival (Chain.body owed next) stubs drawn post :=
  fun journal => comes journal

theorem note
    {event : Event}
    {rest : Chain world}
    (comes : ComesTo arrival rest stubs drawn post) :
    ComesTo arrival (Chain.note event rest) stubs drawn post :=
  fun journal => comes (journal ++ [event])

theorem detach
    {aside rest : Chain world}
    (comes : ComesTo arrival aside stubs drawn fun _ between =>
      ∀ left later, left.pool = between → ComesTo arrival rest left later post) :
    ComesTo arrival (Chain.detach aside rest) stubs drawn post :=
  fun journal => comes journal _ _ rfl _

/-- A chain that logs a failure ends with an empty text. -/
theorem logFailure
    {context : String}
    {failure : Option String}
    (meets : post (Terminal.text "" Status.ok []) stubs.pool) :
    ComesTo arrival (Chain.logFailure context failure) stubs drawn post := by
  cases failure with
  | none => exact respond meets
  | some message => exact note (respond meets)

/-- A failure is reported by an error page. -/
theorem fail
    {error : ServerError}
    (meets : post (Terminal.html error.page error.status) stubs.pool) :
    ComesTo arrival (Chain.fail error) stubs drawn post := by
  unfold Chain.fail Chain.failOwing
  dsimp only
  split
  · exact fun _ => meets
  · exact fun _ => meets

/-- A query whose failure is reported fails, has rows that cannot be read, or is answered from the
tables. -/
theorem queryOrFail
    {issued : Query result}
    {next : result → Chain world}
    (fails : ∀ error,
      post (Terminal.html (ServerError.ofQuery error).page (ServerError.ofQuery error).status)
        stubs.pool)
    (rejects : ∀ error, stubs.pool.ask issued = Except.error error →
      post (Terminal.html (ServerError.ofQuery error).page (ServerError.ofQuery error).status)
        (stubs.pool.apply issued.statement).2)
    (succeeds : ∀ value left, stubs.pool.ask issued = Except.ok value →
      left.pool = (stubs.pool.apply issued.statement).2 →
      ComesTo arrival (next value) left drawn post) :
    ComesTo arrival (Chain.queryOrFail issued next) stubs drawn post := by
  refine query (fun error left unchanged => ?_) fun left applied => ?_
  · exact fail (unchanged ▸ fails error)
  · cases asked : stubs.pool.ask issued with
    | ok value => exact succeeds value left asked applied
    | error error => exact fail (applied ▸ rejects error asked)

/-- A task whose failure is reported fails, or is answered by the script. -/
theorem awaitOrFail
    {call : Task world result}
    {publicMessage : String}
    {next : result → Chain world}
    (fails : ∀ error,
      post (Terminal.html (Chain.taskFailure call publicMessage error).page
        (Chain.taskFailure call publicMessage error).status) stubs.pool)
    (succeeds : ∀ value, call.resolve (Stubs.task call.description stubs).1 = Except.ok value →
      ComesTo arrival (next value) (Stubs.task call.description stubs).2 drawn post) :
    ComesTo arrival (Chain.awaitOrFail call publicMessage next) stubs drawn post := by
  refine task ?_
  cases answered : call.resolve (Stubs.task call.description stubs).1 with
  | ok value => exact succeeds value answered
  | error error =>
      have samePool := Stubs.pool_task call.description stubs
      exact fail (samePool ▸ fails error)

end ComesTo

end Arrival

/-! ## Steps -/

namespace Step

variable {world result other : Type} {pool : Pool} {issued : Query result}

/-- On tables with the rows of a pool, a step yields a value and leaves the rows of all tables as
they are, if no queries fail. -/
def YieldsOn (step : Step world result) (pool : Pool) (value : result) : Prop :=
  ∀ (arrival : Arrival) (stubs : Stubs world) (drawn : Nat) (post : Terminal → Pool → Prop)
    (rest : Rest world result), (∀ table, stubs.pool.rows table = pool.rows table) →
    stubs.planned = [] →
    (∀ left : Pool, (∀ table, left.rows table = pool.rows table) →
      arrival.ComesTo (rest.next value) { stubs with pool := left } drawn post) →
    arrival.ComesTo (step.run rest) stubs drawn post

theorem yieldsOn_pure (pool : Pool) (value : result) :
    (pure value : Step world result).YieldsOn pool value :=
  fun _ stubs _ _ _ sameRows _ comes => comes stubs.pool sameRows

/-- A selection yields what it yields on the tables. -/
theorem yieldsOn_queryOrFail
    {value : result}
    (isSelect : issued.statement.isSelect = true)
    (asked : pool.ask issued = Except.ok value) :
    (queryOrFail issued : Step world result).YieldsOn pool value := by
  rintro arrival ⟨tables, seen, answers, _⟩ drawn post rest sameRows rfl comes journal
  have answered : issued.resolve (Except.ok (tables.apply issued.statement).1) = Except.ok value :=
    (Pool.ask_congr (sameRows _)).trans asked
  have sameLeft (table : String) :
      (tables.apply issued.statement).2.rows table = pool.rows table :=
    (Pool.rows_apply_of_isSelect isSelect tables table).trans (sameRows table)
  have follows := comes _ sameLeft (journal ++ [Event.queried issued.statement])
  simp only [queryOrFail, orFail, query, Chain.identifiedBy, Chain.capture, Recording.query,
    Recording.note, Stubs.standIn, Stubs.query, List.tail_nil, answered]
  exact follows

namespace YieldsOn

/-- Steps yield values one after the other. -/
theorem andThen
    {step : Step world result}
    {follow : result → Step world other}
    {value : result}
    {last : other}
    (first : step.YieldsOn pool value)
    (second : (follow value).YieldsOn pool last) :
    (step.andThen follow).YieldsOn pool last :=
  fun arrival stubs drawn post rest sameRows noneFail comes =>
    first arrival stubs drawn post _ sameRows noneFail fun left sameLeft =>
      second arrival { stubs with pool := left } drawn post rest sameLeft noneFail comes

/-- The value of a step may be changed. -/
theorem map
    {step : Step world result}
    {value : result}
    (yields : step.YieldsOn pool value)
    (change : result → other) :
    (step.map change).YieldsOn pool (change value) :=
  fun arrival stubs drawn post _ sameRows noneFail comes =>
    yields arrival stubs drawn post _ sameRows noneFail comes

end YieldsOn

/-- What a step finds by selections, it yields. -/
theorem Finds.yieldsOn
    {tables : List String}
    {most : Nat}
    {step : Step world result}
    {value : result}
    (finds : step.Finds tables pool most value) :
    step.YieldsOn pool value := by
  induction finds with
  | pure most value => exact yieldsOn_pure pool value
  | queryOrFail accepted isSelect ofTables found => exact yieldsOn_queryOrFail isSelect found
  | andThen finds later findsHypothesis laterHypothesis =>
      exact findsHypothesis.andThen laterHypothesis
  | map finds change inductionHypothesis => exact inductionHypothesis.map change

end Step

end Screencast
