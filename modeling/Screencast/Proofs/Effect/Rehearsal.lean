import Screencast.Proofs.Effect.Apart

/-!
# Points of a rehearsal

A captured run on tables is a rehearsal for a server. It gives an account of its chain and of every
chain that is detached: what the chain was handed, and the terminal that it came to. The run
foretells what a server does if the stand-ins hand over what the server would.

Between two of its steps the run is at a point: what is left of the chain, and what has been
recorded so far. From a point one can tell what the chain will be handed, what it will access, and
how it will end. A step of the run leads to another point, from which one can tell the same about
the rest.
-/

namespace Screencast

/-! ## Accounts of captured runs -/

/-- What becomes of a chain: what it is handed, and the terminal that it comes to. -/
structure Account (world : Type) where
  source : Chain world
  handed : List (Delivery world)
  terminal : Terminal

namespace Chain

variable {state stub world : Type}

/-- What a captured run makes of a chain. -/
def account (standIn : StandIn state world) (chain : Chain world) (recording : Recording state) :
    Account world where
  source := chain
  handed := chain.handed standIn recording
  terminal := (chain.capture standIn recording).1.terminal

/-- What a captured run makes of the chains that a chain and its detached chains detach. -/
def offspring (standIn : StandIn state world) : Chain world → Recording state → List (Account world)
  | respond _, _ => []
  | session _ next, recording => (next standIn.session).offspring standIn recording
  | body _ next, recording => (next standIn.body).offspring standIn recording
  | query _ issued next, recording =>
    let (rows, recording) := recording.query standIn issued.statement
    (next (issued.resolve rows)).offspring standIn recording
  | task _ call next, recording =>
    let (answer, recording) := recording.task standIn call.description
    (next (call.resolve answer)).offspring standIn recording
  | detach aside rest, recording =>
    aside.account standIn recording :: aside.offspring standIn recording ++
      rest.offspring standIn (aside.capture standIn recording).2
  | ensure guarded _, recording => guarded.offspring standIn recording
  | note event rest, recording => rest.offspring standIn (recording.note event)
  | fresh next, recording =>
    let (id, recording) := recording.draw
    (next id).offspring standIn recording
  | observe next, recording =>
    (next (standIn.world recording.state)).offspring standIn recording

/-- The number of steps of a captured run. One that hands over a session counts for as many as it
takes a server to look the session up. -/
def stepCount (standIn : StandIn state world) : Chain world → Recording state → Nat
  | respond _, _ => 1
  | session _ next, recording => (next standIn.session).stepCount standIn recording + 6
  | body _ next, recording => (next standIn.body).stepCount standIn recording + 1
  | query _ issued next, recording =>
    let (rows, recording) := recording.query standIn issued.statement
    (next (issued.resolve rows)).stepCount standIn recording + 1
  | task _ call next, recording =>
    let (answer, recording) := recording.task standIn call.description
    (next (call.resolve answer)).stepCount standIn recording + 1
  | detach aside rest, recording =>
    aside.stepCount standIn recording +
      rest.stepCount standIn (aside.capture standIn recording).2 + 1
  | ensure guarded _, recording => guarded.stepCount standIn recording + 1
  | note event rest, recording => rest.stepCount standIn (recording.note event) + 1
  | fresh next, recording =>
    let (id, recording) := recording.draw
    (next id).stepCount standIn recording + 1
  | observe next, recording =>
    (next (standIn.world recording.state)).stepCount standIn recording + 1

/-- In a captured run, a chain is handed what a server would hand to it: the session that the cookie
names by the tables, the body that arrives, the results of statements, and what the tasks yield in
every state of the world that may come up. A chain that is detached gets an empty body. Statements
that are rejected leave the tables alone. Which identifiers are drawn cannot be foretold. -/
def IsForetold (standIn : StandIn (Pool × stub) world) (token : Option Uuid)
    (mayBe : world → Prop) :
    Chain world → (arriving : Option Bytes) → Recording (Pool × stub) → Prop
  | respond _, _, _ => True
  | session _ next, arriving, recording =>
    Session.IsNamedBy token recording.state.1 standIn.session ∧
      (next standIn.session).IsForetold standIn token mayBe arriving recording
  | body _ next, arriving, recording =>
    arriving = some standIn.body ∧
      (next standIn.body).IsForetold standIn token mayBe arriving recording
  | query _ issued next, arriving, recording =>
    let (rows, after) := recording.query standIn issued.statement
    (issued.rejection = none ∨
      ∀ table, after.state.1.rows table = recording.state.1.rows table) ∧
      (next (issued.resolve rows)).IsForetold standIn token mayBe arriving after
  | task _ call next, arriving, recording =>
    let (answer, recording) := recording.task standIn call.description
    (∀ before, mayBe before → ∃ millis after,
      call.perform before = (Completion.after millis (call.resolve answer), after) ∧
        mayBe after) ∧
      (next (call.resolve answer)).IsForetold standIn token mayBe arriving recording
  | detach aside rest, arriving, recording =>
    aside.IsForetold standIn token mayBe (some []) recording ∧
      rest.IsForetold standIn token mayBe arriving (aside.capture standIn recording).2
  | ensure guarded _, arriving, recording =>
    guarded.IsForetold standIn token mayBe arriving recording
  | note event rest, arriving, recording =>
    rest.IsForetold standIn token mayBe arriving (recording.note event)
  | fresh _, _, _ => False
  | observe next, arriving, recording =>
    let outside := standIn.world recording.state
    (∀ seen, mayBe seen → next seen = next outside) ∧
      (next outside).IsForetold standIn token mayBe arriving recording

end Chain

/-- A captured run on tables, with the identifier in the cookie and the states of the world that may
come up on the server. -/
structure Rehearsal (stub world : Type) where
  session : Option Session
  body : Bytes
  answer : TaskDescription → stub → Except TaskError Answer × stub
  look : stub → world
  token : Option Uuid
  mayBe : world → Prop

/-- Who answers in a rehearsal. -/
def Rehearsal.standIn {stub world : Type} (rehearsal : Rehearsal stub world) :
    StandIn (Pool × stub) world :=
  StandIn.onTables rehearsal.session rehearsal.body rehearsal.answer rehearsal.look

/-- A point of a captured run: what is left of the chain, and what has been recorded. -/
structure Point (stub world : Type) where
  chain : Chain world
  recording : Recording (Pool × stub)

namespace Point

variable {stub world : Type}

/-- The tables at a point. -/
def pool (point : Point stub world) : Pool := point.recording.state.1

/-- What the chain will be handed. -/
def handed (rehearsal : Rehearsal stub world) (point : Point stub world) : List (Delivery world) :=
  point.chain.handed rehearsal.standIn point.recording

/-- What will be accessed. -/
def accesses (rehearsal : Rehearsal stub world) (point : Point stub world) : List Access :=
  point.chain.accesses rehearsal.standIn point.recording

/-- Whether chains that will be detached stay apart. -/
def KeepsApart (rehearsal : Rehearsal stub world) (point : Point stub world) : Prop :=
  point.chain.KeepsApart rehearsal.standIn point.recording

/-- Whether the chain will be handed what a server would hand to it. -/
def IsForetold (rehearsal : Rehearsal stub world) (arriving : Option Bytes)
    (point : Point stub world) : Prop :=
  point.chain.IsForetold rehearsal.standIn rehearsal.token rehearsal.mayBe arriving point.recording

/-- What will become of the chains that will be detached. -/
def offspring (rehearsal : Rehearsal stub world) (point : Point stub world) :
    List (Account world) :=
  point.chain.offspring rehearsal.standIn point.recording

/-- The terminal that the chain will come to. -/
def terminal (rehearsal : Rehearsal stub world) (point : Point stub world) : Terminal :=
  (point.chain.capture rehearsal.standIn point.recording).1.terminal

/-- How many steps are left, with those that it takes to look up sessions. -/
def stepCount (rehearsal : Rehearsal stub world) (point : Point stub world) : Nat :=
  point.chain.stepCount rehearsal.standIn point.recording

/-- The point at which the rest of a detached chain begins. -/
def beside (rehearsal : Rehearsal stub world) (point : Point stub world) (rest : Chain world) :
    Point stub world where
  chain := rest
  recording := (point.chain.capture rehearsal.standIn point.recording).2

/-- The tables when the chain has come to its end. -/
def left (rehearsal : Rehearsal stub world) (point : Point stub world) : Pool :=
  (point.chain.capture rehearsal.standIn point.recording).2.state.1

/-- A step of a captured run: what the chain is handed, what it notes, which cleanup it comes to
owe, what it accesses, and for how many steps this one counts. -/
structure LeadsTo (rehearsal : Rehearsal stub world) (point : Point stub world)
    (given : List (Delivery world)) (told : List Event) (opened : List Cleanup)
    (first : List Access) (count : Nat) (next : Point stub world) : Prop where
  takes : point.chain.Takes given told opened next.chain
  handed : point.handed rehearsal = given ++ next.handed rehearsal
  accesses : point.accesses rehearsal = first ++ next.accesses rehearsal
  keepsApart : point.KeepsApart rehearsal = next.KeepsApart rehearsal
  offspring : point.offspring rehearsal = next.offspring rehearsal
  terminal : point.terminal rehearsal = next.terminal rehearsal
  left : point.left rehearsal = next.left rehearsal
  stepCount : point.stepCount rehearsal = next.stepCount rehearsal + count

variable {rehearsal : Rehearsal stub world} {recording : Recording (Pool × stub)}

@[simp] theorem stepCount_session (owed : List Cleanup) (next : Option Session → Chain world) :
    stepCount rehearsal { chain := Chain.session owed next, recording } =
      stepCount rehearsal { chain := next rehearsal.session, recording } + 6 :=
  rfl

@[simp] theorem stepCount_detach (aside rest : Chain world) :
    stepCount rehearsal { chain := Chain.detach aside rest, recording } =
      stepCount rehearsal { chain := aside, recording } +
        stepCount rehearsal (beside rehearsal { chain := aside, recording } rest) + 1 :=
  rfl

theorem leadsTo_session (owed : List Cleanup) (next : Option Session → Chain world) :
    LeadsTo rehearsal { chain := Chain.session owed next, recording }
      [Delivery.session rehearsal.session] [] [] (Session.tables.map Access.reads) 6
      { chain := next rehearsal.session, recording } :=
  ⟨Chain.Takes.session owed next _, rfl, rfl, rfl, rfl, rfl, rfl, rfl⟩

theorem leadsTo_body (owed : List Cleanup) (next : Bytes → Chain world) :
    LeadsTo rehearsal { chain := Chain.body owed next, recording }
      [Delivery.body rehearsal.body] [] [] [] 1 { chain := next rehearsal.body, recording } :=
  ⟨Chain.Takes.body owed next _, rfl, rfl, rfl, rfl, rfl, rfl, rfl⟩

/-- A query is answered from the tables. -/
theorem leadsTo_query
    {result : Type}
    (owed : List Cleanup)
    (issued : Query result)
    (next : Except QueryError result → Chain world) :
    LeadsTo rehearsal { chain := Chain.query owed issued next, recording }
      [Delivery.query (recording.state.1.ask issued)] [] [] [issued.statement.access] 1
      { chain := next (recording.state.1.ask issued)
        recording := (recording.query rehearsal.standIn issued.statement).2 } :=
  ⟨Chain.Takes.query owed issued next _, rfl, rfl, rfl, rfl, rfl, rfl, rfl⟩

/-- A task is answered by the stub. -/
theorem leadsTo_task
    {result : Type}
    (owed : List Cleanup)
    (call : Task world result)
    (next : Except TaskError result → Chain world) :
    let answered := recording.task rehearsal.standIn call.description
    LeadsTo rehearsal { chain := Chain.task owed call next, recording }
      [Delivery.task (call.resolve answered.1)] [] [] [] 1
      { chain := next (call.resolve answered.1), recording := answered.2 } :=
  ⟨Chain.Takes.task owed call next _, rfl, rfl, rfl, rfl, rfl, rfl, rfl⟩

theorem leadsTo_ensure (guarded : Chain world) (cleanup : Cleanup) :
    LeadsTo rehearsal { chain := Chain.ensure guarded cleanup, recording } [] [] [cleanup] [] 1
      { chain := guarded, recording } :=
  ⟨Chain.Takes.ensure guarded cleanup, rfl, rfl, rfl, rfl, rfl, rfl, rfl⟩

theorem leadsTo_note (event : Event) (rest : Chain world) :
    LeadsTo rehearsal { chain := Chain.note event rest, recording } [] [event] [] [] 1
      { chain := rest, recording := recording.note event } :=
  ⟨Chain.Takes.note event rest, rfl, rfl, rfl, rfl, rfl, rfl, rfl⟩

theorem leadsTo_observe (next : world → Chain world) :
    let outside := rehearsal.standIn.world recording.state
    LeadsTo rehearsal { chain := Chain.observe next, recording }
      [Delivery.seen outside] [] [] [] 1 { chain := next outside, recording } :=
  ⟨Chain.Takes.observe next _, rfl, rfl, rfl, rfl, rfl, rfl, rfl⟩

theorem rows_left_of_not_writes
    {table : String}
    {point : Point stub world}
    (spared : Access.writes table ∉ point.accesses rehearsal) :
    (point.left rehearsal).rows table = point.pool.rows table :=
  point.chain.rows_capture_of_not_writes point.recording spared

end Point

end Screencast
