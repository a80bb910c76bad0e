import Screencast.Proofs.Account.Resolve
import Screencast.Proofs.Effect.OnTables
import Screencast.Proofs.Http.Response
import Screencast.Proofs.Serve.Alone
import Screencast.Proofs.Serve.Thread
import Screencast.Site.Dispatch

/-!
# The server and captured runs agree

A chain that detaches nothing ends with the same terminal and leaves the same tables behind whether
the server runs it or stand-ins answer it, as long as both get the same from outside. The proof
follows the captured run through the chain, and has the server take the steps that go with it.
-/

namespace Screencast

namespace Chain

variable {world state : Type}

/-- A chain detaches nothing, none of its statements is rejected, and none of them writes to a table
that sessions are read from. -/
def IsPlain : Chain world → Prop
  | respond _ => True
  | session _ next => ∀ found, (next found).IsPlain
  | body _ next => ∀ bytes, (next bytes).IsPlain
  | query _ issued next =>
      issued.rejection = none ∧
        (∀ table ∈ Session.tables, issued.statement.writesTo table = false) ∧
        ∀ outcome, (next outcome).IsPlain
  | task _ _ next => ∀ outcome, (next outcome).IsPlain
  | detach _ _ => False
  | ensure guarded _ => guarded.IsPlain
  | note _ rest => rest.IsPlain
  | fresh next => ∀ id, (next id).IsPlain
  | observe next => ∀ seen, (next seen).IsPlain

/-- Reporting a failure is plain. -/
@[simp] theorem isPlain_failOwing (owed : List Cleanup) (error : ServerError) :
    (failOwing owed error : Chain world).IsPlain := by
  have ending : (clean owed (respond (Terminal.html error.page error.status)) :
      Chain world).IsPlain := by
    induction owed with
    | nil => trivial
    | cons cleanup owed inductionHypothesis => exact inductionHypothesis
  unfold failOwing
  split <;> exact ending

/-- Along a captured run, the body of a request is the one of the stand-in if the chain asks for it,
and every task completes in time with what the stand-in answers. -/
def IsAnsweredAlike (standIn : StandIn state world) (arriving : Option Bytes)
    (limit : Option Nat) : Chain world → Recording state → Prop
  | respond _, _ => True
  | session _ next, recording =>
      (next standIn.session).IsAnsweredAlike standIn arriving limit recording
  | body _ next, recording =>
      arriving = some standIn.body ∧
        (next standIn.body).IsAnsweredAlike standIn arriving limit recording
  | query _ issued next, recording =>
      let (rows, recording) := recording.query standIn issued.statement
      (next (issued.resolve rows)).IsAnsweredAlike standIn arriving limit recording
  | task _ call next, recording =>
      let (answer, after) := recording.task standIn call.description
      (∃ millis,
        call.perform (standIn.world recording.state) =
            (Completion.after millis (call.resolve answer), standIn.world after.state) ∧
          ∀ most, limit = some most → millis ≤ most) ∧
        (next (call.resolve answer)).IsAnsweredAlike standIn arriving limit after
  | detach aside rest, recording =>
      aside.IsAnsweredAlike standIn arriving limit recording ∧
        rest.IsAnsweredAlike standIn arriving limit (aside.capture standIn recording).2
  | ensure guarded _, recording => guarded.IsAnsweredAlike standIn arriving limit recording
  | note event rest, recording =>
      rest.IsAnsweredAlike standIn arriving limit (recording.note event)
  | fresh next, recording =>
      let (id, recording) := recording.draw
      (next id).IsAnsweredAlike standIn arriving limit recording
  | observe next, recording =>
      (next (standIn.world recording.state)).IsAnsweredAlike standIn arriving limit recording

end Chain

namespace Serve

variable {world stub : Type}

namespace Shared

/-- A connection is available, and no fault is in the way. -/
structure IsReady (shared : Shared world) : Prop where
  faults : shared.pool.faults = []
  planned : shared.planned = []
  available : shared.pool.held < shared.pool.capacity

/-- What has become of what threads share, when every table has the given rows and nothing else that
a chain can see has changed. -/
structure Follows (before after : Shared world) (rows : String → List Row) : Prop where
  ready : after.IsReady
  rows : ∀ table, after.pool.rows table = rows table
  world : after.world = before.world
  drawn : after.drawn = before.drawn

namespace Follows

variable {before between after : Shared world} {rows : String → List Row}

theorem refl (ready : before.IsReady) : before.Follows before before.pool.rows where
  ready := ready
  rows _ := rfl
  world := rfl
  drawn := rfl

/-- What leaves the rows alone can be followed by anything else. -/
theorem trans
    (first : before.Follows between before.pool.rows)
    (second : between.Follows after rows) :
    before.Follows after rows where
  ready := second.ready
  rows := second.rows
  world := second.world.trans first.world
  drawn := second.drawn.trans first.drawn

end Follows

end Shared

namespace System

variable {setup : Setup world} {line : RequestLine} {shared : Shared world} {scope : Scope}
  {cleanups : List Cleanup}

/-- A query gets a connection, is answered from the tables, and returns the connection: that takes
three steps. -/
theorem leadsWithin_query
    {result : Type}
    {owed : List Cleanup}
    {issued : Query result}
    {next : Except QueryError result → Chain world}
    (ready : shared.IsReady)
    (accepted : issued.rejection = none) :
    ∃ after,
      LeadsWithin setup
          (alone line after { chain := next (shared.pool.ask issued), scope, cleanups }) 3
          (alone line shared { chain := Chain.query owed issued next, scope, cleanups }) ∧
        shared.Follows after (shared.pool.apply issued.statement).2.rows := by
  obtain ⟨faults, planned, available⟩ := ready
  let thread : Thread world := { chain := Chain.query owed issued next, scope, cleanups }
  let granted : Shared world := { shared.note Event.acquiring with pool := shared.pool.grant }
  let executed : Shared world :=
    { granted.note (Event.executing issued.statement) with
      pool := (granted.pool.apply issued.statement).2 }
  let released : Shared world :=
    { executed.note Event.released with pool := executed.pool.release }
  have acquires : thread.step setup shared =
      (Progress.moved { thread with stage := Stage.connected }, granted) := by
    simp [thread, granted, Thread.step, accepted, Thread.acquire, Shared.injectPlanned, planned,
      Pool.request, Pool.takeFault, faults, Pool.isAvailable, available, Shared.note]
  have executes : Thread.step setup { thread with stage := Stage.connected } granted =
      (Progress.moved
        { thread with
          stage := Stage.answered (Except.ok (granted.pool.apply issued.statement).1) },
        executed) := by
    simp [thread, granted, executed, Thread.step, Pool.execute, Pool.takeFault, Pool.grant, faults,
      Shared.note]
  have releases : Thread.step setup
      { thread with stage := Stage.answered (Except.ok (granted.pool.apply issued.statement).1) }
      executed =
        (Progress.moved { chain := next (granted.pool.ask issued), scope, cleanups }, released) :=
    rfl
  have sameRows (table : String) : granted.pool.rows table = shared.pool.rows table := rfl
  have sameAnswer : granted.pool.ask issued = shared.pool.ask issued :=
    Pool.ask_congr (sameRows issued.statement.table)
  refine ⟨released, ?_, ?_⟩
  · rw [← sameAnswer]
    exact ((leadsWithin_of_moved acquires).trans (leadsWithin_of_moved executes)).trans
      (leadsWithin_of_moved releases)
  · constructor
    case ready =>
      have accounts := Pool.accounts_apply granted.pool issued.statement
      have held : executed.pool.held = shared.pool.held + 1 := congrArg Pool.Accounts.held accounts
      have capacity : executed.pool.capacity = shared.pool.capacity :=
        congrArg Pool.Accounts.capacity accounts
      constructor
      case faults => exact (Pool.faults_apply granted.pool issued.statement).trans faults
      case planned => exact planned
      case available =>
        change executed.pool.held - 1 < executed.pool.capacity
        omega
    case rows => exact fun table => Pool.rows_apply_congr (sameRows table) issued.statement
    case world => rfl
    case drawn => rfl

/-- A query is answered from the tables. -/
theorem leads_query
    {result : Type}
    {owed : List Cleanup}
    {issued : Query result}
    {next : Except QueryError result → Chain world}
    (ready : shared.IsReady)
    (accepted : issued.rejection = none) :
    ∃ after,
      Leads setup
          (alone line shared { chain := Chain.query owed issued next, scope, cleanups })
          (alone line after { chain := next (shared.pool.ask issued), scope, cleanups }) ∧
        shared.Follows after (shared.pool.apply issued.statement).2.rows := by
  obtain ⟨after, within, follows⟩ := leadsWithin_query ready accepted
  exact ⟨after, within.leads, follows⟩

/-- A task that completes in time is waited for. -/
theorem leads_task
    {result : Type}
    {owed : List Cleanup}
    {call : Task world result}
    {next : Except TaskError result → Chain world}
    {millis : Nat}
    {outcome : Except TaskError result}
    {left : world}
    (uncancelled : scope.cancelled = none)
    (performed : call.perform shared.world = (Completion.after millis outcome, left))
    (inTime : ∀ most, setup.taskTimeoutMillis = some most → millis ≤ most) :
    ∃ clock,
      Leads setup (alone line shared { chain := Chain.task owed call next, scope, cleanups })
        (alone line { shared with world := left, clock }
          { chain := next outcome, scope, cleanups }) := by
  have settled : (Completion.after millis outcome).settle call.late setup.taskTimeoutMillis none =
      some (millis, outcome) := by
    cases limit : setup.taskTimeoutMillis with
    | none => rfl
    | some most => simp [Completion.settle, inTime most limit]
  let thread : Thread world := { chain := Chain.task owed call next, scope, cleanups }
  let waiting : Thread world := { thread with stage := Stage.settled outcome next }
  have continues (after : Shared world) :
      Leads setup (alone line after waiting)
        (alone line after { chain := next outcome, scope, cleanups }) :=
    leads_of_moved rfl
  by_cases atOnce : millis = 0
  · subst atOnce
    have yields : thread.step setup shared =
        (Progress.yielded waiting, { shared with world := left }) := by
      simp [thread, waiting, Thread.step, Thread.await, uncancelled, performed, settled]
    exact ⟨shared.clock, (leads_of_yielded yields).trans (continues _)⟩
  · have sleeps : thread.step setup shared =
        (Progress.asleep (shared.clock + millis) waiting, { shared with world := left }) := by
      simp [thread, waiting, Thread.step, Thread.await, uncancelled, performed, settled, atOnce]
    have forTask : waiting.stage ≠ Stage.waiting := by
      intro waits
      cases waits
    exact ⟨shared.clock + millis, (leads_of_asleep forTask sleeps).trans (continues _)⟩

/-! ## Steps that only look -/

/-- A step yields a value and leaves the rows alone, whatever comes next. -/
def Yields {result : Type} (setup : Setup world) (line : RequestLine) (scope : Scope)
    (cleanups : List Cleanup) (shared : Shared world) (step : Step world result)
    (value : result) : Prop :=
  ∀ rest : Rest world result, ∃ after,
    Leads setup (alone line shared { chain := step.run rest, scope, cleanups })
        (alone line after { chain := rest.next value, scope, cleanups }) ∧
      shared.Follows after shared.pool.rows

section Yields

variable {result other : Type} {step : Step world result} {value : result}

theorem yields_pure (ready : shared.IsReady) (value : result) :
    Yields setup line scope cleanups shared (Step.pure value) value :=
  fun _ => ⟨shared, Relation.ReflTransGen.refl, Shared.Follows.refl ready⟩

/-- Steps that only look can follow one another. -/
theorem Yields.andThen
    {follow : result → Step world other}
    {last : other}
    (first : Yields setup line scope cleanups shared step value)
    (second : ∀ after, shared.Follows after shared.pool.rows →
      Yields setup line scope cleanups after (follow value) last) :
    Yields setup line scope cleanups shared (step.andThen follow) last := by
  intro rest
  obtain ⟨between, leadsBetween, followsBetween⟩ :=
    first { next := fun value => (follow value).run rest, owed := rest.owed }
  obtain ⟨after, leadsAfter, followsAfter⟩ := second between followsBetween rest
  rw [funext followsBetween.rows] at followsAfter
  exact ⟨after, leadsBetween.trans leadsAfter, followsBetween.trans followsAfter⟩

theorem Yields.map
    (yields : Yields setup line scope cleanups shared step value)
    (change : result → other) :
    Yields setup line scope cleanups shared (step.map change) (change value) :=
  fun rest => yields { next := fun value => rest.next (change value), owed := rest.owed }

/-- A selection that can be read yields what it finds. -/
theorem yields_queryOrFail
    {issued : Query result}
    (ready : shared.IsReady)
    (accepted : issued.rejection = none)
    (isSelect : issued.statement.isSelect = true)
    (found : shared.pool.ask issued = Except.ok value) :
    Yields setup line scope cleanups shared (Step.queryOrFail issued) value := by
  intro rest
  obtain ⟨after, leads, follows⟩ := leads_query ready accepted
  rw [found] at leads
  rw [funext (Pool.rows_apply_of_isSelect isSelect shared.pool)] at follows
  exact ⟨after, leads, follows⟩

/-- What a step finds by selections, it yields. -/
theorem yields_of_finds
    {tables : List String}
    {pool : Pool}
    {most : Nat}
    (ready : shared.IsReady)
    (same : ∀ table, pool.rows table = shared.pool.rows table)
    (finds : step.Finds tables pool most value) :
    Yields setup line scope cleanups shared step value := by
  induction finds generalizing shared with
  | pure most value => exact yields_pure ready value
  | queryOrFail accepted isSelect ofTables found =>
      rw [Pool.ask_congr (same _)] at found
      exact yields_queryOrFail ready accepted isSelect found
  | andThen finds later findsHypothesis laterHypothesis =>
      refine (findsHypothesis ready same).andThen fun after follows => ?_
      exact laterHypothesis follows.ready
        fun table => (same table).trans (follows.rows table).symm
  | map finds change inductionHypothesis => exact (inductionHypothesis ready same).map change

end Yields

/-! ## Following a captured run -/

/-- The system comes to a halt with the response for a terminal, and with the given rows in every
table. -/
def EndsWith (setup : Setup world) (system : System world) (terminal : Terminal)
    (rows : String → List Row) : Prop :=
  ∃ last, Leads setup system last ∧ last.step? setup = none ∧
    last.response = some (Http.Response.ofTerminal setup.files terminal).1 ∧
    ∀ table, last.shared.pool.rows table = rows table

/-- A system ends as whatever it leads to. -/
theorem EndsWith.of_leads
    {first second : System world}
    {terminal : Terminal}
    {rows : String → List Row}
    (ends : EndsWith setup second terminal rows)
    (leads : Leads setup first second) :
    EndsWith setup first terminal rows := by
  obtain ⟨last, onward, halted, response, left⟩ := ends
  exact ⟨last, leads.trans onward, halted, response, left⟩

/-- A captured run and a server see the same rows and the same world, draw the same identifiers, and
have the same session. -/
structure Matches (token : Option Uuid) (session : Option Session) (look : stub → world)
    (recording : Recording (Pool × stub)) (shared : Shared world) : Prop where
  ready : shared.IsReady
  named : Session.IsNamedBy token shared.pool session
  rows : ∀ table, recording.state.1.rows table = shared.pool.rows table
  world : look recording.state.2 = shared.world
  drawn : recording.drawn = shared.drawn

section Matches

variable {session : Option Session} {body : Bytes}
  {answer : TaskDescription → stub → Except TaskError Answer × stub} {look : stub → world}
  {recording : Recording (Pool × stub)}

/-- What leaves the pool alone, and changes the rest for both alike, keeps them matched. -/
theorem Matches.of_pool
    {left : Recording (Pool × stub)}
    {after : Shared world}
    (matched : Matches scope.token session look recording shared)
    (pool : after.pool = shared.pool)
    (planned : after.planned = shared.planned)
    (same : left.state.1 = recording.state.1)
    (world : look left.state.2 = after.world)
    (drawn : left.drawn = after.drawn) :
    Matches scope.token session look left after where
  ready := by
    refine ⟨?_, planned.trans matched.ready.planned, ?_⟩
    · rw [pool]
      exact matched.ready.faults
    · rw [pool]
      exact matched.ready.available
  named := pool ▸ matched.named
  rows table := by rw [same, pool, matched.rows]
  world := world
  drawn := drawn

/-- A query that spares the tables of sessions is the same for both. -/
theorem Matches.query
    {after : Shared world}
    {statement : Statement}
    (matched : Matches scope.token session look recording shared)
    (spared : ∀ table ∈ Session.tables, statement.writesTo table = false)
    (follows : shared.Follows after (shared.pool.apply statement).2.rows) :
    Matches scope.token session look
      (recording.query (StandIn.onTables session body answer look) statement).2 after where
  ready := follows.ready
  named := by
    refine matched.named.of_rows fun table isOfSession => ?_
    rw [follows.rows]
    exact Pool.rows_apply_of_not_writesTo (spared table isOfSession) shared.pool
  rows table :=
    (Pool.rows_apply_congr (matched.rows table) statement).trans (follows.rows table).symm
  world := matched.world.trans follows.world.symm
  drawn := matched.drawn.trans follows.drawn.symm

/-- The system resolves the session of a thread. -/
theorem leads_session
    {owed : List Cleanup}
    {next : Option Session → Chain world}
    (resolver : setup.resolver = Session.resolve)
    (matched : Matches scope.token session look recording shared) :
    ∃ after,
      Leads setup (alone line shared { chain := Chain.session owed next, scope, cleanups })
          (alone line after { chain := next session, scope, cleanups }) ∧
        Matches scope.token session look recording after := by
  have named := matched.named
  unfold Session.IsNamedBy at named
  split at named
  next isMissing =>
    refine ⟨shared, leads_of_moved ?_, matched⟩
    simp [Thread.step, isMissing, Thread.goOn, named]
  next token given =>
    have yields : Yields setup line scope cleanups shared (Session.resolve token) session :=
      yields_of_finds matched.ready (fun _ => rfl) (Session.finds_resolve named)
    obtain ⟨after, leads, follows⟩ := yields { next, owed }
    have moves : Thread.step setup { chain := Chain.session owed next, scope, cleanups } shared =
        (Progress.moved { chain := (Session.resolve token).run { next, owed }, scope, cleanups },
          shared) := by
      simp [Thread.step, given, Thread.goOn, resolver]
    refine ⟨after, (leads_of_moved moves).trans leads, ?_⟩
    constructor
    case ready => exact follows.ready
    case named =>
      exact matched.named.of_rows fun table _ => follows.rows table
    case rows => exact fun table => (matched.rows table).trans (follows.rows table).symm
    case world => exact matched.world.trans follows.world.symm
    case drawn => exact matched.drawn.trans follows.drawn.symm

/-- A server follows a captured run to its end. -/
theorem endsWith_capture
    {chain : Chain world}
    (resolver : setup.resolver = Session.resolve)
    (uncancelled : scope.cancelled = none)
    (plain : chain.IsPlain)
    (alike : chain.IsAnsweredAlike (StandIn.onTables session body answer look) scope.body
      setup.taskTimeoutMillis recording)
    (matched : Matches scope.token session look recording shared) :
    EndsWith setup (alone line shared { chain, scope, cleanups })
      (chain.capture (StandIn.onTables session body answer look) recording).1.terminal
      (chain.capture (StandIn.onTables session body answer look) recording).2.state.1.rows := by
  induction chain generalizing recording shared cleanups with
  | respond terminal =>
      obtain ⟨last, leads, halted, response, pool⟩ := leads_respond
      exact ⟨last, leads, halted, response, fun table => pool ▸ (matched.rows table).symm⟩
  | session owed next inductionHypothesis =>
      obtain ⟨after, leads, matchedAfter⟩ := leads_session resolver matched
      exact (inductionHypothesis session (plain session) alike matchedAfter).of_leads leads
  | body owed next inductionHypothesis =>
      obtain ⟨arrives, alike⟩ := alike
      have reads : Thread.step setup { chain := Chain.body owed next, scope, cleanups } shared =
          (Progress.moved { chain := next body, scope, cleanups }, shared) := by
        simp [Thread.step, arrives, Thread.goOn, StandIn.onTables]
      exact (inductionHypothesis body (plain body) alike matched).of_leads (leads_of_moved reads)
  | query owed issued next inductionHypothesis =>
      obtain ⟨accepted, spared, plain⟩ := plain
      obtain ⟨after, leads, follows⟩ := leads_query matched.ready accepted
      have sameAnswer : shared.pool.ask issued = recording.state.1.ask issued :=
        Pool.ask_congr (matched.rows issued.statement.table).symm
      rw [sameAnswer] at leads
      have matchedAfter : Matches scope.token session look
          (recording.query (StandIn.onTables session body answer look) issued.statement).2 after :=
        matched.query spared follows
      exact (inductionHypothesis _ (plain _) alike matchedAfter).of_leads leads
  | task owed call next inductionHypothesis =>
      obtain ⟨⟨millis, performed, inTime⟩, alike⟩ := alike
      change call.perform (look recording.state.2) = _ at performed
      rw [matched.world] at performed
      obtain ⟨clock, leads⟩ := leads_task uncancelled performed inTime
      refine (inductionHypothesis _ (plain _) alike ?_).of_leads leads
      exact matched.of_pool rfl rfl rfl rfl matched.drawn
  | detach aside rest => exact plain.elim
  | ensure guarded cleanup inductionHypothesis =>
      exact (inductionHypothesis plain alike matched).of_leads (leads_of_moved rfl)
  | note event rest inductionHypothesis =>
      refine (inductionHypothesis plain alike ?_).of_leads (leads_of_moved rfl)
      exact matched.of_pool rfl rfl rfl matched.world matched.drawn
  | fresh next inductionHypothesis =>
      have draws : Thread.step setup { chain := Chain.fresh next, scope, cleanups } shared =
          (Progress.moved { chain := next (Uuid.drawn (recording.drawn + 1)), scope, cleanups },
            { shared with drawn := recording.drawn + 1 }) := by
        simp [Thread.step, Thread.goOn, matched.drawn]
      refine (inductionHypothesis _ (plain _) alike ?_).of_leads (leads_of_moved draws)
      exact matched.of_pool rfl rfl rfl matched.world rfl
  | observe next inductionHypothesis =>
      have looks : Thread.step setup { chain := Chain.observe next, scope, cleanups } shared =
          (Progress.moved { chain := next (look recording.state.2), scope, cleanups }, shared) := by
        simp [Thread.step, Thread.goOn, matched.world]
      exact (inductionHypothesis _ (plain _) alike matched).of_leads (leads_of_moved looks)

end Matches

/-- A chain that detaches nothing, whose statements are accepted and which spares the tables of
sessions, comes to an end on a server that has a connection and no faults in its way. If the server
gets the same from outside as the stand-ins of a captured run, it sends the terminal of that run,
and both leave the same rows in every table. -/
theorem run_start_sends_and_leaves_captured
    (files : Http.StaticFiles)
    (line : RequestLine)
    {limit : Option Nat}
    {request : Http.Request}
    {chain : Chain world}
    {session : Option Session}
    {body : Bytes}
    {answer : TaskDescription → stub → Except TaskError Answer × stub}
    {look : stub → world}
    {recording : Recording (Pool × stub)}
    (plain : chain.IsPlain)
    (faults : shared.pool.faults = [])
    (planned : shared.planned = [])
    (available : shared.pool.held < shared.pool.capacity)
    (named : Session.IsNamedBy request.sessionToken? shared.pool session)
    (alike : chain.IsAnsweredAlike (StandIn.onTables session body answer look) request.body limit
      recording)
    (rows : ∀ table, recording.state.1.rows table = shared.pool.rows table)
    (sameWorld : look recording.state.2 = shared.world)
    (drawn : recording.drawn = shared.drawn) :
    let setup : Setup world := { files, resolver := Session.resolve, taskTimeoutMillis := limit }
    let captured := chain.capture (StandIn.onTables session body answer look) recording
    let response := (Http.Response.ofTerminal files captured.1.terminal).1
    captured.1.terminal.IsSentAs files response ∧ ∃ steps, ∀ fuel, steps ≤ fuel →
      let last := (start line (Site.scope request) chain shared).run setup fuel
      last.step? setup = none ∧ last.response = some response ∧
        ∀ table, last.shared.pool.rows table = captured.2.state.1.rows table := by
  intro setup captured response
  have matched : Matches request.sessionToken? session look recording shared :=
    { ready := ⟨faults, planned, available⟩, named, rows, world := sameWorld, drawn }
  have ends : EndsWith setup (start line (Site.scope request) chain shared) captured.1.terminal
      captured.2.state.1.rows :=
    endsWith_capture rfl rfl plain alike matched
  obtain ⟨last, leads, halted, sent, left⟩ := ends
  obtain ⟨steps, enough⟩ := leads.run_eq halted
  refine ⟨Terminal.isSentAs_ofTerminal files _, steps, fun fuel isEnough => ?_⟩
  simp only [enough fuel isEnough]
  exact ⟨halted, sent, left⟩

/-- A visitor with an unknown cookie adds a line to a table, has it counted in time, and is told the
count, by the server as in the captured run. -/
theorem run_start_sends_count :
    let files : Http.StaticFiles := []
    let setup : Setup Nat :=
      { files, resolver := Session.resolve, taskTimeoutMillis := some 30 }
    let line : Query Unit :=
      { statement := Statement.insert "lines" [("text", Json.string "hello")]
        parser := fun _ => Except.ok () }
    let count : Task Nat Int :=
      Task.describe "count" "" fun seen => (Completion.after 20 (Except.ok seen), seen + 1)
    let chain : Chain Nat :=
      Chain.withSession fun session => Chain.withBody fun _ => Chain.ensure
        (Chain.queryOrFail line fun _ => Chain.awaitOrFail count "Cannot count." fun seen =>
          Chain.observe fun after =>
            Chain.write (toString session.isSome ++ toString seen ++ toString after))
        "done"
    let request : Http.Request :=
      { method := "GET", target := { path := "/", query := none }, body := some [7]
        headers := [("Cookie", Text.encode "sessionid=00000000-0000-0000-0000-000000000001")] }
    let shared : Shared Nat := { pool := { capacity := 1 }, world := 5 }
    ∃ steps, ∀ fuel, steps ≤ fuel →
      let last := (start { method := "GET", path := "/" } (Site.scope request) chain shared).run
        setup fuel
      (last.response.map Http.Response.body = some (Text.encode "false56") ∧
        ∀ table, last.shared.pool.rows table =
          if "lines" = table then [[("text", Json.string "hello")]] else []) := by
  intro files setup line count chain request shared
  let answer (_ : TaskDescription) (seen : Nat) : Except TaskError Answer × Nat :=
    (Except.ok (Answer.integer seen), seen + 1)
  let recording : Recording (Pool × Nat) := { state := (shared.pool, 5) }
  have plain : chain.IsPlain := by
    intro session bytes
    refine ⟨rfl, by decide, fun outcome => ?_⟩
    cases outcome with
    | error error => exact Chain.isPlain_failOwing [] _
    | ok _ =>
        intro outcome
        cases outcome with
        | error error => exact Chain.isPlain_failOwing [] _
        | ok seen => exact fun _ => trivial
  have alike : chain.IsAnsweredAlike (StandIn.onTables none [7] answer id) request.body (some 30)
      recording :=
    ⟨rfl, ⟨20, rfl, by simp⟩, trivial⟩
  have named : Session.IsNamedBy request.sessionToken? shared.pool none := by
    have token : request.sessionToken? = Uuid.parse? "00000000-0000-0000-0000-000000000001" := by
      decide +kernel
    rw [token]
    rfl
  obtain ⟨_, steps, enough⟩ :=
    run_start_sends_and_leaves_captured files { method := "GET", path := "/" } plain rfl rfl
      (by decide) named alike (fun _ => rfl) rfl rfl
  refine ⟨steps, fun fuel isEnough => ?_⟩
  obtain ⟨_, sent, left⟩ := enough fuel isEnough
  intro last
  refine ⟨?_, fun table => (left table).trans ?_⟩
  · rw [sent]
    decide +kernel
  · exact Pool.rows_setRows shared.pool "lines" table [[("text", Json.string "hello")]]

end System

end Serve

end Screencast
