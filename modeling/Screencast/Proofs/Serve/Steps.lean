import Screencast.Proofs.Serve.Shadow

/-!
# Steps that follow a rehearsal

Whatever a thread does next, it stays faithful to the rehearsal. There is a lemma for each kind of
step: a query takes several of them, of which only one is a step of the rehearsal, and so does the
lookup of a session. The others leave less to be done.
-/

namespace Screencast

namespace Serve

open Http

variable {stub world : Type}

namespace Shadow

variable {rehearsal : Rehearsal stub world} {files : StaticFiles} {shadow : Shadow stub world}
  {before : Shared world}

/-- The step of a thread is an advance: it goes on, and maybe detaches something, or it sends its
response. It stays quiet. -/
inductive Steps (rehearsal : Rehearsal stub world) (setup : Setup world)
    (shadow : Shadow stub world) (shared : Shared world) : Prop
  | goesOn {thread : Thread world} {asides : List (Thread world)}
      {arriving : List (Shadow stub world)}
      (left : (shadow.member.thread.step setup shared).1.threads = thread :: asides)
      (arrive : arriving.map member =
        { shadow.member with thread } :: asides.map Member.starting)
      (advances : shadow.Advances rehearsal setup.files shared arriving
        (shadow.member.thread.step setup shared).2)
      (quiet : (shadow.member.thread.step setup shared).2.IsQuiet rehearsal.mayBe)
  | ends {response : Response} {last : Shadow stub world}
      (finished : (shadow.member.thread.step setup shared).1 = Progress.finished response)
      (sends : last.member = { shadow.member with response := some response })
      (advances : shadow.Advances rehearsal setup.files shared [last]
        (shadow.member.thread.step setup shared).2)
      (quiet : (shadow.member.thread.step setup shared).2.IsQuiet rehearsal.mayBe)

variable {setup : Setup world} {shared : Shared world}

section Leads

variable {given : List (Delivery world)} {told : List Event} {opened : List Cleanup}
  {first : List Access} {count : Nat} {point : Point stub world} {thread : Thread world}

/-- A thread that takes a step of the rehearsal takes a step. -/
theorem Steps.of_leadsTo
    (faithful : shadow.IsFaithful rehearsal setup.files shared)
    (isOpen : shadow.member.response = none)
    (leads : shadow.point.LeadsTo rehearsal given told opened first count point)
    (isLess : shadow.used < count)
    (left : (shadow.member.thread.step setup shared).1.threads = [thread])
    (scope : thread.scope = shadow.member.thread.scope)
    (cleanups : thread.cleanups = opened ++ shadow.member.thread.cleanups)
    (isAhead : thread.ahead = point.chain)
    (foretold : point.IsForetold rehearsal shadow.member.thread.scope.body)
    (quiet : (shadow.member.thread.step setup shared).2.IsQuiet rehearsal.mayBe)
    (rows : ∀ table, Access.writes table ∉ first →
      (shadow.member.thread.step setup shared).2.pool.rows table = shared.pool.rows table)
    (sameRows : ∀ table, shared.pool.rows table = shadow.point.pool.rows table →
      (shadow.member.thread.step setup shared).2.pool.rows table = point.pool.rows table) :
    Steps rehearsal setup shadow shared :=
  Steps.goesOn left rfl
    (advances_of_leadsTo faithful isOpen leads isLess scope cleanups isAhead foretold rows
      sameRows)
    quiet

/-- A thread takes a step if it takes one of the rehearsal that leaves the tables alone. -/
theorem Steps.of_silent
    {outside : world}
    (faithful : shadow.IsFaithful rehearsal setup.files shared)
    (quiet : shared.IsQuiet rehearsal.mayBe)
    (isOpen : shadow.member.response = none)
    (leads : shadow.point.LeadsTo rehearsal given told opened first count point)
    (isLess : shadow.used < count)
    (left : (shadow.member.thread.step setup shared).1.threads = [thread])
    (scope : thread.scope = shadow.member.thread.scope)
    (cleanups : thread.cleanups = opened ++ shadow.member.thread.cleanups)
    (isAhead : thread.ahead = point.chain)
    (foretold : point.IsForetold rehearsal shadow.member.thread.scope.body)
    (isPossible : rehearsal.mayBe outside)
    (becomes : shared.Becomes (shadow.member.thread.step setup shared).2 shared.pool.rows outside)
    (samePool : point.pool = shadow.point.pool) :
    Steps rehearsal setup shadow shared := by
  have sameRows (table : String) :
      (shadow.member.thread.step setup shared).2.pool.rows table = shared.pool.rows table :=
    becomes.rows table
  apply Steps.of_leadsTo faithful isOpen leads isLess left scope cleanups isAhead foretold
  case quiet => exact quiet.becomes becomes isPossible
  case rows => exact fun table _ => sameRows table
  case sameRows => exact fun table same => (sameRows table).trans (samePool ▸ same)

end Leads

/-- A thread that looks up a session where its chain waits for it stays there, or has found it. -/
theorem Steps.of_finds
    {owed : List Cleanup}
    {next : Option Session → Chain world}
    {thread : Thread world}
    {most : Nat}
    (faithful : shadow.IsFaithful rehearsal setup.files shared)
    (quiet : shared.IsQuiet rehearsal.mayBe)
    (isOpen : shadow.member.response = none)
    (atSession : shadow.point.chain = Chain.session owed next)
    (left : (shadow.member.thread.step setup shared).1.threads = [thread])
    (scope : thread.scope = shadow.member.thread.scope)
    (cleanups : thread.cleanups = shadow.member.thread.cleanups)
    (finds :
      Chain.Finds Session.tables shadow.point.pool (next rehearsal.session) most thread.ahead)
    (isWithin : shadow.used + most ≤ 4)
    (stays : shared.Stays (shadow.member.thread.step setup shared).2) :
    Steps rehearsal setup shadow shared := by
  obtain ⟨member, ⟨chain, recording⟩, handed, used⟩ := shadow
  dsimp only at atSession isWithin
  subst atSession
  generalize isAhead : thread.ahead = ahead at finds
  cases finds with
  | found =>
      have isLess : used < 6 := by omega
      exact Steps.of_silent faithful quiet isOpen (Point.leadsTo_session owed next) isLess left
        scope cleanups isAhead faithful.foretold.2 quiet.world stays rfl
  | @asks _ most _ _ _ accepted isSelect ofSessions finds =>
      have isAt : thread.IsAt rehearsal.session recording.state.1 (used + 1)
          (Chain.session owed next) :=
        Thread.IsAt.lookingUp rfl isAhead accepted isSelect ofSessions finds (by omega)
      refine Steps.goesOn left rfl (advances_of_stays faithful scope cleanups isAt stays ?_ ?_)
        (quiet.becomes stays quiet.world)
      · exact fun sent isOver => absurd (isOpen.symm.trans isOver) nofun
      · have atMost := thread.stage.rank_pos_and_le.2
        have atLeast := member.thread.stage.rank_pos_and_le.1
        dsimp only at isOpen
        simp only [rank, isOpen, Point.stepCount_session]
        omega

/-- A thread that stays at its point takes a step. -/
theorem Steps.of_stays
    {thread : Thread world}
    (faithful : shadow.IsFaithful rehearsal setup.files shared)
    (quiet : shared.IsQuiet rehearsal.mayBe)
    (isOpen : shadow.member.response = none)
    (left : (shadow.member.thread.step setup shared).1.threads = [thread])
    (scope : thread.scope = shadow.member.thread.scope)
    (cleanups : thread.cleanups = shadow.member.thread.cleanups)
    (isAhead : thread.ahead = shadow.member.thread.ahead)
    (stays : shared.Stays (shadow.member.thread.step setup shared).2)
    (isLess : thread.stage.rank < shadow.member.thread.stage.rank) :
    Steps rehearsal setup shadow shared := by
  have isAt : thread.IsAt rehearsal.session shadow.point.pool shadow.used shadow.point.chain := by
    cases faithful.isAt with
    | here same noneUsed => exact Thread.IsAt.here (isAhead.trans same) noneUsed
    | lookingUp isSession asks accepted isSelect ofSessions finds isWithin =>
        exact Thread.IsAt.lookingUp isSession (isAhead.trans asks) accepted isSelect ofSessions
          finds isWithin
  refine Steps.goesOn left rfl (advances_of_stays faithful scope cleanups isAt stays ?_ ?_)
    (quiet.becomes stays quiet.world)
  · exact fun sent isOver => absurd (isOpen.symm.trans isOver) nofun
  · simp only [rank, isOpen]
    omega

/-- A query that is rejected at once fails as in the rehearsal. -/
theorem Steps.of_rejected
    {result : Type}
    {owed : List Cleanup}
    {issued : Query result}
    {next : Except QueryError result → Chain world}
    (faithful : shadow.IsFaithful rehearsal setup.files shared)
    (quiet : shared.IsQuiet rehearsal.mayBe)
    (isOpen : shadow.member.response = none)
    (atQuery : shadow.member.thread.chain = Chain.query owed issued next)
    (isIdle : shadow.member.thread.stage = Stage.idle)
    (rejected : issued.rejection ≠ none) :
    Steps rehearsal setup shadow shared := by
  obtain ⟨error, isError⟩ := Option.ne_none_iff_exists'.1 rejected
  obtain ⟨⟨source, thread, response⟩, ⟨point, recording⟩, handed, used⟩ := shadow
  obtain ⟨chain, scope, stage, cleanups⟩ := thread
  dsimp only at atQuery isIdle
  subst atQuery isIdle
  cases faithful.isAt with
  | lookingUp isSession asks accepted =>
      cases (Thread.ahead_of_isIdle rfl).symm.trans asks
      exact absurd accepted rejected
  | here same noneUsed =>
      obtain rfl : Chain.query owed issued next = point :=
        (Thread.ahead_of_isIdle rfl).symm.trans same
      obtain rfl : used = 0 := noneUsed
      have step : Thread.step setup ⟨Chain.query owed issued next, scope, Stage.idle, cleanups⟩
          shared =
          (Progress.moved ⟨next (Except.error error), scope, Stage.idle, cleanups⟩, shared) := by
        simp [Thread.step, isError, Thread.goOn]
      have isAhead : Thread.ahead ⟨next (Except.error error), scope, Stage.idle, cleanups⟩ =
          next (recording.state.1.ask issued) := by
        rw [Thread.ahead_of_isIdle rfl]
        simp [Pool.ask, Query.resolve, Query.parse, Except.bind, isError]
      have spared := faithful.foretold.1.resolve_left rejected
      have left := congrArg (·.1.threads) step
      apply Steps.of_leadsTo faithful isOpen (Point.leadsTo_query owed issued next)
        Nat.zero_lt_one left rfl rfl isAhead faithful.foretold.2
      case quiet => exact step ▸ quiet
      case rows => exact fun table _ => by rw [step]
      case sameRows =>
        intro table same
        rw [step]
        exact same.trans (spared table).symm

/-- A query of a thread comes to be answered as in the rehearsal. -/
theorem Steps.of_query
    {result : Type}
    {owed : List Cleanup}
    {issued : Query result}
    {next : Except QueryError result → Chain world}
    (faithful : shadow.IsFaithful rehearsal setup.files shared)
    (quiet : shared.IsQuiet rehearsal.mayBe)
    (isOpen : shadow.member.response = none)
    (mayGo : shadow.member.mustWait shared = false)
    (atQuery : shadow.member.thread.chain = Chain.query owed issued next) :
    Steps rehearsal setup shadow shared := by
  by_cases accepted : shadow.member.thread.stage = Stage.idle → issued.rejection = none
  case neg =>
    obtain ⟨isIdle, rejected⟩ := Classical.not_imp.1 accepted
    exact Steps.of_rejected faithful quiet isOpen atQuery isIdle rejected
  have isAvailable (waits : shadow.member.thread.stage = Stage.waiting) :
      shared.pool.isAvailable = true := by
    simpa [Member.mustWait, waits] using mayGo
  obtain ⟨chain, stage, left, isAhead, stays, isLess⟩ |
      ⟨atHead, chain, stage, left, isAhead, becomes, _⟩ :=
    Thread.comesTo_query quiet atQuery accepted isAvailable
  · exact Steps.of_stays faithful quiet isOpen left rfl rfl isAhead.symm stays isLess
  · rw [atQuery] at atHead
    cases faithful.isAt with
    | here same noneUsed =>
        obtain ⟨member, ⟨point, recording⟩, handed, used⟩ := shadow
        obtain rfl : used = 0 := noneUsed
        obtain rfl : Chain.query owed issued next = point := atHead.symm.trans same
        have sameTable : shared.pool.rows issued.statement.table =
            recording.state.1.rows issued.statement.table :=
          issued.statement.table_access ▸ faithful.rows issued.statement.access List.mem_cons_self
        have sameAhead : Thread.ahead { member.thread with chain, stage } =
            next (recording.state.1.ask issued) := by
          rw [← isAhead, Pool.ask_congr sameTable]
        apply Steps.of_leadsTo faithful isOpen (Point.leadsTo_query owed issued next)
          Nat.zero_lt_one left rfl rfl sameAhead faithful.foretold.2
        case quiet => exact quiet.becomes becomes quiet.world
        case rows =>
          intro table notWritten
          rw [becomes.rows]
          refine Pool.rows_apply_of_not_writesTo ?_ shared.pool
          rw [Bool.eq_false_iff]
          exact fun writes =>
            notWritten (Statement.access_of_writesTo writes ▸ List.mem_cons_self)
        case sameRows =>
          intro table same
          rw [becomes.rows]
          exact Pool.rows_apply_congr same issued.statement
    | @lookingUp owed _ next _ _ _ _ isSession asks accepted isSelect ofSessions finds isWithin =>
        cases atHead.symm.trans asks
        have sameTable : shared.pool.rows issued.statement.table =
            shadow.point.pool.rows issued.statement.table := by
          refine faithful.rows (Access.reads issued.statement.table) ?_
          unfold Point.accesses
          rw [isSession]
          exact List.mem_append_left _ (List.mem_map_of_mem ofSessions)
        rw [← Pool.ask_congr sameTable, isAhead] at finds
        refine Steps.of_finds faithful quiet isOpen isSession left rfl rfl finds isWithin ?_
        exact { becomes with
          rows table := (becomes.rows table).trans
            (Pool.rows_apply_of_isSelect isSelect shared.pool table) }

/-- A task that a thread waits for yields what it yields in the rehearsal. -/
theorem Steps.of_task
    {result : Type}
    {member : Member world}
    {owed : List Cleanup}
    {call : Task world result}
    {next : Except TaskError result → Chain world}
    {recording : Recording (Pool × stub)}
    {handed : List (Delivery world)}
    (faithful : IsFaithful rehearsal setup.files shared
      { member, point := { chain := Chain.task owed call next, recording }, handed })
    (quiet : shared.IsQuiet rehearsal.mayBe)
    (isOpen : member.response = none)
    (atTask : member.thread.chain = Chain.task owed call next)
    (isIdle : member.thread.stage = Stage.idle)
    (noLimit : setup.taskTimeoutMillis = none) :
    Steps rehearsal setup
      { member, point := { chain := Chain.task owed call next, recording }, handed } shared := by
  let answered := recording.task rehearsal.standIn call.description
  obtain ⟨yields, foretold⟩ := faithful.foretold
  obtain ⟨millis, outside, performed, isPossible⟩ := yields shared.world quiet.world
  have uncancelled : member.thread.scope.cancelled = none := faithful.uncancelled
  let thread : Thread world :=
    { member.thread with
      chain := Chain.task owed call next
      stage := Stage.settled (call.resolve answered.1) next }
  have isAhead : thread.ahead = next (call.resolve answered.1) := rfl
  have step : member.thread.step setup shared =
      (if millis = 0 then Progress.yielded thread
        else Progress.asleep (shared.clock + millis) thread,
        { shared with world := outside }) := by
    unfold Thread.step
    simp only [atTask, isIdle, Thread.await, uncancelled, Option.any_none, Bool.false_eq_true, if_false,
      performed, noLimit, Completion.settle, Option.map_none]
    split <;> rfl
  have left : (member.thread.step setup shared).1.threads = [thread] := by
    rw [step]
    dsimp only
    split <;> rfl
  have becomes :
      shared.Becomes (member.thread.step setup shared).2 shared.pool.rows outside := by
    rw [step]
    exact ⟨rfl, rfl, rfl, fun _ => rfl, rfl⟩
  exact Steps.of_silent faithful quiet isOpen (Point.leadsTo_task owed call next) Nat.zero_lt_one
    left rfl rfl isAhead foretold isPossible becomes rfl

/-- A thread whose chain waits for the session takes a step: without a cookie it goes on, and with
one it begins to look the session up. -/
theorem Steps.of_session
    {member : Member world}
    {owed : List Cleanup}
    {next : Option Session → Chain world}
    {recording : Recording (Pool × stub)}
    {handed : List (Delivery world)}
    (faithful : IsFaithful rehearsal setup.files shared
      { member, point := { chain := Chain.session owed next, recording }, handed })
    (quiet : shared.IsQuiet rehearsal.mayBe)
    (isOpen : member.response = none)
    (atSession : member.thread.chain = Chain.session owed next)
    (resolver : setup.resolver = Session.resolve) :
    Steps rehearsal setup
      { member, point := { chain := Chain.session owed next, recording }, handed } shared := by
  have named := faithful.foretold.1
  have token : member.thread.scope.token = rehearsal.token := faithful.token
  unfold Session.IsNamedBy at named
  rw [← token] at named
  have goesOn {chain : Chain world}
      (step : member.thread.step setup shared = (member.thread.goOn chain, shared))
      (finds :
        Chain.Finds Session.tables recording.state.1 (next rehearsal.session) (4 + 0) chain) :
      Steps rehearsal setup
        { member, point := { chain := Chain.session owed next, recording }, handed } shared := by
    have left := congrArg (·.1.threads) step
    have isWithin : 0 + (4 + 0) ≤ 4 := Nat.le_refl 4
    refine Steps.of_finds faithful quiet isOpen rfl left rfl rfl ?_ isWithin ?_
    · rw [Thread.ahead_of_isIdle rfl]
      exact finds
    · exact step ▸ Shared.Stays.refl shared
  cases given : member.thread.scope.token with
  | none =>
      simp only [given] at named
      have sameChain : next rehearsal.session = next none := congrArg next named
      refine goesOn ?_ (by rw [sameChain]; exact Chain.Finds.found 4)
      simp [Thread.step, atSession, given]
  | some token =>
      simp only [given] at named
      have finds : Chain.Finds Session.tables recording.state.1 (next rehearsal.session) (4 + 0)
          ((Session.resolve token).run { next, owed }) :=
        (Session.finds_resolve named).run (Chain.Finds.found 0)
      refine goesOn ?_ finds
      simp [Thread.step, atSession, given, resolver]

/-- Elsewhere than at a query, the chain of a thread with nothing at work is that of its point. -/
theorem IsFaithful.at_point
    (faithful : shadow.IsFaithful rehearsal files before)
    (nothingAtWork : shadow.member.thread.stage = Stage.idle)
    (isElsewhere : shadow.member.thread.isAtQuery = false) :
    shadow.member.thread.chain = shadow.point.chain ∧ shadow.used = 0 := by
  have isAhead : shadow.member.thread.ahead = shadow.member.thread.chain :=
    Thread.ahead_of_isIdle (by rw [nothingAtWork]; rfl)
  cases faithful.isAt with
  | here same noneUsed => exact ⟨isAhead.symm.trans same, noneUsed⟩
  | lookingUp isSession asks =>
      unfold Thread.isAtQuery at isElsewhere
      rw [isAhead.symm.trans asks] at isElsewhere
      cases isElsewhere

/-- Every step of a thread that is faithful to the rehearsal is an advance. -/
theorem IsFaithful.steps
    (faithful : shadow.IsFaithful rehearsal setup.files shared)
    (quiet : shared.IsQuiet rehearsal.mayBe)
    (isOpen : shadow.member.response = none)
    (mayGo : shadow.member.mustWait shared = false)
    (orderly : shadow.member.thread.IsOrderly)
    (resolver : setup.resolver = Session.resolve)
    (noLimit : setup.taskTimeoutMillis = none) :
    Steps rehearsal setup shadow shared := by
  obtain ⟨⟨source, ⟨chain, scope, stage, cleanups⟩, response⟩, ⟨point, recording⟩, handed,
    used⟩ := shadow
  have atPoint (isElsewhere : Thread.isAtCall ⟨chain, scope, stage, cleanups⟩ = false)
      (notAtQuery : Thread.isAtQuery ⟨chain, scope, stage, cleanups⟩ = false) :
      stage = Stage.idle ∧ chain = point ∧ used = 0 :=
    have nothingAtWork := orderly.stage_eq_idle isElsewhere
    ⟨nothingAtWork, faithful.at_point nothingAtWork notAtQuery⟩
  have foretold := faithful.foretold
  cases chain with
  | query owed issued next => exact Steps.of_query faithful quiet isOpen mayGo rfl
  | respond terminal =>
      obtain ⟨rfl, rfl, rfl⟩ := atPoint rfl rfl
      have stays : shared.Stays
          (Thread.step setup ⟨Chain.respond terminal, scope, Stage.idle, cleanups⟩ shared).2 :=
        (Shared.stays_foldl_note shared Event.logged _).trans
          (Shared.stays_foldl_note _ Event.cleaned cleanups)
      refine Steps.ends rfl rfl (advances_of_stays faithful rfl rfl faithful.isAt stays ?_ ?_)
        (quiet.becomes stays quiet.world)
      · rintro sent ⟨⟩
        exact ⟨terminal, rfl, rfl⟩
      · dsimp only at isOpen
        simp only [rank, isOpen]
        exact Nat.lt_add_left _ (Stage.rank_pos_and_le _).1
  | session owed next =>
      obtain ⟨rfl, rfl, rfl⟩ := atPoint rfl rfl
      exact Steps.of_session faithful quiet isOpen rfl resolver
  | body owed next =>
      obtain ⟨rfl, rfl, rfl⟩ := atPoint rfl rfl
      have arrives : scope.body = some rehearsal.body := foretold.1
      have step : Thread.step setup ⟨Chain.body owed next, scope, Stage.idle, cleanups⟩ shared =
          (Progress.moved ⟨next rehearsal.body, scope, Stage.idle, cleanups⟩, shared) := by
        simp [Thread.step, arrives, Thread.goOn]
      have left := congrArg (·.1.threads) step
      exact Steps.of_silent faithful quiet isOpen (Point.leadsTo_body owed next) Nat.zero_lt_one
        left rfl rfl (Thread.ahead_of_isIdle rfl) foretold.2 quiet.world
        (step ▸ Shared.Stays.refl shared) rfl
  | task owed call next =>
      obtain rfl | ⟨outcome, rfl⟩ := orderly.stage_of_task rfl
      · obtain ⟨rfl, rfl⟩ : Chain.task owed call next = point ∧ used = 0 :=
          faithful.at_point rfl rfl
        exact Steps.of_task faithful quiet isOpen rfl rfl noLimit
      · exact Steps.of_stays faithful quiet isOpen rfl rfl rfl (Thread.ahead_of_isIdle rfl)
          (Shared.Stays.refl shared) (Nat.lt_succ_self 3)
  | detach aside rest =>
      obtain ⟨rfl, rfl, rfl⟩ := atPoint rfl rfl
      exact Steps.goesOn rfl rfl (advances_of_detach faithful isOpen rfl) quiet
  | ensure guarded cleanup =>
      obtain ⟨rfl, rfl, rfl⟩ := atPoint rfl rfl
      exact Steps.of_silent faithful quiet isOpen (Point.leadsTo_ensure guarded cleanup)
        Nat.zero_lt_one rfl rfl rfl (Thread.ahead_of_isIdle rfl) foretold quiet.world
        (Shared.Stays.refl shared) rfl
  | note event rest =>
      obtain ⟨rfl, rfl, rfl⟩ := atPoint rfl rfl
      exact Steps.of_silent faithful quiet isOpen (Point.leadsTo_note event rest)
        Nat.zero_lt_one rfl rfl rfl (Thread.ahead_of_isIdle rfl) foretold quiet.world
        (Shared.stays_note shared event.served) rfl
  | fresh next =>
      obtain ⟨rfl, rfl, rfl⟩ := atPoint rfl rfl
      exact foretold.elim
  | observe next =>
      obtain ⟨rfl, rfl, rfl⟩ := atPoint rfl rfl
      have isAhead : Thread.ahead ⟨next shared.world, scope, Stage.idle, cleanups⟩ =
          next (rehearsal.standIn.world recording.state) :=
        (Thread.ahead_of_isIdle rfl).trans (foretold.1 shared.world quiet.world)
      exact Steps.of_silent faithful quiet isOpen (Point.leadsTo_observe next) Nat.zero_lt_one
        rfl rfl rfl isAhead foretold.2 quiet.world (Shared.Stays.refl shared) rfl

end Shadow

end Serve

end Screencast
