import Mathlib.Algebra.GroupWithZero.Nat
import Screencast.Proofs.Site.GiftOnRecord

/-!
# Deliveries during which queries fail

The billing provider delivers a notice again if it was not answered well. The mail about a gift is
handed to the mailer before it is known whether the gift could be written, so that every delivery in
which this fails sends a mail, and so does the one in which the gift becomes active.
-/

namespace Screencast

namespace Site

open Pool

/-! ## What is counted -/

/-- The number of mails that a chain and its detached chains hand to the mailer. -/
def mailCount (outcome : Outcome) : Nat := outcome.allTasks.countP isMail

/-- The number of times that a chain or its detached chains fail to write a gift. -/
def failedWrites (outcome : Outcome) : Nat :=
  outcome.failedQueries.countP fun statement => statement.writesTo "gifts"

theorem mailCount_after (step : Resolved) (outcome : Outcome) :
    mailCount (outcome.after step) = step.tasks.countP isMail + mailCount outcome := by
  rw [mailCount, Outcome.allTasks_after, List.countP_append, mailCount]

theorem failedWrites_after (step : Resolved) (outcome : Outcome) :
    failedWrites (outcome.after step) =
      (step.failures.countP fun statement => statement.writesTo "gifts") +
        failedWrites outcome := by
  rw [failedWrites, Outcome.failedQueries_after, List.countP_append, failedWrites]

/-! ## Runs with failures -/

variable {session : Option Session} {bytes : Bytes} {rows : List Row}
  {post : Nat → Nat → List Row → Prop}

/-- Whichever queries fail, a run of a chain by stubs that have the given gifts sends a number of
mails, fails to write a gift a number of times, and leaves gifts that meet a condition. -/
def Ensures (session : Option Session) (bytes : Bytes) (chain : Chain World) (rows : List Row)
    (post : Nat → Nat → List Row → Prop) : Prop :=
  ∀ recording : Recording (Stubs World), recording.state.pool.rows "gifts" = rows →
    post (mailCount (chain.capture (Stubs.standIn session bytes) recording).1)
      (failedWrites (chain.capture (Stubs.standIn session bytes) recording).1)
      ((chain.capture (Stubs.standIn session bytes) recording).2.state.pool.rows "gifts")

namespace Ensures

/-- A chain that spares the gifts does nothing that counts. -/
theorem of_sparesGifts
    {chain : Chain World}
    (spares : SparesGifts chain)
    (meets : post 0 0 rows) :
    Ensures session bytes chain rows post := by
  intro recording same
  have keptByQuery : ∀ statement : Statement, statement.table ≠ "gifts" →
      ∀ stubs : Stubs World, stubs.pool.rows "gifts" = rows →
        ((Stubs.standIn session bytes).query statement stubs).2.pool.rows "gifts" = rows := by
    intro statement isSpared stubs kept
    change (Stubs.query statement stubs).2.pool.rows "gifts" = rows
    rcases Stubs.query_cases statement stubs with
      ⟨_, left, isLeft, unchanged⟩ | ⟨left, isLeft, applied⟩
    · rw [isLeft, unchanged, kept]
    · rw [isLeft, applied, rows_apply_of_not_writesTo (Statement.writesTo_of_table_ne isSpared),
        kept]
  have keptByTask : ∀ description, isMail description = false →
      ∀ stubs : Stubs World, stubs.pool.rows "gifts" = rows →
        ((Stubs.standIn session bytes).task description stubs).2.pool.rows "gifts" = rows := by
    intro description _ stubs kept
    exact (congrArg (fun pool => pool.rows "gifts") (Stubs.pool_task description stubs)).trans kept
  obtain ⟨kept, noMails, noWrites⟩ := spares.capture keptByQuery keptByTask same
  have mails : mailCount (chain.capture (Stubs.standIn session bytes) recording).1 = 0 :=
    List.countP_eq_zero.2 fun task issued => Bool.eq_false_iff.1 (noMails task issued)
  have failed : failedWrites (chain.capture (Stubs.standIn session bytes) recording).1 = 0 :=
    List.countP_eq_zero.2 fun statement isFailed =>
      Bool.eq_false_iff.1 (Statement.writesTo_of_table_ne (noWrites statement isFailed))
  rw [mails, failed, kept]
  exact meets

theorem respond
    (terminal : Terminal)
    (meets : post 0 0 rows) :
    Ensures session bytes (Chain.respond terminal) rows post :=
  of_sparesGifts (Chain.IsWithin.respond terminal) meets

/-- A note does nothing that counts. -/
theorem note
    {event : Event}
    {rest : Chain World}
    (ensures : Ensures session bytes rest rows post) :
    Ensures session bytes (Chain.note event rest) rows post := by
  intro recording same
  exact ensures (recording.note event) same

theorem observe
    {next : World → Chain World}
    (ensures : ∀ world, Ensures session bytes (next world) rows post) :
    Ensures session bytes (Chain.observe next) rows post := by
  intro recording same
  exact ensures recording.state.world recording same

/-- The body is handed on. -/
theorem body
    {owed : List Cleanup}
    {next : Bytes → Chain World}
    (ensures : Ensures session bytes (next bytes) rows post) :
    Ensures session bytes (Chain.body owed next) rows post := by
  intro recording same
  exact ensures recording same

/-- A query fails, which counts if it is to write a gift, or is answered from the tables. -/
theorem query
    {result : Type}
    {owed : List Cleanup}
    {issued : Query result}
    {next : Except QueryError result → Chain World}
    (fails : ∀ error, Ensures session bytes (next (Except.error error)) rows
      fun mails failed left => post mails ((issued.statement.writesTo "gifts").toNat + failed) left)
    (succeeds : ∀ pool : Pool, pool.rows "gifts" = rows →
      Ensures session bytes (next (pool.ask issued))
        ((pool.apply issued.statement).2.rows "gifts") post) :
    Ensures session bytes (Chain.query owed issued next) rows post := by
  intro recording same
  rcases Stubs.query_cases issued.statement recording.state with
    ⟨error, left, isLeft, unchanged⟩ | ⟨left, isLeft, applied⟩
  · have answered : recording.query (Stubs.standIn session bytes) issued.statement =
        (Except.error error,
          { recording.note (Event.queried issued.statement) with state := left }) := by
      simp only [Recording.query, Stubs.standIn, Recording.note, isLeft]
    have counted : [issued.statement].countP (fun statement => statement.writesTo "gifts") =
        (issued.statement.writesTo "gifts").toNat := by
      cases writes : issued.statement.writesTo "gifts" <;> simp [writes]
    have sameLeft : left.pool.rows "gifts" = rows := by rw [unchanged, same]
    have ensured := fails error
      { recording.note (Event.queried issued.statement) with state := left } sameLeft
    simp only [Chain.capture, answered, mailCount_after, failedWrites_after]
    rw [Except.toBool, Resolved.tasks_query, List.countP_nil, Nat.zero_add,
      Resolved.failures_query_false, counted]
    exact ensured
  · have answered : recording.query (Stubs.standIn session bytes) issued.statement =
        (Except.ok (recording.state.pool.apply issued.statement).1,
          { recording.note (Event.queried issued.statement) with state := left }) := by
      simp only [Recording.query, Stubs.standIn, Recording.note, isLeft]
    have sameLeft : left.pool.rows "gifts" =
        (recording.state.pool.apply issued.statement).2.rows "gifts" := by rw [applied]
    have ensured := succeeds recording.state.pool same
      { recording.note (Event.queried issued.statement) with state := left } sameLeft
    simp only [Chain.capture, answered, mailCount_after, failedWrites_after]
    rw [Except.toBool, Resolved.tasks_query, List.countP_nil, Nat.zero_add,
      Resolved.failures_query_true, List.countP_nil, Nat.zero_add]
    exact ensured

/-- A task counts if it hands a mail to the mailer. -/
theorem task
    {result : Type}
    {owed : List Cleanup}
    {call : Task World result}
    {next : Except TaskError result → Chain World}
    (ensures : ∀ outcome, Ensures session bytes (next outcome) rows
      fun mails failed left => post ((isMail call.description).toNat + mails) failed left) :
    Ensures session bytes (Chain.task owed call next) rows post := by
  intro recording same
  have counted : [call.description].countP isMail = (isMail call.description).toNat := by
    cases isSent : isMail call.description <;> simp [isSent]
  have sameLeft : (Stubs.task call.description recording.state).2.pool.rows "gifts" = rows := by
    rw [Stubs.pool_task, same]
  have ensured := ensures (call.resolve (Stubs.task call.description recording.state).1)
    (recording.task (Stubs.standIn session bytes) call.description).2 sameLeft
  simp only [Chain.capture, mailCount_after, failedWrites_after]
  rw [Resolved.tasks_task, counted, Resolved.failures_task, List.countP_nil, Nat.zero_add]
  exact ensured

/-- A detached chain is run before the rest. -/
theorem detach
    {aside rest : Chain World}
    (ensures : Ensures session bytes aside rows fun mails failed between =>
      Ensures session bytes rest between fun more others left =>
        post (mails + more) (failed + others) left) :
    Ensures session bytes (Chain.detach aside rest) rows post := by
  intro recording same
  have ensured := ensures recording same
    (aside.capture (Stubs.standIn session bytes) recording).2 rfl
  simp only [Chain.capture, mailCount_after, failedWrites_after]
  exact ensured

end Ensures

/-! ## One delivery -/

variable {uuid : String} {gift : Stored Gift} {notice : SubscriptionNotice}

/-- What a delivery makes of the gift on record: apart from one mail for each time that the gift
could not be written, a mail is sent exactly if the gift becomes active. -/
def TellsOnce (uuid : String) (gift : Stored Gift) (mails failed : Nat) (left : List Row) : Prop :=
  ∃ after told, IsOnRecord left uuid after ∧ after.id = gift.id ∧ mails = failed + told ∧
    IsMailedOnce (some gift.data.activated) (some after.data.activated) told

theorem tellsOnce_refl (onRecord : IsOnRecord rows uuid gift) : TellsOnce uuid gift 0 0 rows :=
  ⟨gift, 0, onRecord, rfl, rfl, Or.inl ⟨rfl, rfl⟩⟩

/-- What two deliveries make of the gift on record. -/
theorem TellsOnce.trans
    {mails failed more others : Nat}
    {between left : List Row}
    (first : TellsOnce uuid gift mails failed between)
    (second : ∀ after, IsOnRecord between uuid after → TellsOnce uuid after more others left) :
    TellsOnce uuid gift (mails + more) (failed + others) left := by
  obtain ⟨after, told, onRecord, sameId, counted, once⟩ := first
  obtain ⟨last, toldThen, lastOnRecord, lastId, countedThen, onceThen⟩ := second after onRecord
  refine ⟨last, told + toldThen, lastOnRecord, lastId.trans sameId, ?_, once.trans onceThen⟩
  omega

theorem ensures_notify (mail : Email) (meets : post 1 0 rows) :
    Ensures session bytes (notify mail) rows post := by
  refine Ensures.task fun outcome => ?_
  cases outcome with
  | ok => exact Ensures.respond _ meets
  | error => exact Ensures.of_sparesGifts (Chain.isWithin_logFailure _ _) meets

/-- Writing a gift fails, or changes the gifts. -/
theorem ensures_saveGift
    (fails : post 0 1 rows)
    (succeeds : ∀ pool : Pool, pool.rows "gifts" = rows →
      post 0 0 ((pool.apply gift.update.statement).2.rows "gifts")) :
    Ensures session bytes (saveGift gift) rows post := by
  have writes : gift.update.statement.writesTo "gifts" = true := writesTo_table_update
  refine Ensures.query (fun error => ?_) fun pool same => ?_
  · rw [writes]
    exact Ensures.of_sparesGifts (Chain.isWithin_fail _) fails
  · split
    next => exact Ensures.respond _ (succeeds pool same)
    next => exact Ensures.of_sparesGifts (Chain.isWithin_fail _) (succeeds pool same)

/-- A notice that a gift is active makes an inactive gift active with a mail, which is sent also if
the gift cannot be written. -/
theorem ensures_changeGift
    (catalog : Catalog)
    (onRecord : IsOnRecord rows uuid gift)
    (isActive : notice.state = "active") :
    Ensures session bytes (changeGift catalog notice gift) rows (TellsOnce uuid gift) := by
  unfold changeGift
  cases wasActivated : gift.data.activated with
  | true =>
      have isNothing : giftChange gift.data notice = GiftChange.nothing := by
        simp [giftChange, isActive, wasActivated]
      rw [isNothing]
      exact Ensures.respond _ (tellsOnce_refl onRecord)
  | false =>
      have isActivated : giftChange gift.data notice = GiftChange.activate :=
        giftChange_eq_activate_iff.2 ⟨isActive, wasActivated⟩
      rw [isActivated]
      refine Ensures.detach (ensures_notify _ (ensures_saveGift ?fails fun pool same => ?succeeds))
      case fails => exact ⟨gift, 0, onRecord, rfl, rfl, Or.inl ⟨rfl, rfl⟩⟩
      case succeeds =>
        subst same
        refine ⟨_, 1, onRecord.write ⟨rfl, ?_, ?_⟩, rfl, rfl, Or.inr ⟨rfl, ?_, rfl⟩⟩
        · exact onRecord.isVersion.subscribed
        · exact onRecord.isVersion.readable
        · rw [wasActivated]

/-- Whichever queries fail while a notice is taken in that a gift is active, the mails are one for
each time that the gift could not be written, and one if the gift becomes active. -/
theorem ensures_billingNotice
    (isAbout : about? bytes = some notice)
    (onRecord : IsOnRecord rows notice.uuid gift)
    (isActive : notice.state = "active") :
    Ensures session bytes billingNotice rows (TellsOnce notice.uuid gift) := by
  obtain ⟨payload, isRead, isGift⟩ := Option.bind_eq_some_iff.1 isAbout
  refine Ensures.body ?_
  rw [isRead]
  change Ensures session bytes
    (Chain.besides (syncStatus payload.accountCode) (updateGift payload.subscription)) rows _
  rw [updateGift, isGift]
  refine Ensures.observe fun world => Ensures.detach ?_
  refine Ensures.of_sparesGifts (sparesGifts_syncStatus payload.accountCode) ?_
  simp only [Nat.zero_add]
  refine Ensures.query (fun error => ?_) fun pool same => ?_
  · exact Ensures.of_sparesGifts (Chain.isWithin_fail _) (tellsOnce_refl onRecord)
  · subst same
    rw [onRecord.ask_eq, Pool.rows_apply_of_isSelect rfl]
    exact ensures_changeGift world.catalog onRecord isActive

/-! ## Deliveries one after another -/

/-- A delivery of a notice to stubs: who is signed in, what was sent, what answers the tasks, and
which queries fail. -/
structure Attempt where
  session : Option Session
  body : Bytes
  world : World
  answers : Script (Except TaskError Answer)
  planned : List (Option QueryError)

variable (site : Site)

/-- Deliver a notice while queries fail, and run the chain that the site has for it. -/
def attempt (attempt : Attempt) (pool : Pool) : Outcome × Pool :=
  let (outcome, recording) :=
    (site.dispatch (RequestHead.ofRoute Route.recurlyWebhook)).capture
      (Stubs.standIn attempt.session attempt.body)
      { state :=
          { pool, world := attempt.world, answers := attempt.answers, planned := attempt.planned } }
  (outcome, recording.state.pool)

/-- Deliver notices one after another. -/
def attemptAll : List Attempt → Pool → List Outcome × Pool
  | [], pool => ([], pool)
  | first :: rest, pool =>
    let (outcome, between) := site.attempt first pool
    let (outcomes, left) := attemptAll rest between
    (outcome :: outcomes, left)

/-- The number of mails that are sent in runs. -/
def mailCountAll (outcomes : List Outcome) : Nat := (outcomes.map mailCount).sum

/-- The number of times that gifts could not be written in runs. -/
def failedWritesAll (outcomes : List Outcome) : Nat := (outcomes.map failedWrites).sum

/-- What a delivery of the notice that a gift is active makes of the gift. -/
theorem tellsOnce_attempt
    {first : Attempt}
    {pool : Pool}
    (isAbout : about? first.body = some notice)
    (onRecord : IsOnRecord (pool.rows "gifts") notice.uuid gift)
    (isActive : notice.state = "active") :
    TellsOnce notice.uuid gift (mailCount (site.attempt first pool).1)
      (failedWrites (site.attempt first pool).1) ((site.attempt first pool).2.rows "gifts") := by
  rw [attempt, dispatch_recurlyWebhook]
  exact ensures_billingNotice isAbout onRecord isActive _ rfl

/-- What holds of one delivery holds of deliveries one after another. -/
theorem tellsOnce_attemptAll
    {attempts : List Attempt}
    {pool : Pool}
    (areActive : ∀ attempt ∈ attempts, ∃ notice, about? attempt.body = some notice ∧
      notice.uuid = uuid ∧ notice.state = "active")
    (onRecord : IsOnRecord (pool.rows "gifts") uuid gift) :
    TellsOnce uuid gift (mailCountAll (site.attemptAll attempts pool).1)
      (failedWritesAll (site.attemptAll attempts pool).1)
      ((site.attemptAll attempts pool).2.rows "gifts") := by
  induction attempts generalizing pool gift with
  | nil => exact tellsOnce_refl onRecord
  | cons first rest inductionHypothesis =>
      obtain ⟨⟨notice, isAbout, rfl, isActive⟩, restActive⟩ := List.forall_mem_cons.1 areActive
      refine (tellsOnce_attempt site isAbout onRecord isActive).trans fun after afterOnRecord => ?_
      exact inductionHypothesis restActive afterOnRecord

/-- Over deliveries of the notice that a gift is active, one mail is sent for each time that the
gift could not be written, and one if the gift becomes active. If no write of the gift fails, one
mail is sent at most, whichever other queries fail. -/
theorem mailCountAll_attemptAll
    (site : Site)
    {start : Pool}
    (keyed : Pool.IsKeyed (start.rows "gifts"))
    (isFound : start.found? Gift "subscription_id" uuid = some gift)
    {attempts : List Attempt}
    (areActive : ∀ attempt ∈ attempts, ∃ notice, about? attempt.body = some notice ∧
      notice.uuid = uuid ∧ notice.state = "active") :
    let outcomes := (site.attemptAll attempts start).1
    let left := (site.attemptAll attempts start).2
    mailCountAll outcomes =
        failedWritesAll outcomes +
          (if gift.data.activated = false ∧ activated? gift.id (left.rows "gifts") = some true then 1
          else 0) ∧
      (gift.data.activated = true → activated? gift.id (left.rows "gifts") = some true) ∧
      (failedWritesAll outcomes = 0 → mailCountAll outcomes ≤ 1) := by
  have onRecord : IsOnRecord (start.rows "gifts") uuid gift :=
    ⟨keyed, (found?_eq_some_iff start).1 isFound⟩
  obtain ⟨after, told, afterOnRecord, sameId, counted, once⟩ :=
    tellsOnce_attemptAll site areActive onRecord
  have isAfter := sameId ▸ afterOnRecord.activated?_eq
  have toldOnce := once.eq_ite
  simp only [Option.some.injEq] at toldOnce
  intro outcomes left
  refine ⟨?_, fun wasActivated => ?_, fun noneFailed => ?_⟩
  · simp only [outcomes, left, isAfter, Option.some.injEq]
    rw [counted, toldOnce]
  · rw [isAfter]
    exact once.eq_some_true (congrArg some wasActivated)
  · rw [counted, noneFailed, toldOnce]
    split <;> omega

/-- A gift that could not be looked up during the first delivery is told of by one mail at most
during the second. -/
theorem mailCountAll_attemptAll_of_failing_lookup :
    let row : Row :=
      [("activated", Json.bool false), ("giftee_email", Json.string "bo@example.com"),
        ("giftee_name", Json.string "Bo"), ("id", Row.ofUuid (Uuid.drawn 1)),
        ("message", Json.string "Enjoy!"), ("plan_code", Json.string "gift-3-months"),
        ("send_at", Json.string "2024-06-01T09:00:00Z"),
        ("subscription_id", Json.string "sub-1")]
    let gift : Stored Gift :=
      { id := Uuid.drawn 1
        data :=
          { gifterEmail := none, gifterName := none, gifteeEmail := "bo@example.com",
            gifteeName := "Bo", sendAt := Timestamp.ofUnix 1717232400 0, message := "Enjoy!",
            subscriptionId := some "sub-1", activated := false, planCode := "gift-3-months" } }
    let start : Pool := { tables := [("gifts", [row])] }
    let attempt (planned : List (Option QueryError)) : Attempt :=
      { session := none
        body :=
          Text.encode
            "[[\"ana\"],[\"sub-1\",[\"gift-3-months\"],\"active\",\"2024-06-01T09:00:00Z\"]]"
        world := { catalog := Catalog.empty, source := Except.ok Catalog.empty }
        answers := [("billing.subscription_status", [Except.ok (Answer.status none)])]
        planned }
    let attempts := [attempt [some (QueryError.acquire "no connection")], attempt []]
    let site : Site := { now := default }
    Pool.IsKeyed (start.rows "gifts") ∧
      start.found? Gift "subscription_id" "sub-1" = some gift ∧
      (∀ attempt ∈ attempts, ∃ notice, about? attempt.body = some notice ∧
        notice.uuid = "sub-1" ∧ notice.state = "active") ∧
      mailCountAll (site.attemptAll attempts start).1 ≤ 1 := by
  intro row gift start attempt attempts site
  have hasId : row.find? "id" = some (Row.ofUuid (Uuid.drawn 1)) := rfl
  have keyed : Pool.IsKeyed (start.rows "gifts") := Pool.isKeyed_singleton hasId
  have isFound : start.found? Gift "subscription_id" "sub-1" = some gift := by decide +kernel
  have isRead : (about? (attempt []).body).map (fun notice => (notice.uuid, notice.state)) =
      some ("sub-1", "active") := by decide +kernel
  have isActive : ∃ notice, about? (attempt []).body = some notice ∧
      notice.uuid = "sub-1" ∧ notice.state = "active" := by
    obtain ⟨notice, isAbout, isNamed⟩ := Option.map_eq_some_iff.1 isRead
    exact ⟨notice, isAbout, congrArg Prod.fst isNamed, congrArg Prod.snd isNamed⟩
  have areActive : ∀ attempt ∈ attempts, ∃ notice, about? attempt.body = some notice ∧
      notice.uuid = "sub-1" ∧ notice.state = "active" :=
    List.forall_mem_cons.2 ⟨isActive, List.forall_mem_singleton.2 isActive⟩
  have noneFailed : failedWritesAll (site.attemptAll attempts start).1 = 0 := by decide +kernel
  obtain ⟨_, _, once⟩ := mailCountAll_attemptAll site keyed isFound areActive
  exact ⟨keyed, isFound, areActive, once noneFailed⟩

/-- A delivery that fails to write a gift, and the same delivery once more, send two mails about the
gift. -/
theorem mailCountAll_of_failing_write :
    let row : Row :=
      [("activated", Json.bool false), ("giftee_email", Json.string "bo@example.com"),
        ("giftee_name", Json.string "Bo"), ("id", Row.ofUuid (Uuid.drawn 1)),
        ("message", Json.string "Enjoy!"), ("plan_code", Json.string "gift-3-months"),
        ("send_at", Json.string "2024-06-01T09:00:00Z"),
        ("subscription_id", Json.string "sub-1")]
    let start : Pool := { tables := [("gifts", [row])] }
    let attempt (planned : List (Option QueryError)) : Attempt :=
      { session := none
        body :=
          Text.encode
            "[[\"ana\"],[\"sub-1\",[\"gift-3-months\"],\"active\",\"2024-06-01T09:00:00Z\"]]"
        world := { catalog := Catalog.empty, source := Except.ok Catalog.empty }
        answers := [("billing.subscription_status", [Except.ok (Answer.status none)]),
          ("mailer.send", [Except.ok Answer.unit])]
        planned }
    let attempts := [attempt [none, some (QueryError.execute "stubbed")], attempt []]
    let site : Site := { now := default }
    activated? (Uuid.drawn 1) (start.rows "gifts") = some false ∧
      (∀ attempt ∈ attempts,
        (about? attempt.body).map (fun notice => (notice.uuid, notice.state)) =
          some ("sub-1", "active")) ∧
      mailCountAll (site.attemptAll attempts start).1 = 2 := by
  intro row start attempt attempts site
  refine ⟨?_, ?_, ?_⟩
  · decide +kernel
  · decide +kernel
  · decide +kernel

end Site

end Screencast
