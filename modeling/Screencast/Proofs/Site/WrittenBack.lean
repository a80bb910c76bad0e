import Screencast.Proofs.Account.Faithful
import Screencast.Proofs.Effect.OnStubs
import Screencast.Proofs.Site.Attempts
import Screencast.Proofs.Store.Faithful

/-!
# What a delivery writes back

A notice makes the site read a user and a gift, change a few of their values, and write both back as
a whole. Whichever queries fail, at most these two rows differ afterwards, and they differ in these
values alone.
-/

namespace Screencast

open Pool

namespace Site

/-! ## What a run writes -/

section

variable {arrival : Arrival} {stubs : Stubs World} {drawn : Nat} {around : Surroundings World}

/-- All rows are left as they were, or as if a record was written. -/
def NotesAtMost {record : Type} [Record record] (pool : Pool) (revised : Option (Stored record))
    (left : Pool) : Prop :=
  (∀ table, left.rows table = pool.rows table) ∨
    ∀ table, left.rows table = (pool.noted revised).rows table

namespace NotesAtMost

variable {record : Type} [Record record] {pool between left : Pool}
  {revised : Option (Stored record)}

theorem unchanged (same : left = pool) : NotesAtMost pool revised left :=
  Or.inl fun _ => same ▸ rfl

theorem written (same : left = pool.noted revised) : NotesAtMost pool revised left :=
  Or.inr fun _ => same ▸ rfl

theorem of_rows
    (noted : NotesAtMost between revised left)
    (same : ∀ table, between.rows table = pool.rows table) :
    NotesAtMost pool revised left :=
  noted.imp (fun unchanged table => (unchanged table).trans (same table)) fun written table =>
    (written table).trans (rows_noted_congr (same table) revised)

/-- Writing a record leaves the other tables alone. -/
theorem rows_eq
    {table : String}
    (noted : NotesAtMost pool revised left)
    (isOther : Record.table record ≠ table) :
    left.rows table = pool.rows table := by
  rcases noted with unchanged | written
  · exact unchanged table
  · rw [written, rows_noted_of_ne isOther]

end NotesAtMost

/-- Noting a status down writes the user at most. -/
theorem comesTo_applyStatus (user : Stored User) (status : SubscriptionStatus) :
    arrival.ComesTo (applyStatus user status) stubs drawn fun _ =>
      NotesAtMost stubs.pool (some (withStatus user status)) := by
  refine Arrival.ComesTo.query (fun error left unchanged => ?_) fun left written => ?_
  · exact Arrival.ComesTo.logFailure (NotesAtMost.unchanged unchanged)
  · split
    next => exact Arrival.ComesTo.respond (NotesAtMost.written written)
    next => exact Arrival.ComesTo.logFailure (NotesAtMost.written written)

/-- Looking for the user of an account and noting a status down writes the user at most. -/
theorem comesTo_updateUser (accountCode : String) (status : SubscriptionStatus) :
    arrival.ComesTo (updateUser accountCode status) stubs drawn fun _ =>
      NotesAtMost stubs.pool
        (revisedUser? ((Uuid.parse? accountCode).map fun userId => (userId, status)) stubs.pool) := by
  unfold updateUser
  split
  next => exact Arrival.ComesTo.note (Arrival.ComesTo.respond (NotesAtMost.unchanged rfl))
  next userId isParsed =>
    refine Arrival.ComesTo.query (fun error left unchanged => ?_) fun left selected => ?_
    · exact Arrival.ComesTo.logFailure (NotesAtMost.unchanged unchanged)
    · have sameRows (table : String) : left.pool.rows table = stubs.pool.rows table := by
        rw [selected]
        exact rows_apply_of_isSelect rfl stubs.pool table
      split
      next user yields =>
        have found : stubs.pool.found? User "id" userId.text = some user := found?_of_ask yields
        have revised : revisedUser? (some (userId, status)) stubs.pool =
            some (withStatus user status) := by
          simp [revisedUser?, found]
        rw [isParsed, Option.map_some, revised]
        exact (comesTo_applyStatus user status).imp fun _ _ noted => noted.of_rows sameRows
      next => exact Arrival.ComesTo.note (Arrival.ComesTo.respond (Or.inl sameRows))
      next => exact Arrival.ComesTo.logFailure (Or.inl sameRows)

/-- Asking for the status of an account writes its user at most, with the status that is told. -/
theorem comesTo_syncStatus
    {accountCode : String}
    (answers : (Stubs.task (statusTask accountCode) stubs).1 =
      around.answer (statusTask accountCode)) :
    arrival.ComesTo (syncStatus accountCode) stubs drawn fun _ =>
      NotesAtMost stubs.pool (revisedUser? (accountStatus? around accountCode) stubs.pool) := by
  have samePool := Stubs.pool_task (statusTask accountCode) stubs
  refine Arrival.ComesTo.task ?_
  unfold accountStatus?
  unfold statusTask at answers samePool ⊢
  rw [answers]
  split
  next status told =>
    rw [told, ← samePool]
    exact comesTo_updateUser accountCode status
  next =>
    exact Arrival.ComesTo.note (Arrival.ComesTo.respond (NotesAtMost.unchanged samePool))
  next => exact Arrival.ComesTo.logFailure (NotesAtMost.unchanged samePool)

theorem comesTo_saveGift (gift : Stored Gift) :
    arrival.ComesTo (saveGift gift) stubs drawn fun _ => NotesAtMost stubs.pool (some gift) :=
  Arrival.ComesTo.queryOrFail (fun _ => NotesAtMost.unchanged rfl)
    (fun _ _ => NotesAtMost.written rfl) fun _ _ _ written =>
      Arrival.ComesTo.respond (NotesAtMost.written written)

theorem comesTo_notify (mail : Email) :
    arrival.ComesTo (notify mail) stubs drawn fun _ left => left = stubs.pool := by
  refine Arrival.ComesTo.task ?_
  split
  next => exact Arrival.ComesTo.respond (Stubs.pool_task _ _)
  next => exact Arrival.ComesTo.logFailure (Stubs.pool_task _ _)

/-- Applying a notice to a gift writes the gift at most, as the notice changes it. -/
theorem comesTo_changeGift
    (catalog : Catalog)
    (notice : SubscriptionNotice)
    (gift : Stored Gift) :
    arrival.ComesTo (changeGift catalog notice gift) stubs drawn fun _ =>
      NotesAtMost stubs.pool (changedGift? notice gift) := by
  unfold changeGift changedGift?
  cases giftChange gift.data notice with
  | reschedule => exact comesTo_saveGift _
  | activate =>
      refine Arrival.ComesTo.detach
        ((comesTo_notify _).imp fun _ between unchanged left later same => ?_)
      rw [← unchanged, ← same]
      exact comesTo_saveGift _
  | nothing => exact Arrival.ComesTo.respond (NotesAtMost.unchanged rfl)

/-- The gift that a notice is about is written at most, as the notice changes it. -/
theorem comesTo_lookUpGift (notice : SubscriptionNotice) (catalog : Catalog) :
    arrival.ComesTo
      (Chain.queryOrFail (Stored.selectBy Gift "subscription_id" (Json.string notice.uuid))
        fun gift =>
          match gift with
          | none =>
            Chain.log (unknownGift notice.uuid) (Chain.writeStatus "" Status.internalError)
          | some gift => changeGift catalog notice gift)
      stubs drawn fun _ => NotesAtMost stubs.pool (revisedGift? (some notice) stubs.pool) := by
  refine Arrival.ComesTo.queryOrFail (fun _ => NotesAtMost.unchanged rfl)
    (fun _ _ => Or.inl (rows_apply_of_isSelect rfl stubs.pool)) fun found left yields selected => ?_
  · have sameRows (table : String) : left.pool.rows table = stubs.pool.rows table := by
      rw [selected]
      exact rows_apply_of_isSelect rfl stubs.pool table
    cases found with
    | none => exact Arrival.ComesTo.note (Arrival.ComesTo.respond (Or.inl sameRows))
    | some gift =>
        have revised : revisedGift? (some notice) stubs.pool = changedGift? notice gift := by
          simp [revisedGift?, noticedGift?, found?_of_ask yields]
        rw [revised]
        exact (comesTo_changeGift catalog notice gift).imp fun _ _ noted => noted.of_rows sameRows

/-- After something else was detached, the gift that a notice is about is written at most, as the
notice changes it. -/
theorem comesTo_besides_updateGift
    {accountCode : String}
    {subscription : Option SubscriptionNotice}
    {revised : Option (Stored User)}
    (first : arrival.ComesTo (syncStatus accountCode) stubs drawn fun _ =>
      NotesAtMost stubs.pool revised) :
    arrival.ComesTo (Chain.besides (syncStatus accountCode) (updateGift subscription)) stubs drawn
      fun _ left => ∃ between, NotesAtMost stubs.pool revised between ∧
        NotesAtMost between
          (revisedGift? (subscription.filter SubscriptionNotice.isGift) stubs.pool) left := by
  unfold updateGift
  split
  next isOther =>
    refine Arrival.ComesTo.detach (first.imp fun _ between noted left later same => ?_)
    exact Arrival.ComesTo.respond ⟨between, noted, NotesAtMost.unchanged same⟩
  next notice isAbout =>
    refine Arrival.ComesTo.observe (Arrival.ComesTo.detach
      (first.imp fun _ between noted left later same => ?_))
    have sameGifts : between.rows "gifts" = stubs.pool.rows "gifts" := noted.rows_eq (by decide)
    rw [isAbout, ← revisedGift?_congr sameGifts, ← same]
    exact (comesTo_lookUpGift notice stubs.world.catalog).imp fun _ _ written =>
      ⟨left.pool, same ▸ noted, written⟩

/-- Whichever queries fail, taking in a notice writes the user and the gift that it concerns at
most. -/
theorem comesTo_billingNotice
    (answers : ∀ description, (Stubs.task description stubs).1 = around.answer description)
    (sameBody : arrival.body = around.body) :
    arrival.ComesTo billingNotice stubs drawn fun _ left =>
      ∃ between, NotesAtMost stubs.pool (revisedUser? (told? around) stubs.pool) between ∧
        NotesAtMost between (revisedGift? (about? around.body) stubs.pool) left := by
  refine Arrival.ComesTo.body ?_
  rw [sameBody]
  unfold about? told?
  cases BillingNotice.read? around.body with
  | none =>
      exact Arrival.ComesTo.note
        (Arrival.ComesTo.respond
          ⟨stubs.pool, NotesAtMost.unchanged rfl, NotesAtMost.unchanged rfl⟩)
  | some notice => exact comesTo_besides_updateGift (comesTo_syncStatus (answers _))

end

/-! ## Rows -/

variable {pool : Pool}

/-- A user who is revised is written back to the row of the account, and is read from it with the
status that was told. -/
theorem exists_isWrittenBack_of_revisedUser?
    {told : Option (Uuid × SubscriptionStatus)}
    {revised : Stored User}
    (keyed : Pool.IsKeyed (pool.rows "users"))
    (fits : ∀ userId status, told = some (userId, status) →
      ColumnType.IsLong status.downloadCredits)
    (isRevised : revisedUser? told pool = some revised) :
    ∃ userId status user row written, told = some (userId, status) ∧
      IsWrittenBack User (pool.rows "users") ((pool.noted (some revised)).rows "users") row written ∧
      row.find? "id" = some (Row.ofUuid userId) ∧
      Stored.decode row = Except.ok ({ id := userId, data := user } : Stored User) ∧
      Stored.decode written = Except.ok (withStatus { id := userId, data := user } status) := by
  obtain ⟨userId, status, ⟨id, user⟩, row, _, isTold, finds, rfl, _⟩ :=
    exists_finds_of_revisedUser? isRevised
  have sameId : userId = id := by
    have sameText := finds.column_eq.symm.trans (finds.find?_id keyed)
    exact Uuid.text_injective (Json.string.inj (Option.some.inj sameText))
  subst sameId
  have storable : (withStatus { id := userId, data := user } status).data.IsStorable := by
    obtain ⟨createdAt, githubUid, _⟩ := User.isStorable_of_read finds.read_eq
    exact ⟨createdAt, githubUid, fits userId status isTold⟩
  obtain ⟨createdAt, isWritten, readBack⟩ := Row.exists_ofTimestamp storable.createdAt
  have written := User.isWrittenAs_columns isWritten readBack
  refine ⟨userId, status, user, row,
    merge row (User.columns (withStatus { id := userId, data := user } status).data createdAt),
    isTold, ?_, finds.column_eq, finds.decoded, ?_⟩
  · refine finds.isWrittenBack_noted keyed rfl written ?_
    rw [User.keys_columns]
    decide
  · exact Stored.decode_merge finds.decoded written.distinct written.withoutId
      (User.decode_columns storable readBack) fun _ has => User.read_of_columns storable readBack has

/-- A gift that is revised is written back to the first row with its subscription, and is read from
it as the notice changes it. -/
theorem exists_isWrittenBack_of_revisedGift?
    {about : Option SubscriptionNotice}
    {revised : Stored Gift}
    (keyed : Pool.IsKeyed (pool.rows "gifts"))
    (readable : ∀ notice ∈ about, ∀ date ∈ notice.activatedAt, date.IsReadable)
    (isRevised : revisedGift? about pool = some revised) :
    ∃ notice gift row written, about = some notice ∧
      IsWrittenBack Gift (pool.rows "gifts") ((pool.noted (some revised)).rows "gifts") row written ∧
      Finds (pool.rows "gifts") "subscription_id" notice.uuid row gift ∧
      changedGift? notice gift = some revised ∧
      Stored.decode written = Except.ok revised := by
  obtain ⟨notice, row, gift, _, isAbout, revision⟩ := exists_isGiftRevision readable isRevised
  have version : IsVersion notice.uuid gift.id revised :=
    (IsOnRecord.isVersion ⟨keyed, row, revision.finds⟩).changed (readable notice isAbout)
      revision.isChanged
  obtain ⟨sendAt, isWritten, readBack⟩ := Row.exists_ofTimestamp version.readable
  have written := Gift.isWrittenAs_columns isWritten readBack
  refine ⟨notice, gift, row, merge row (Gift.columns revised.data sendAt), isAbout, ?_,
    revision.finds, revision.isChanged, ?_⟩
  · refine revision.finds.isWrittenBack_noted keyed version.id_eq written ?_
    rw [Gift.keys_columns]
    decide
  · rw [Gift.decode_merge revision.finds.decoded readBack, ← version.id_eq]

/-! ## One delivery -/

/-- What the provider answers when it is asked for the status of an account. -/
def Attempt.status? (attempt : Attempt) : Option SubscriptionStatus :=
  match (attempt.answers.next "billing.subscription_status").1 with
  | some (Except.ok (Answer.status status)) => status
  | _ => none

/-- The surroundings that answer the first task of each name as the stubs do. -/
def Attempt.around (attempt : Attempt) : Surroundings World where
  session := attempt.session
  body := attempt.body
  answer := fun description =>
    (attempt.answers.next description.name).1.getD (Except.error (Stubs.unanswered description))
  world := attempt.world

/-- The status that is told is the one that the provider answers, for the account of the notice. -/
theorem told?_around (attempt : Attempt) :
    told? attempt.around = (do
      let notice ← BillingNotice.read? attempt.body
      let status ← attempt.status?
      (Uuid.parse? notice.accountCode).map fun userId => (userId, status)) := by
  unfold told?
  change (BillingNotice.read? attempt.body).bind _ = _
  cases BillingNotice.read? attempt.body with
  | none => rfl
  | some notice =>
      change accountStatus? attempt.around notice.accountCode = attempt.status?.bind fun status => _
      have answer : attempt.around.answer (statusTask notice.accountCode) =
          (attempt.answers.next "billing.subscription_status").1.getD
            (Except.error (Stubs.unanswered (statusTask notice.accountCode))) := rfl
      unfold accountStatus? Attempt.status?
      rw [answer]
      cases (attempt.answers.next "billing.subscription_status").1 with
      | none => rfl
      | some answered =>
          cases answered with
          | error => rfl
          | ok answer =>
              cases answer with
              | status told => cases told <;> rfl
              | _ => rfl

/-- The users are as they were, or one row was written: the one of the account that the notice names,
with the status that the provider answers and without any other change. -/
def NotesStatus (attempt : Attempt) (rows left : List Row) : Prop :=
  left = rows ∨
    ∃ (notice : BillingNotice) (userId : Uuid) (status : SubscriptionStatus) (user : User)
      (row written : Row),
      BillingNotice.read? attempt.body = some notice ∧
      Uuid.parse? notice.accountCode = some userId ∧
      attempt.status? = some status ∧
      IsWrittenBack User rows left row written ∧
      row.find? "id" = some (Row.ofUuid userId) ∧
      Stored.decode row = Except.ok ({ id := userId, data := user } : Stored User) ∧
      Stored.decode written =
        Except.ok
          ({ id := userId
             data :=
              { user with
                subscriber := status.subscriber
                downloadCredits := status.downloadCredits
                canceled := status.canceled } } : Stored User)

/-- The gifts are as they were, or one row was written: the first one with the subscription of the
notice, with the date of the notice or as an active gift, and without any other change. -/
def NotesNotice (attempt : Attempt) (rows left : List Row) : Prop :=
  left = rows ∨
    ∃ (notice : SubscriptionNotice) (gift : Stored Gift) (row written : Row),
      about? attempt.body = some notice ∧
      IsWrittenBack Gift rows left row written ∧
      Finds rows "subscription_id" notice.uuid row gift ∧
      ((notice.state = "future" ∧ ∃ sendAt, notice.activatedAt = some sendAt ∧
          Stored.decode written =
            Except.ok { gift with data := { gift.data with sendAt } }) ∨
        (notice.state = "active" ∧
          Stored.decode written =
            Except.ok { gift with data := { gift.data with activated := true } }))

variable {attempt : Attempt} {left : Pool}

/-- What is told of a user is what the provider answers about the account of the notice. -/
theorem exists_of_told?_around
    {userId : Uuid}
    {status : SubscriptionStatus}
    (isTold : told? attempt.around = some (userId, status)) :
    ∃ notice, BillingNotice.read? attempt.body = some notice ∧
      Uuid.parse? notice.accountCode = some userId ∧ attempt.status? = some status := by
  rw [told?_around] at isTold
  obtain ⟨notice, isRead, isTold⟩ := Option.bind_eq_some_iff.1 isTold
  obtain ⟨status, isAnswered, isTold⟩ := Option.bind_eq_some_iff.1 isTold
  obtain ⟨userId, isParsed, same⟩ := Option.map_eq_some_iff.1 isTold
  obtain ⟨rfl, rfl⟩ := Prod.mk.inj same
  exact ⟨notice, isRead, isParsed, isAnswered⟩

/-- Writing the user who is revised because of what is told notes the status down. -/
theorem NotesAtMost.notesStatus
    (noted : NotesAtMost pool (revisedUser? (told? attempt.around) pool) left)
    (keyed : Pool.IsKeyed (pool.rows "users"))
    (fits : ∀ status ∈ attempt.status?, ColumnType.IsLong status.downloadCredits) :
    NotesStatus attempt (pool.rows "users") (left.rows "users") := by
  rcases noted with unchanged | isWritten
  · exact Or.inl (unchanged "users")
  · rw [isWritten]
    cases isRevised : revisedUser? (told? attempt.around) pool with
    | none => exact Or.inl rfl
    | some revised =>
        have fitsTold : ∀ userId status, told? attempt.around = some (userId, status) →
            ColumnType.IsLong status.downloadCredits := by
          intro userId status isTold
          obtain ⟨_, _, _, isAnswered⟩ := exists_of_told?_around isTold
          exact fits status isAnswered
        obtain ⟨userId, status, user, row, written, isTold, writtenBack, hasId, decoded, decodes⟩ :=
          exists_isWrittenBack_of_revisedUser? keyed fitsTold isRevised
        obtain ⟨notice, isRead, isParsed, isAnswered⟩ := exists_of_told?_around isTold
        exact Or.inr ⟨notice, userId, status, user, row, written, isRead, isParsed, isAnswered,
          writtenBack, hasId, decoded, decodes⟩

/-- Writing the gift that is revised because of a notice notes the notice down. -/
theorem NotesAtMost.notesNotice
    (noted : NotesAtMost pool (revisedGift? (about? attempt.body) pool) left)
    (keyed : Pool.IsKeyed (pool.rows "gifts")) :
    NotesNotice attempt (pool.rows "gifts") (left.rows "gifts") := by
  rcases noted with unchanged | isWritten
  · exact Or.inl (unchanged "gifts")
  · rw [isWritten]
    cases isRevised : revisedGift? (about? attempt.body) pool with
    | none => exact Or.inl rfl
    | some revised =>
        obtain ⟨notice, gift, row, written, isAbout, writtenBack, finds, isChanged, decodes⟩ :=
          exists_isWrittenBack_of_revisedGift? keyed (isReadable_of_about? attempt.body) isRevised
        refine Or.inr ⟨notice, gift, row, written, isAbout, writtenBack, finds, ?_⟩
        rcases changedGift?_cases isChanged with ⟨sendAt, isRescheduled, rfl⟩ | ⟨isActivated, rfl⟩
        · obtain ⟨isFuture, isDated, _⟩ := giftChange_eq_reschedule_iff.1 isRescheduled
          exact Or.inl ⟨isFuture, sendAt, isDated, decodes⟩
        · exact Or.inr ⟨(giftChange_eq_activate_iff.1 isActivated).1, decodes⟩

/-- Noting a status down adds no user and removes none. -/
theorem NotesStatus.length_eq
    {rows left : List Row}
    (notes : NotesStatus attempt rows left) :
    left.length = rows.length := by
  rcases notes with rfl | ⟨_, _, _, _, _, _, _, _, _, writtenBack, _⟩
  · rfl
  · exact writtenBack.length_eq

/-- Noting a notice down adds no gift and removes none. -/
theorem NotesNotice.length_eq
    {rows left : List Row}
    (notes : NotesNotice attempt rows left) :
    left.length = rows.length := by
  rcases notes with rfl | ⟨_, _, _, _, _, writtenBack, _⟩
  · rfl
  · exact writtenBack.length_eq

variable (site : Site)

/-- A delivery writes the user and the gift that its notice concerns at most. -/
theorem exists_notesAtMost_attempt (attempt : Attempt) (pool : Pool) :
    ∃ between, NotesAtMost pool (revisedUser? (told? attempt.around) pool) between ∧
      NotesAtMost between (revisedGift? (about? attempt.body) pool) (site.attempt attempt pool).2 := by
  let arrival : Arrival := { session := attempt.session, body := attempt.body }
  let stubs : Stubs World :=
    { pool, world := attempt.world, answers := attempt.answers, planned := attempt.planned }
  have answers : ∀ description,
      (Stubs.task description stubs).1 = attempt.around.answer description :=
    fun description => Stubs.fst_task description stubs
  have comes : arrival.ComesTo billingNotice stubs 0 fun _ left =>
      ∃ between, NotesAtMost pool (revisedUser? (told? attempt.around) pool) between ∧
        NotesAtMost between (revisedGift? (about? attempt.body) pool) left :=
    comesTo_billingNotice answers rfl
  have ran := comes.run_spec
  rw [Arrival.run, Chain.identifiedBy_id] at ran
  rw [Site.attempt, dispatch_recurlyWebhook]
  exact ran

/-- Whichever queries fail during a delivery to tables whose users and gifts have identifiers, no row
is added or removed, and one user and one gift differ afterwards at most. The user is the one of the
account, with the status that the provider tells, and the gift is the first one of the subscription,
with the date of the notice or active. Everything else stays as it is, be it a value of the two or a
column that nobody knows. -/
theorem rows_attempt_of_isKeyed
    (attempt : Attempt)
    {pool : Pool}
    (users : Pool.IsKeyed (pool.rows "users"))
    (gifts : Pool.IsKeyed (pool.rows "gifts"))
    (fits : ∀ status ∈ attempt.status?, ColumnType.IsLong status.downloadCredits) :
    let left := (site.attempt attempt pool).2
    (∀ table, (left.rows table).length = (pool.rows table).length) ∧
      (∀ table, table ≠ "users" → table ≠ "gifts" → left.rows table = pool.rows table) ∧
      NotesStatus attempt (pool.rows "users") (left.rows "users") ∧
      NotesNotice attempt (pool.rows "gifts") (left.rows "gifts") := by
  intro left
  obtain ⟨between, userNoted, giftNoted⟩ := site.exists_notesAtMost_attempt attempt pool
  have usersThen : left.rows "users" = between.rows "users" := giftNoted.rows_eq (by decide)
  have giftsBetween : between.rows "gifts" = pool.rows "gifts" := userNoted.rows_eq (by decide)
  have others : ∀ table, table ≠ "users" → table ≠ "gifts" → left.rows table = pool.rows table :=
    fun table notUsers notGifts =>
      (giftNoted.rows_eq (Ne.symm notGifts)).trans (userNoted.rows_eq (Ne.symm notUsers))
  have status : NotesStatus attempt (pool.rows "users") (left.rows "users") :=
    usersThen ▸ userNoted.notesStatus users fits
  have notice : NotesNotice attempt (pool.rows "gifts") (left.rows "gifts") := by
    rw [← revisedGift?_congr giftsBetween] at giftNoted
    rw [← giftsBetween] at gifts ⊢
    exact giftNoted.notesNotice gifts
  refine ⟨fun table => ?_, others, status, notice⟩
  by_cases isUsers : table = "users"
  · subst isUsers
    exact status.length_eq
  · by_cases isGifts : table = "gifts"
    · subst isGifts
      exact notice.length_eq
    · rw [others table isUsers isGifts]

/-- A delivery that finds a user and a gift with columns that nobody knows notes the status and the
notice down, and both rows differ afterwards. -/
theorem rows_attempt_of_strange_columns :
    let user : Row :=
      [("admin", Json.bool false), ("canceled", Json.bool false),
        ("created_at", Json.string "2024-01-01T00:00:00Z"), ("download_credits", Json.integer 2),
        ("email", Json.string "ana@example.com"), ("id", Row.ofUuid (Uuid.drawn 1)),
        ("nickname", Json.string "Ana"), ("subscriber", Json.bool false),
        ("team_token", Row.ofUuid (Uuid.drawn 2))]
    let gift : Row :=
      [("activated", Json.bool false), ("giftee_email", Json.string "bo@example.com"),
        ("giftee_name", Json.string "Bo"), ("id", Row.ofUuid (Uuid.drawn 3)),
        ("message", Json.string "Enjoy!"), ("plan_code", Json.string "gift-3-months"),
        ("ribbon", Json.string "red"), ("send_at", Json.string "2024-06-01T09:00:00Z"),
        ("subscription_id", Json.string "sub-1")]
    let start : Pool := { tables := [("gifts", [gift]), ("users", [user])] }
    let status : SubscriptionStatus := { subscriber := true, downloadCredits := 7, canceled := false }
    let attempt : Attempt :=
      { session := none
        body :=
          Text.encode
            ("[[\"" ++ (Uuid.drawn 1).text ++
              "\"],[\"sub-1\",[\"gift-3-months\"],\"active\",\"2024-06-01T09:00:00Z\"]]")
        world := { catalog := Catalog.empty, source := Except.ok Catalog.empty }
        answers := [("billing.subscription_status", [Except.ok (Answer.status (some status))])]
        planned := [] }
    let site : Site := { now := default }
    let left := (site.attempt attempt start).2
    Pool.IsKeyed (start.rows "users") ∧ Pool.IsKeyed (start.rows "gifts") ∧
      (∀ status ∈ attempt.status?, ColumnType.IsLong status.downloadCredits) ∧
      NotesStatus attempt (start.rows "users") (left.rows "users") ∧
      NotesNotice attempt (start.rows "gifts") (left.rows "gifts") ∧
      left.rows "users" ≠ start.rows "users" ∧ left.rows "gifts" ≠ start.rows "gifts" := by
  intro user gift start status attempt site left
  have users : Pool.IsKeyed (start.rows "users") :=
    Pool.isKeyed_singleton (rfl : user.find? "id" = some (Row.ofUuid (Uuid.drawn 1)))
  have gifts : Pool.IsKeyed (start.rows "gifts") :=
    Pool.isKeyed_singleton (rfl : gift.find? "id" = some (Row.ofUuid (Uuid.drawn 3)))
  have fits : ∀ status ∈ attempt.status?, ColumnType.IsLong status.downloadCredits := by
    intro told isAnswered
    obtain rfl : status = told := Option.some.inj isAnswered
    exact ⟨by decide, by decide⟩
  obtain ⟨_, _, notesStatus, notesNotice⟩ := rows_attempt_of_isKeyed site attempt users gifts fits
  have differ : (left.rows "users").map
        (fun row => (row.required "download_credits" ColumnType.long).toOption) = [some 7] ∧
      activated? (Uuid.drawn 3) (left.rows "gifts") = some true := by
    decide +kernel
  refine ⟨users, gifts, fits, notesStatus, notesNotice, fun same => ?_, fun same => ?_⟩
  · rw [same] at differ
    cases differ.1
  · rw [same] at differ
    cases differ.2

end Site

end Screencast
