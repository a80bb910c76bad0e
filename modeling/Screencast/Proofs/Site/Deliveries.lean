import Screencast.Proofs.Site.Revisions
import Screencast.Proofs.Site.Route

/-!
# Deliveries of notices

The billing provider may deliver any notices in any order, and each of them any number of times.
Over all of them the mail about a gift is sent once, when the gift becomes active, and a gift that
is active stays so. A delivery that is repeated at once changes nothing.
-/

namespace Screencast

/-- The number of mails to send about something that may become active: none if it stays as it is,
and one if it becomes active. -/
def IsMailedOnce (before after : Option Bool) (mails : Nat) : Prop :=
  (mails = 0 ∧ after = before) ∨ (mails = 1 ∧ before = some false ∧ after = some true)

namespace IsMailedOnce

variable {before between after : Option Bool} {mails others : Nat}

/-- Something becomes active once at most. -/
theorem trans
    (first : IsMailedOnce before between mails)
    (second : IsMailedOnce between after others) :
    IsMailedOnce before after (mails + others) := by
  rcases first with ⟨rfl, rfl⟩ | ⟨rfl, wasInactive, isActive⟩
  · rwa [Nat.zero_add]
  · rcases second with ⟨rfl, rfl⟩ | ⟨_, isInactive, _⟩
    · exact Or.inr ⟨rfl, wasInactive, isActive⟩
    · cases isActive.symm.trans isInactive

theorem eq_ite (once : IsMailedOnce before after mails) :
    mails = if before = some false ∧ after = some true then 1 else 0 := by
  rcases once with ⟨rfl, rfl⟩ | ⟨rfl, wasInactive, isActive⟩
  · refine (if_neg fun ⟨isInactive, isActive⟩ => ?_).symm
    cases isInactive.symm.trans isActive
  · exact (if_pos ⟨wasInactive, isActive⟩).symm

/-- What is active stays active. -/
theorem eq_some_true
    (once : IsMailedOnce before after mails)
    (isActive : before = some true) :
    after = some true := by
  rcases once with ⟨_, rfl⟩ | ⟨_, isInactive, _⟩
  · exact isActive
  · cases isActive.symm.trans isInactive

end IsMailedOnce

namespace Site

open Pool Surroundings

variable (site : Site)

/-- Deliver a notice, and run the chain that the site has for it. -/
def receive (around : Surroundings World) (pool : Pool) : Outcome × Pool :=
  around.run (site.dispatch (RequestHead.ofRoute Route.recurlyWebhook)) pool

/-- The pool after notices were delivered one after another. -/
def receiveAll : List (Surroundings World) → Pool → Pool
  | [], pool => pool
  | around :: rest, pool => receiveAll rest (site.receive around pool).2

/-- Whether a task hands a mail to the mailer. -/
def isMail (task : TaskDescription) : Bool := task.name = "mailer.send"

/-- The number of mails about a gift that are sent while a notice is delivered. -/
def mailsAbout (id : Uuid) (around : Surroundings World) (pool : Pool) : Nat :=
  if (noticedGift? (about? around.body) pool).map (fun (_, gift) => gift.id) = some id then
    ((site.receive around pool).1.allTasks.filter isMail).length
  else 0

/-- The number of mails about a gift that are sent while notices are delivered one after another. -/
def mailsAboutAll (id : Uuid) : List (Surroundings World) → Pool → Nat
  | [], _ => 0
  | around :: rest, pool =>
    site.mailsAbout id around pool + mailsAboutAll id rest (site.receive around pool).2

variable {site} {around again : Surroundings World} {pool : Pool}

theorem dispatch_recurlyWebhook (site : Site) :
    site.dispatch (RequestHead.ofRoute Route.recurlyWebhook) = billingNotice := by
  have named : Route.recurlyWebhook.NamesNothingEmpty := trivial
  exact dispatch_ofRoute site named

theorem receive_eq : site.receive around pool = around.run billingNotice pool := by
  rw [receive, dispatch_recurlyWebhook]

theorem receive_of_malformed (isMalformed : BillingNotice.read? around.body = none) :
    site.receive around pool =
      ({ terminal := Terminal.text "" Status.ok [],
         trace := [Resolved.body around.body.length] }, pool) := by
  rw [receive_eq, billingNotice, run_withBody, isMalformed]
  rfl

/-- What a delivery writes, and which tasks it issues. -/
theorem receive_spec (site : Site) (around : Surroundings World) (pool : Pool) :
    (revisedGift? (about? around.body) pool = none →
        ∀ statement ∈ (site.receive around pool).1.allQueries,
          statement.writesTo "gifts" = false) ∧
      (site.receive around pool).1.allTasks =
        statusTasks around.body ++ sentMails around.world.catalog (about? around.body) pool ∧
      ∀ table, (site.receive around pool).2.rows table =
        ((pool.noted (revisedUser? (told? around) pool)).noted
          (revisedGift? (about? around.body) pool)).rows table := by
  obtain ⟨ofKind, tasks, left⟩ := (does_billingNotice around pool).run_spec
  rw [receive_eq]
  exact ⟨fun isSettled statement issued => ofKind statement issued isSettled, tasks, left⟩

/-! ## One delivery -/

theorem isReadable_of_about? (body : Bytes) :
    ∀ notice ∈ about? body, ∀ date ∈ notice.activatedAt, date.IsReadable := by
  intro notice isAbout date isDated
  obtain ⟨payload, isRead, isGift⟩ := Option.bind_eq_some_iff.1 isAbout
  obtain ⟨isSubscribed, _⟩ := Option.filter_eq_some_iff.1 isGift
  exact BillingNotice.isReadable_of_read? isRead isSubscribed isDated

/-- What a delivery makes of the gifts. -/
theorem rows_gifts_receive (site : Site) (around : Surroundings World) (pool : Pool) :
    (site.receive around pool).2.rows "gifts" =
      (pool.noted (revisedGift? (about? around.body) pool)).rows "gifts" := by
  have sameGifts : (pool.noted (revisedUser? (told? around) pool)).rows "gifts" =
      pool.rows "gifts" := rows_noted_of_ne (by decide) _
  rw [(receive_spec site around pool).2.2]
  exact rows_noted_congr sameGifts _

theorem rows_users_receive (site : Site) (around : Surroundings World) (pool : Pool) :
    (site.receive around pool).2.rows "users" =
      (pool.noted (revisedUser? (told? around) pool)).rows "users" := by
  rw [(receive_spec site around pool).2.2]
  exact rows_noted_of_ne (by decide) _

/-- The gifts and the users of a pool have identifiers. -/
structure IsKeyed (pool : Pool) : Prop where
  gifts : Pool.IsKeyed (pool.rows "gifts")
  users : Pool.IsKeyed (pool.rows "users")

/-- A delivery keeps the identifiers. -/
theorem IsKeyed.receive
    (keyed : IsKeyed pool)
    (site : Site)
    (around : Surroundings World) :
    IsKeyed (site.receive around pool).2 where
  gifts := by
    rw [rows_gifts_receive]
    exact isKeyed_noted_revisedGift? (isReadable_of_about? around.body) keyed.gifts
  users := by
    rw [rows_users_receive]
    exact isKeyed_noted_revisedUser? keyed.users (told? around)

/-- The mails that are sent during a delivery. -/
theorem filter_isMail_allTasks (site : Site) (around : Surroundings World) (pool : Pool) :
    (site.receive around pool).1.allTasks.filter isMail =
      sentMails around.world.catalog (about? around.body) pool := by
  have noMails : (statusTasks around.body).filter isMail = [] := by
    rw [List.filter_eq_nil_iff, statusTasks]
    intro task isAsked
    obtain ⟨notice, _, rfl⟩ := Option.map_eq_some_iff.1 (Option.mem_toList.1 isAsked)
    exact Bool.false_ne_true
  have onlyMails : (sentMails around.world.catalog (about? around.body) pool).filter isMail =
      sentMails around.world.catalog (about? around.body) pool := by
    refine List.filter_eq_self.2 fun task isSent => ?_
    obtain ⟨_, _, _, isNamed, _⟩ := exists_of_mem_sentMails isSent
    exact decide_eq_true isNamed
  rw [(receive_spec site around pool).2.1, List.filter_append, noMails, onlyMails, List.nil_append]

/-- A mail about a gift is sent exactly if the notice says that the gift is active and it was not.
-/
theorem mailsAbout_eq_one_iff
    (site : Site)
    (id : Uuid)
    (around : Surroundings World)
    (pool : Pool) :
    site.mailsAbout id around pool = 1 ↔
      ∃ notice gift, noticedGift? (about? around.body) pool = some (notice, gift) ∧
        gift.id = id ∧ notice.state = "active" ∧ gift.data.activated = false := by
  rw [mailsAbout, filter_isMail_allTasks, sentMails]
  cases noticedGift? (about? around.body) pool with
  | none => simp
  | some noticed =>
      obtain ⟨notice, gift⟩ := noticed
      have isSent : (giftMails around.world.catalog notice gift).length = 1 ↔
          notice.state = "active" ∧ gift.data.activated = false := by
        rw [← giftChange_eq_activate_iff, giftMails]
        cases giftChange gift.data notice <;> simp
      simp only [Option.map_some, Option.some.injEq, Prod.mk.injEq]
      constructor
      · intro isOne
        split at isOne
        next isGift => exact ⟨notice, gift, ⟨rfl, rfl⟩, isGift, isSent.1 isOne⟩
        next => cases isOne
      · rintro ⟨_, _, ⟨rfl, rfl⟩, isGift, isActivated⟩
        rw [if_pos isGift]
        exact isSent.2 isActivated

/-- During a delivery a mail about a gift is sent exactly if the gift becomes active. -/
theorem isMailedOnce_receive
    (keyed : IsKeyed pool)
    (site : Site)
    (around : Surroundings World)
    (id : Uuid) :
    IsMailedOnce (activated? id (pool.rows "gifts"))
      (activated? id ((site.receive around pool).2.rows "gifts"))
      (site.mailsAbout id around pool) := by
  rw [rows_gifts_receive]
  cases isRevised : revisedGift? (about? around.body) pool with
  | none =>
      rw [mailsAbout, filter_isMail_allTasks, sentMails_eq_nil isRevised]
      exact Or.inl ⟨ite_self 0, rfl⟩
  | some revised =>
      obtain ⟨notice, row, gift, columns, isAbout, revision⟩ :=
        exists_isGiftRevision (isReadable_of_about? around.body) isRevised
      have mails : site.mailsAbout id around pool =
          if gift.id = id then (giftMails around.world.catalog notice gift).length else 0 := by
        rw [mailsAbout, filter_isMail_allTasks, sentMails, isAbout, revision.noticedGift?_eq]
        simp only [Option.map_some, Option.some.injEq]
      rw [revision.rows_noted keyed.gifts, mails]
      by_cases isGift : gift.id = id
      · subst isGift
        rw [revision.activated?_eq keyed.gifts, revision.activated?_map_revise keyed.gifts,
          if_pos rfl]
        rcases changedGift?_cases revision.isChanged with
          ⟨sendAt, isRescheduled, rfl⟩ | ⟨isActivated, rfl⟩
        · rw [giftMails, isRescheduled]
          exact Or.inl ⟨rfl, rfl⟩
        · obtain ⟨_, wasInactive⟩ := giftChange_eq_activate_iff.1 isActivated
          rw [giftMails, isActivated, wasInactive]
          exact Or.inr ⟨rfl, rfl, rfl⟩
      · rw [revision.activated?_map_revise_of_ne (Ne.symm isGift), if_neg isGift]
        exact Or.inl ⟨rfl, rfl⟩

/-! ## A delivery that is repeated -/

theorem told?_congr
    (sameBody : again.body = around.body)
    (sameAnswers : again.answer = around.answer) :
    told? again = told? around := by
  simp only [told?, accountStatus?, sameBody, sameAnswers]

/-- A delivery that is repeated does not write to the gifts, sends no mail, and leaves every table
as it was. -/
theorem receive_receive
    (keyed : IsKeyed pool)
    (site : Site)
    (sameBody : again.body = around.body)
    (sameAnswers : again.answer = around.answer) :
    (∀ statement ∈ (site.receive again (site.receive around pool).2).1.allQueries,
        statement.writesTo "gifts" = false) ∧
      (∀ task ∈ (site.receive again (site.receive around pool).2).1.allTasks,
        task.name ≠ "mailer.send") ∧
      ∀ table, (site.receive again (site.receive around pool).2).2.rows table =
        (site.receive around pool).2.rows table := by
  obtain ⟨spares, _, left⟩ := receive_spec site again (site.receive around pool).2
  have isSettled : revisedGift? (about? again.body) (site.receive around pool).2 = none := by
    rw [sameBody]
    exact revisedGift?_eq_none (isReadable_of_about? around.body) keyed.gifts
      (rows_gifts_receive site around pool)
  have noMails := filter_isMail_allTasks site again (site.receive around pool).2
  rw [sentMails_eq_nil isSettled] at noMails
  refine ⟨spares isSettled, fun task isAsked isNamed => ?_, fun table => ?_⟩
  · exact List.filter_eq_nil_iff.1 noMails task isAsked (decide_eq_true isNamed)
  · rw [left, isSettled]
    by_cases isUsers : table = "users"
    · subst isUsers
      have told : told? again = told? around := told?_congr sameBody sameAnswers
      rw [told]
      exact rows_noted_revisedUser? keyed.users (rows_users_receive site around pool)
    · have isOther : Record.table User ≠ table := Ne.symm isUsers
      exact rows_noted_of_ne isOther (revisedUser? (told? again) (site.receive around pool).2)

/-! ## Many deliveries -/

/-- Deliveries keep the identifiers. -/
theorem IsKeyed.receiveAll
    (keyed : IsKeyed pool)
    (site : Site)
    (deliveries : List (Surroundings World)) :
    IsKeyed (site.receiveAll deliveries pool) := by
  induction deliveries generalizing pool with
  | nil => exact keyed
  | cons around rest inductionHypothesis => exact inductionHypothesis (keyed.receive site around)

/-- Deliveries may be made in two parts. -/
theorem receiveAll_append
    (site : Site)
    (earlier later : List (Surroundings World))
    (pool : Pool) :
    site.receiveAll (earlier ++ later) pool =
      site.receiveAll later (site.receiveAll earlier pool) := by
  induction earlier generalizing pool with
  | nil => rfl
  | cons around rest inductionHypothesis => exact inductionHypothesis (site.receive around pool).2

/-- Over many deliveries a mail about a gift is sent exactly if the gift becomes active. -/
theorem isMailedOnce_receiveAll
    (keyed : IsKeyed pool)
    (site : Site)
    (deliveries : List (Surroundings World))
    (id : Uuid) :
    IsMailedOnce (activated? id (pool.rows "gifts"))
      (activated? id ((site.receiveAll deliveries pool).rows "gifts"))
      (site.mailsAboutAll id deliveries pool) := by
  induction deliveries generalizing pool with
  | nil => exact Or.inl ⟨rfl, rfl⟩
  | cons around rest inductionHypothesis =>
      exact (isMailedOnce_receive keyed site around id).trans
        (inductionHypothesis (keyed.receive site around))

/-- Over any deliveries to tables whose rows have identifiers, one mail is sent about each gift that
becomes active and none about the others, and no gift ceases to be active. A mail is sent exactly if
the notice says that its gift is active and it was not, and goes to the one who gets the gift. A
delivery that is repeated at once, with the same answers, does not write to the gifts, sends no
mail, and leaves every table as it was. A payload that cannot be read is acknowledged with an empty
text, and nothing else happens. -/
theorem mailsAboutAll_eq_and_receive_again_of_isKeyed
    (site : Site)
    {start : Pool}
    (gifts : Pool.IsKeyed (start.rows "gifts"))
    (users : Pool.IsKeyed (start.rows "users"))
    (deliveries : List (Surroundings World)) :
    (∀ id, site.mailsAboutAll id deliveries start =
        if activated? id (start.rows "gifts") = some false ∧
          activated? id ((site.receiveAll deliveries start).rows "gifts") = some true then 1
        else 0) ∧
      (∀ id earlier later, deliveries = earlier ++ later →
        activated? id ((site.receiveAll earlier start).rows "gifts") = some true →
          activated? id ((site.receiveAll deliveries start).rows "gifts") = some true) ∧
      (∀ id around pool, site.mailsAbout id around pool = 1 ↔
        ∃ notice gift, noticedGift? (about? around.body) pool = some (notice, gift) ∧
          gift.id = id ∧ notice.state = "active" ∧ gift.data.activated = false) ∧
      (∀ around pool, ∀ task ∈ (site.receive around pool).1.allTasks, task.name = "mailer.send" →
        ∃ notice gift, noticedGift? (about? around.body) pool = some (notice, gift) ∧
          task.detail = gift.data.gifteeEmail) ∧
      (∀ around again, again.body = around.body → again.answer = around.answer →
        let once := (site.receive around (site.receiveAll deliveries start)).2
        (∀ statement ∈ (site.receive again once).1.allQueries,
            statement.writesTo "gifts" = false) ∧
          (∀ task ∈ (site.receive again once).1.allTasks, task.name ≠ "mailer.send") ∧
          ∀ table, (site.receive again once).2.rows table = once.rows table) ∧
      ∀ around pool, BillingNotice.read? around.body = none →
        site.receive around pool =
          ({ terminal := Terminal.text "" Status.ok [],
             trace := [Resolved.body around.body.length] }, pool) := by
  have keyed : IsKeyed start := { gifts, users }
  refine ⟨fun id => ?_, fun id earlier later parts wasActive => ?_, mailsAbout_eq_one_iff site,
    fun around pool task isAsked isNamed => ?_, fun around again sameBody sameAnswers => ?_,
    fun around pool isMalformed => receive_of_malformed isMalformed⟩
  · exact (isMailedOnce_receiveAll keyed site deliveries id).eq_ite
  · rw [parts, receiveAll_append]
    exact (isMailedOnce_receiveAll (keyed.receiveAll site earlier) site later id).eq_some_true
      wasActive
  · have isSent : task ∈ (site.receive around pool).1.allTasks.filter isMail :=
      List.mem_filter.2 ⟨isAsked, decide_eq_true isNamed⟩
    rw [filter_isMail_allTasks] at isSent
    obtain ⟨notice, gift, noticed, _, isAddressed⟩ := exists_of_mem_sentMails isSent
    exact ⟨notice, gift, noticed, isAddressed⟩
  · exact receive_receive (keyed.receiveAll site deliveries) site sameBody sameAnswers

/-- A gift that is rescheduled, becomes active, and is said to be active once more, is told of by
one mail. -/
theorem mailsAboutAll_rescheduled_activated_activated :
    let id := Uuid.drawn 1
    let row : Row :=
      [("activated", Json.bool false), ("giftee_email", Json.string "bo@example.com"),
        ("giftee_name", Json.string "Bo"), ("id", Row.ofUuid id),
        ("message", Json.string "Enjoy!"), ("plan_code", Json.string "gift-3-months"),
        ("send_at", Json.string "2024-06-01T09:00:00Z"),
        ("subscription_id", Json.string "sub-1")]
    let start : Pool := { tables := [("gifts", [row])] }
    let delivery (state : String) : Surroundings World :=
      { session := none
        body :=
          Text.encode
            ("[[\"ana\"],[\"sub-1\",[\"gift-3-months\"],\"" ++ state ++
              "\",\"2024-07-01T09:00:00Z\"]]")
        answer := fun _ => Except.ok (Answer.status none)
        world := { catalog := Catalog.empty, source := Except.ok Catalog.empty } }
    let site : Site := { now := default }
    Pool.IsKeyed (start.rows "gifts") ∧ Pool.IsKeyed (start.rows "users") ∧
      site.mailsAboutAll id [delivery "future", delivery "active", delivery "active"] start = 1 := by
  intro id row start delivery site
  have gifts : Pool.IsKeyed (start.rows "gifts") := by
    constructor
    case canonical =>
      intro other present
      obtain rfl := List.mem_singleton.1 present
      exact ⟨id, rfl⟩
    case distinct => exact List.pairwise_singleton _ _
  have users : Pool.IsKeyed (start.rows "users") := by
    constructor
    case canonical => exact fun _ present => absurd present List.not_mem_nil
    case distinct => exact List.Pairwise.nil
  obtain ⟨mails, _⟩ :=
    mailsAboutAll_eq_and_receive_again_of_isKeyed site gifts users
      [delivery "future", delivery "active", delivery "active"]
  refine ⟨gifts, users, (mails id).trans (if_pos ⟨?_, ?_⟩)⟩
  · decide +kernel
  · decide +kernel

end Site

end Screencast
