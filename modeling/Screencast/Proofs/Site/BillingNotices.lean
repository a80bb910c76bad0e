import Screencast.Proofs.Effect.OnTables
import Screencast.Proofs.Json.Shapes
import Screencast.Proofs.Site.Faithful
import Screencast.Proofs.Store.Keyed
import Screencast.Proofs.Timestamp
import Screencast.Site.BillingNotices
import Screencast.Site.Webhook

/-!
# What a notice makes the site do

A notice may change one user and one gift. Which ones, and how, depends on the tables, and a mail is
sent exactly if the gift becomes active. A date that a notice gives was read from a text, so it can
be written and read again.
-/

namespace Screencast

/-! ## Dates of notices -/

namespace SubscriptionNotice

/-- A date of a subscription that was read is readable. -/
theorem isReadable_of_shape
    {allowance : Nat}
    {source : JsonSource}
    {notice : SubscriptionNotice}
    {activatedAt : Timestamp}
    (read : shape allowance source = some notice)
    (dated : notice.activatedAt = some activatedAt) :
    activatedAt.IsReadable := by
  simp only [shape, Option.bind_eq_bind, Option.bind_eq_some_iff] at read
  obtain ⟨members, _, uuid, _, planCode, _, state, _, date, dateRead, same⟩ := read
  obtain rfl := Option.some.inj same
  obtain rfl : date = some activatedAt := dated
  obtain ⟨source, sourceRead⟩ := Shape.exists_of_withDefault_optional dateRead
  obtain ⟨text, isParsed⟩ := Shape.exists_text_of_parsed sourceRead
  exact Timestamp.isReadable_of_parse? isParsed

end SubscriptionNotice

namespace BillingNotice

/-- A date that a notice gives is readable. -/
theorem isReadable_of_read?
    {body : Bytes}
    {notice : BillingNotice}
    {subscription : SubscriptionNotice}
    {activatedAt : Timestamp}
    (read : read? body = some notice)
    (subscribed : notice.subscription = some subscription)
    (dated : subscription.activatedAt = some activatedAt) :
    activatedAt.IsReadable := by
  simp only [read?, shape, Option.bind_eq_bind, Option.bind_eq_some_iff] at read
  obtain ⟨source, _, members, _, accountCode, _, found, foundRead, same⟩ := read
  obtain rfl := Option.some.inj same
  obtain rfl : found = some subscription := subscribed
  obtain ⟨source, sourceRead⟩ := Shape.exists_of_withDefault_optional foundRead
  exact SubscriptionNotice.isReadable_of_shape sourceRead dated

end BillingNotice

namespace Site

open Pool Surroundings

variable {around : Surroundings World} {kind : Statement → Prop} {pool : Pool}

theorem does_fail (error : ServerError) : Does around kind (Chain.fail error) pool [] pool := by
  unfold Chain.fail Chain.failOwing
  split
  next => exact Does.note (Does.respond _)
  next => exact Does.respond _

theorem does_logFailure (context : String) (failure : Option String) :
    Does around kind (Chain.logFailure context failure) pool [] pool := by
  cases failure with
  | none => exact Does.respond _
  | some message => exact Does.note (Does.respond _)

/-! ## Users -/

/-- The task of asking for the status of an account. -/
def statusTask (accountCode : String) : TaskDescription :=
  (Collaborator.subscriptionStatus accountCode).description

/-- The user whom an account belongs to, and the status that the surroundings tell of it. -/
def accountStatus? (around : Surroundings World) (accountCode : String) :
    Option (Uuid × SubscriptionStatus) :=
  match (Collaborator.subscriptionStatus accountCode).resolve
      (around.answer (statusTask accountCode)) with
  | Except.ok (some status) => (Uuid.parse? accountCode).map fun userId => (userId, status)
  | _ => none

/-- The user whose status was told as they are written with it, if they are there. -/
def revisedUser? (told : Option (Uuid × SubscriptionStatus)) (pool : Pool) :
    Option (Stored User) := do
  let (userId, status) ← told
  let user ← pool.found? User "id" userId.text
  some (withStatus user status)

/-- Noting a status down writes the user. -/
theorem does_applyStatus
    (user : Stored User)
    (status : SubscriptionStatus)
    (isOfKind : kind (withStatus user status).update.statement) :
    Does around kind (applyStatus user status) pool []
      (pool.noted (some (withStatus user status))) := by
  refine Does.query isOfKind ?_
  split
  next => exact Does.respond _
  next => exact does_logFailure _ _

/-- Looking for the user of an account and noting a status down writes the user if one is found. -/
theorem does_updateUser
    (spares : ∀ statement, statement.writesTo "gifts" = false → kind statement)
    (accountCode : String)
    (status : SubscriptionStatus) :
    Does around kind (updateUser accountCode status) pool []
      (pool.noted
        (revisedUser? ((Uuid.parse? accountCode).map fun userId => (userId, status)) pool)) := by
  unfold updateUser revisedUser?
  split
  next isStrange =>
    rw [isStrange]
    exact Does.note (Does.respond _)
  next userId isParsed =>
    rw [isParsed]
    refine Does.select (spares _ rfl) rfl ?_
    split
    next user yields =>
      have found : pool.found? User "id" userId.text = some user := found?_of_ask yields
      simp only [found, Option.map_some, Option.bind_eq_bind, Option.bind_some]
      exact does_applyStatus user status (spares _ (writesTo_update (by decide)))
    next yields =>
      have found : pool.found? User "id" userId.text = none := found?_of_ask yields
      simp only [found, Option.map_some, Option.bind_eq_bind, Option.bind_some, Option.bind_none]
      exact Does.note (Does.respond _)
    next failure fails =>
      have found : pool.found? User "id" userId.text = none := found?_of_ask_error fails
      simp only [found, Option.map_some, Option.bind_eq_bind, Option.bind_some, Option.bind_none]
      exact does_logFailure _ _

/-- Asking for the status of an account is one task, after which the user is written if one is
found. -/
theorem does_syncStatus
    (spares : ∀ statement, statement.writesTo "gifts" = false → kind statement)
    (accountCode : String) :
    Does around kind (syncStatus accountCode) pool [statusTask accountCode]
      (pool.noted (revisedUser? (accountStatus? around accountCode) pool)) := by
  refine Does.task ?_
  unfold accountStatus? statusTask
  split
  next status told =>
    rw [told]
    exact does_updateUser spares accountCode status
  next told =>
    rw [told]
    exact Does.note (Does.respond _)
  next failure told =>
    rw [told]
    exact does_logFailure _ _

/-! ## Gifts -/

/-- A gift as it is written because of a notice, if it changes. -/
def changedGift? (notice : SubscriptionNotice) (gift : Stored Gift) : Option (Stored Gift) :=
  match giftChange gift.data notice with
  | GiftChange.reschedule sendAt => some { gift with data := { gift.data with sendAt } }
  | GiftChange.activate => some { gift with data := { gift.data with activated := true } }
  | GiftChange.nothing => none

/-- The mails that are sent because of a notice about a gift. -/
def giftMails (catalog : Catalog) (notice : SubscriptionNotice) (gift : Stored Gift) :
    List TaskDescription :=
  match giftChange gift.data notice with
  | GiftChange.activate =>
    [(Collaborator.send (giftMail catalog gift.data notice.planCode)).description]
  | _ => []

theorem does_notify (mail : Email) :
    Does around kind (notify mail) pool [(Collaborator.send mail).description] pool := by
  refine Does.task ?_
  split
  next => exact Does.respond _
  next => exact does_logFailure _ _

/-- Noting a change of a gift down writes the gift. -/
theorem does_saveGift
    (gift : Stored Gift)
    (isOfKind : kind gift.update.statement) :
    Does around kind (saveGift gift) pool [] (pool.noted (some gift)) := by
  refine Does.query isOfKind ?_
  split
  next => exact Does.respond _
  next => exact does_fail _

/-- Applying a notice to a gift writes it if it changes, and sends a mail if it becomes active. -/
theorem does_changeGift
    {notice : SubscriptionNotice}
    {gift : Stored Gift}
    (writes : ∀ changed ∈ changedGift? notice gift, kind changed.update.statement)
    (catalog : Catalog) :
    Does around kind (changeGift catalog notice gift) pool (giftMails catalog notice gift)
      (pool.noted (changedGift? notice gift)) := by
  unfold changeGift giftMails
  unfold changedGift? at writes ⊢
  split
  next sendAt isRescheduled =>
    simp only [isRescheduled] at writes ⊢
    exact does_saveGift _ (writes _ rfl)
  next isActivated =>
    simp only [isActivated] at writes ⊢
    exact Does.detach (does_notify _) (does_saveGift _ (writes _ rfl))
  next isUnchanged =>
    simp only [isUnchanged]
    exact Does.respond _

/-- A notice about a gift, and the gift that it is about, if that is there. -/
def noticedGift? (about : Option SubscriptionNotice) (pool : Pool) :
    Option (SubscriptionNotice × Stored Gift) := do
  let notice ← about
  let gift ← pool.found? Gift "subscription_id" notice.uuid
  some (notice, gift)

/-- Which gift a notice is about depends on the gifts alone. -/
theorem noticedGift?_congr
    {other : Pool}
    (same : pool.rows "gifts" = other.rows "gifts")
    (about : Option SubscriptionNotice) :
    noticedGift? about pool = noticedGift? about other := by
  have found : ∀ text, pool.found? Gift "subscription_id" text =
      other.found? Gift "subscription_id" text :=
    fun text => found?_congr same "subscription_id" text
  simp only [noticedGift?, found]

/-- The gift that a notice is about as it is written because of the notice, if it changes. -/
def revisedGift? (about : Option SubscriptionNotice) (pool : Pool) : Option (Stored Gift) := do
  let (notice, gift) ← noticedGift? about pool
  changedGift? notice gift

/-- The mails that are sent because of a notice. -/
def sentMails (catalog : Catalog) (about : Option SubscriptionNotice) (pool : Pool) :
    List TaskDescription :=
  match noticedGift? about pool with
  | some (notice, gift) => giftMails catalog notice gift
  | none => []

/-- After something else was detached, the gift that a notice is about is found, written if it
changes, and a mail is sent if it becomes active. -/
theorem does_besides_updateGift
    {accountCode : String}
    {subscription : Option SubscriptionNotice}
    {tasks : List TaskDescription}
    {between : Pool}
    (spares : ∀ statement, statement.writesTo "gifts" = false → kind statement)
    (writes : ∀ revised ∈ revisedGift? (subscription.filter SubscriptionNotice.isGift) pool,
      kind revised.update.statement)
    (first : Does around kind (syncStatus accountCode) pool tasks between)
    (sameGifts : between.rows "gifts" = pool.rows "gifts") :
    Does around kind (Chain.besides (syncStatus accountCode) (updateGift subscription)) pool
      (tasks ++ sentMails around.world.catalog (subscription.filter SubscriptionNotice.isGift) pool)
      (between.noted (revisedGift? (subscription.filter SubscriptionNotice.isGift) pool)) := by
  unfold updateGift sentMails
  unfold revisedGift? at writes ⊢
  rw [← noticedGift?_congr sameGifts] at writes ⊢
  split
  next isOther =>
    rw [isOther]
    exact Does.detach first (Does.respond _)
  next notice isAbout =>
    rw [isAbout] at writes ⊢
    refine Does.observe (Does.detach first (Does.select (spares _ rfl) rfl ?_))
    cases yields : between.ask (Stored.selectBy Gift "subscription_id" (Json.string notice.uuid)) with
    | error failure =>
        have missing : noticedGift? (some notice) between = none := by
          simp [noticedGift?, found?_of_ask_error yields]
        rw [missing]
        exact does_fail _
    | ok found =>
        cases found with
        | none =>
            have missing : noticedGift? (some notice) between = none := by
              simp [noticedGift?, found?_of_ask yields]
            rw [missing]
            exact Does.note (Does.respond _)
        | some gift =>
            have noticed : noticedGift? (some notice) between = some (notice, gift) := by
              simp [noticedGift?, found?_of_ask yields]
            rw [noticed] at writes ⊢
            exact does_changeGift writes around.world.catalog

/-! ## Notices -/

/-- What a payload says about a gift, if it says something. -/
def about? (body : Bytes) : Option SubscriptionNotice := do
  let notice ← BillingNotice.read? body
  notice.subscription.filter SubscriptionNotice.isGift

/-- The user whose account a payload names, and the status that the surroundings tell of it. -/
def told? (around : Surroundings World) : Option (Uuid × SubscriptionStatus) := do
  let notice ← BillingNotice.read? around.body
  accountStatus? around notice.accountCode

/-- The task of asking for the status of the account that a payload names. -/
def statusTasks (body : Bytes) : List TaskDescription :=
  ((BillingNotice.read? body).map fun notice => statusTask notice.accountCode).toList

/-- Taking in a notice writes the user and the gift that it concerns, and sends the mails. If the
gift does not change, nothing is written to the gifts. -/
theorem does_billingNotice (around : Surroundings World) (pool : Pool) :
    Does around
      (fun statement =>
        revisedGift? (about? around.body) pool = none → statement.writesTo "gifts" = false)
      billingNotice pool
      (statusTasks around.body ++ sentMails around.world.catalog (about? around.body) pool)
      ((pool.noted (revisedUser? (told? around) pool)).noted
        (revisedGift? (about? around.body) pool)) := by
  refine Does.body ?_
  unfold about? told? statusTasks
  split
  next isMalformed =>
    simp only [isMalformed]
    exact Does.note (Does.respond _)
  next notice isRead =>
    simp only [isRead, Option.bind_eq_bind, Option.bind_some]
    have sameGifts :
        (pool.noted (revisedUser? (accountStatus? around notice.accountCode) pool)).rows "gifts" =
          pool.rows "gifts" := rows_noted_of_ne (by decide) _
    refine does_besides_updateGift (fun _ spares _ => spares)
      (fun revised isRevised isSettled => ?_)
      (does_syncStatus (fun _ spares _ => spares) notice.accountCode) sameGifts
    cases isSettled.symm.trans isRevised

end Site

end Screencast
