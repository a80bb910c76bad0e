import Screencast.Effect.Chain
import Screencast.Site.Basic
import Screencast.Site.Gift
import Screencast.Site.Webhook

/-!
# What follows from notices

A notice of the billing provider makes the site look up the status of the account once more, and
change the gift that the notice is about. A notice that the content has changed makes the site load
its catalog again.
-/

namespace Screencast

namespace Site

/-! ## The status of an account -/

/-- The entry of the log for an account that the provider does not know. -/
def unknownAccount (accountCode : String) : LogEntry where
  level := Level.error
  message := "billing provider does not know this account"
  fields := [("account", accountCode)]

/-- The entry of the log for an account that is nobody's. -/
def strangeAccount (accountCode : String) : LogEntry where
  level := Level.error
  message := "account code is not a user id"
  fields := [("account", accountCode)]

/-- The entry of the log for a user who is not there. -/
def unknownUser (userId : Uuid) : LogEntry where
  level := Level.error
  message := "billing webhook for an unknown user"
  fields := [("user_id", userId.text)]

/-- A user with the status that the provider tells. -/
def withStatus (user : Stored User) (status : SubscriptionStatus) : Stored User :=
  { user with
    data :=
      { user.data with
        subscriber := status.subscriber
        downloadCredits := status.downloadCredits
        canceled := status.canceled } }

/-- Note the status of an account down for its user. -/
def applyStatus (user : Stored User) (status : SubscriptionStatus) : Chain World :=
  Chain.runQuery (withStatus user status).update fun outcome =>
    match outcome with
    | Except.ok _ => Chain.finish
    | Except.error error =>
      Chain.logFailure "update user from billing webhook" (some error.message)

/-- Find the user of an account, and note its status down. -/
def updateUser (accountCode : String) (status : SubscriptionStatus) : Chain World :=
  match Uuid.parse? accountCode with
  | none => Chain.log (strangeAccount accountCode) Chain.finish
  | some userId =>
    Chain.runQuery (Stored.selectBy User "id" (Row.ofUuid userId)) fun outcome =>
      match outcome with
      | Except.ok (some user) => applyStatus user status
      | Except.ok none => Chain.log (unknownUser userId) Chain.finish
      | Except.error error =>
        Chain.logFailure "load user for billing webhook" (some error.message)

/-- Ask the provider for the status of an account, and note it down. -/
def syncStatus (accountCode : String) : Chain World :=
  Chain.awaitTask (Collaborator.subscriptionStatus accountCode) fun outcome =>
    match outcome with
    | Except.ok (some status) => updateUser accountCode status
    | Except.ok none => Chain.log (unknownAccount accountCode) Chain.finish
    | Except.error error => Chain.logFailure "load subscription status" (some error.message)

/-! ## Gifts -/

/-- The entry of the log for a gift that is not there. -/
def unknownGift (subscriptionId : String) : LogEntry where
  level := Level.error
  message := "billing webhook for an unknown gift"
  fields := [("subscription", subscriptionId)]

/-- The subject of the mail that tells of a gift. -/
def giftSubject : String := "We have a gift for you..."

/-- The mail that tells of a gift. -/
def giftMail (catalog : Catalog) (gift : Gift) (planCode : String) : Email where
  recipient := gift.gifteeEmail
  name := gift.gifteeName
  subject := giftSubject
  text := gift.mailText (((catalog.plan? planCode).map Plan.prettyDuration).getD "unknown")

/-- Hand a mail to the mailer. -/
def notify (mail : Email) : Chain World :=
  Chain.awaitTask (Collaborator.send mail) fun outcome =>
    match outcome with
    | Except.ok _ => Chain.finish
    | Except.error error => Chain.logFailure "send gift email" (some error.message)

/-- Note a change of a gift down. -/
def saveGift (gift : Stored Gift) : Chain World :=
  Chain.queryOrFail gift.update fun _ => Chain.finish

/-- What a notice changes about a gift. -/
inductive GiftChange
  | reschedule (sendAt : Timestamp)
  | activate
  | nothing
  deriving DecidableEq

/-- What a notice changes about a gift. A gift whose date is the one of the notice, and a gift that
is active already, stay as they are. -/
def giftChange (gift : Gift) (notice : SubscriptionNotice) : GiftChange :=
  match notice.state, notice.activatedAt with
  | "future", some activatedAt =>
    if gift.sendAt.instant ≠ activatedAt.instant then GiftChange.reschedule activatedAt
    else GiftChange.nothing
  | "active", _ => if gift.activated then GiftChange.nothing else GiftChange.activate
  | _, _ => GiftChange.nothing

/-- Apply a notice to a gift. -/
def changeGift (catalog : Catalog) (notice : SubscriptionNotice) (gift : Stored Gift) :
    Chain World :=
  match giftChange gift.data notice with
  | GiftChange.reschedule sendAt => saveGift { gift with data := { gift.data with sendAt } }
  | GiftChange.activate =>
    Chain.besides (notify (giftMail catalog gift.data notice.planCode))
      (saveGift { gift with data := { gift.data with activated := true } })
  | GiftChange.nothing => Chain.finish

/-- Find the gift that a notice is about, and apply the notice. -/
def updateGift (subscription : Option SubscriptionNotice) : Chain World :=
  match subscription.filter SubscriptionNotice.isGift with
  | none => Chain.finish
  | some notice =>
    Chain.observe fun world =>
      Chain.queryOrFail (Stored.selectBy Gift "subscription_id" (Json.string notice.uuid))
        fun gift =>
          match gift with
          | none =>
            Chain.log (unknownGift notice.uuid) (Chain.writeStatus "" Status.internalError)
          | some gift => changeGift world.catalog notice gift

/-! ## Notices -/

/-- The entry of the log for a notice that cannot be read. -/
def malformedNotice : LogEntry where
  level := Level.warning
  message := "ignoring malformed billing webhook"
  fields := []

/-- Take in a notice of the billing provider. One that cannot be read is acknowledged, so that it
does not come again. -/
def billingNotice : Chain World :=
  Chain.withBody fun body =>
    match BillingNotice.read? body with
    | none => Chain.log malformedNotice Chain.finish
    | some notice => Chain.besides (syncStatus notice.accountCode) (updateGift notice.subscription)

/-- Take in that the content has changed: load the catalog after answering. -/
def contentNotice : Chain World :=
  Chain.besides
    (Chain.awaitTask Collaborator.refreshCatalog fun outcome =>
      match outcome with
      | Except.ok _ => Chain.finish
      | Except.error error => Chain.logFailure "refresh catalog" (some error.message))
    Chain.finish

end Site

end Screencast
