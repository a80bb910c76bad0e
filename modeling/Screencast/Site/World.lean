import Screencast.Effect.Script
import Screencast.Effect.Task
import Screencast.Site.Catalog

/-!
# The world outside the site

The catalog that is published at present, the file that it is loaded from, the answers that the
collaborators have in store, and the mails that were handed to the mailer.
-/

namespace Screencast

/-- What the site sees and changes outside. -/
structure World where
  catalog : Catalog
  source : Except Catalog.Error Catalog
  answers : Script (Completion Answer) := []
  mails : List Email := []

namespace World

/-- Publish the catalog of the source, if it can be loaded. -/
def refresh (world : World) : Except Catalog.Error Unit × World :=
  match world.source with
  | Except.ok catalog => (Except.ok (), { world with catalog })
  | Except.error error => (Except.error error, world)

/-- A refresh that fails leaves everything as it was. -/
theorem refresh_of_error {world : World} {error : Catalog.Error}
    (failed : world.source = Except.error error) : world.refresh = (Except.error error, world) := by
  simp [refresh, failed]

/-- A refresh that succeeds publishes the catalog of the source. -/
theorem refresh_of_ok {world : World} {catalog : Catalog}
    (loaded : world.source = Except.ok catalog) :
    world.refresh = (Except.ok (), { world with catalog }) := by
  simp [refresh, loaded]

variable {result : Type} [Answerable result]

/-- The completion of a call to a collaborator. A collaborator without answers is not configured. -/
def call (name what : String) (world : World) : Completion result × World :=
  match world.answers.next name with
  | (none, _) =>
    (Completion.ready (Except.error (TaskError.failed (what ++ " is not configured"))), world)
  | (some completion, answers) =>
    (completion.bind fun answer =>
      match Answerable.ofAnswer? answer with
      | some value => Except.ok value
      | none => Except.error (TaskError.stub name), { world with answers })

end World

/-! ## Collaborators -/

namespace Collaborator

/-- Ask the billing provider for the status of an account. -/
def subscriptionStatus (accountCode : String) : Task World (Option SubscriptionStatus) :=
  Task.describe "billing.subscription_status" accountCode
    (World.call "billing.subscription_status" "billing provider")

/-- Ask the billing provider for a coupon. -/
def coupon (code : String) : Task World Coupon :=
  Task.describe "billing.coupon" code (World.call "billing.coupon" "billing provider")

/-- Hand a mail to the mailer. -/
def send (email : Email) : Task World Unit :=
  Task.describe "mailer.send" email.recipient fun world =>
    World.call "mailer.send" "mailer" { world with mails := world.mails ++ [email] }

/-- Exchange a code for a token, which the provider may refuse. -/
def accessToken : Task World (Option String) :=
  Task.describe "oauth.access_token" "" (World.call "oauth.access_token" "GitHub sign-in")

/-- Ask for the profile behind a token. -/
def profile : Task World Profile :=
  Task.describe "oauth.profile" "" (World.call "oauth.profile" "GitHub sign-in")

/-- Load the catalog from its source and publish it. -/
def refreshCatalog : Task World Unit :=
  Task.describe "catalog.refresh" "" fun world =>
    let (outcome, world) := world.refresh
    (Completion.ready (outcome.mapError fun error => TaskError.failed error.message), world)

end Collaborator

end Screencast
