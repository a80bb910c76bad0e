import Screencast.Json.Shape
import Screencast.Site.Catalog

/-!
# Notices of the billing provider

The provider tells by a JSON payload that something changed for an account, and which subscription
it is about.
-/

namespace Screencast

/-- What a notice says about a subscription. -/
structure SubscriptionNotice where
  uuid : String
  planCode : String
  state : String
  activatedAt : Option Timestamp
  deriving DecidableEq

namespace SubscriptionNotice

/-- Whether the subscription is a gift. -/
def isGift (notice : SubscriptionNotice) : Bool := Plan.isGiftCode notice.planCode

/-- The reader of the plan of a notice, of which only the code counts. -/
def planShape : Shape String := fun allowance source => do
  let members ← Members.of ["plan_code"] allowance source
  members.required "plan_code" Shape.text

/-- The reader of what a notice says about a subscription. -/
def shape : Shape SubscriptionNotice := fun allowance source => do
  let members ← Members.of ["uuid", "plan", "state", "activated_at"] allowance source
  let uuid ← members.required "uuid" Shape.text
  let planCode ← members.required "plan" planShape
  let state ← members.required "state" Shape.text
  let activatedAt ←
    members.withDefault "activated_at" (Shape.optional (Shape.parsed Timestamp.parse?)) none
  pure { uuid, planCode, state, activatedAt }

end SubscriptionNotice

/-- A notice of the billing provider. -/
structure BillingNotice where
  accountCode : String
  subscription : Option SubscriptionNotice
  deriving DecidableEq

namespace BillingNotice

/-- The reader of the account of a notice, of which only the code counts. -/
def accountShape : Shape String := fun allowance source => do
  let members ← Members.of ["account_code"] allowance source
  members.required "account_code" Shape.text

/-- The reader of notices. -/
def shape : Shape BillingNotice := fun allowance source => do
  let members ← Members.of ["account", "subscription"] allowance source
  let accountCode ← members.required "account" accountShape
  let subscription ←
    members.withDefault "subscription" (Shape.optional SubscriptionNotice.shape) none
  pure { accountCode, subscription }

/-- Read the payload of a notice. -/
def read? (body : Bytes) : Option BillingNotice :=
  JsonSource.read? body >>= shape JsonSource.nesting

end BillingNotice

end Screencast
