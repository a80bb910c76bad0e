import Screencast.Failure
import Screencast.Json.Basic

/-!
# Collaborators

What the site gets from the billing provider and from the provider of identities, and what it hands
to the mailer.
-/

namespace Screencast

/-- The billing provider's view of an account. -/
structure SubscriptionStatus where
  subscriber : Bool
  downloadCredits : Int
  canceled : Bool
  deriving DecidableEq, Repr

/-- A coupon of the billing provider. -/
structure Coupon where
  couponCode : String
  state : String
  description : String
  discountPercent : Option Nat
  deriving DecidableEq, Repr

namespace Coupon

/-- Whether a coupon can still be used. -/
def isRedeemable (coupon : Coupon) : Bool := coupon.state = "redeemable"

end Coupon

/-- A mail to somebody. -/
structure Email where
  recipient : String
  name : String
  subject : String
  text : String
  deriving DecidableEq, Repr

namespace Email

/-- The JSON value of a mail. -/
def toJson (email : Email) : Json :=
  Json.object
    [("to", Json.string email.recipient), ("name", Json.string email.name),
      ("subject", Json.string email.subject), ("text", Json.string email.text)]

end Email

/-- The profile of somebody who signs in. -/
structure Profile where
  id : Int
  login : String
  email : Option String
  avatarUrl : String
  name : Option String
  deriving DecidableEq, Repr

end Screencast
