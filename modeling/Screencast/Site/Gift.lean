import Screencast.Store.Query

/-!
# Gifts

A gift is a subscription that somebody pays for somebody else. It becomes active at a date, and the
one who gets it is then told so by mail.
-/

namespace Screencast

/-- A gift subscription. -/
structure Gift where
  gifterEmail : Option String
  gifterName : Option String
  gifteeEmail : String
  gifteeName : String
  sendAt : Timestamp
  message : String
  subscriptionId : Option String
  activated : Bool
  planCode : String
  deriving DecidableEq

namespace Gift

/-- The row of a gift. -/
def encode (gift : Gift) : Except RowError Row := do
  let sendAt ← Row.ofTimestamp gift.sendAt
  pure
    [("activated", Json.bool gift.activated),
      ("giftee_email", Json.string gift.gifteeEmail),
      ("giftee_name", Json.string gift.gifteeName),
      ("gifter_email", Row.ofText? gift.gifterEmail),
      ("gifter_name", Row.ofText? gift.gifterName),
      ("message", Json.string gift.message),
      ("plan_code", Json.string gift.planCode),
      ("send_at", sendAt),
      ("subscription_id", Row.ofText? gift.subscriptionId)]

/-- Read a gift from a row. -/
def read (row : Row) : Except RowError Gift := do
  let gifterEmail ← row.optional "gifter_email" ColumnType.text
  let gifterName ← row.optional "gifter_name" ColumnType.text
  let gifteeEmail ← row.required "giftee_email" ColumnType.text
  let gifteeName ← row.required "giftee_name" ColumnType.text
  let sendAt ← row.required "send_at" ColumnType.timestamp
  let message ← row.required "message" ColumnType.text
  let subscriptionId ← row.optional "subscription_id" ColumnType.text
  let activated ← row.required "activated" ColumnType.bool
  let planCode ← row.required "plan_code" ColumnType.text
  pure
    { gifterEmail, gifterName, gifteeEmail, gifteeName, sendAt, message, subscriptionId,
      activated, planCode }

instance : Record Gift where
  name := "GiftData"
  table := "gifts"
  columns :=
    [("gifter_email", ColumnType.text.optional.check),
      ("gifter_name", ColumnType.text.optional.check),
      ("giftee_email", ColumnType.text.check),
      ("giftee_name", ColumnType.text.check),
      ("send_at", ColumnType.timestamp.check),
      ("message", ColumnType.text.check),
      ("subscription_id", ColumnType.text.optional.check),
      ("activated", ColumnType.bool.check),
      ("plan_code", ColumnType.text.check)]
  encode := encode
  read := read

/-- The mail that tells of a gift that gives access for a length of time. -/
def mailText (gift : Gift) (duration : String) : String :=
  let greeting :=
    "Hi " ++ gift.gifteeName ++ ",\n\n" ++ gift.gifterName.getD "Someone" ++ " has given you " ++
      duration ++ " of access to every episode.\n"
  let note := if gift.message = "" then "" else "\nThey wrote:\n\n" ++ gift.message ++ "\n"
  greeting ++ note ++ "\nSign in with GitHub to start watching.\n"

end Gift

end Screencast
