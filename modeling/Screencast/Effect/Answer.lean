import Screencast.Effect.Stubs
import Screencast.Json.Access

/-!
# Answers in JSON

The answers of collaborators, as they stand in files of answers. The name of a task tells the type
of its answers; other tasks are answered by integers.
-/

namespace Screencast

namespace Profile

/-- Read a profile. -/
def ofJson (value : Json) : Profile where
  id := (value.field "id").toInt
  login := (value.field "login").text
  email := (value.field "email").text?
  avatarUrl := (value.field "avatar_url").text
  name := (value.field "name").text?

end Profile

namespace Coupon

/-- Read a coupon. -/
def ofJson (value : Json) : Coupon where
  couponCode := (value.field "coupon_code").text
  state := (value.field "state").text
  description := (value.field "description").text
  discountPercent := (value.field "discount_percent").natural?

end Coupon

namespace SubscriptionStatus

/-- Read the status of an account. -/
def ofJson (value : Json) : SubscriptionStatus where
  subscriber := (value.field "subscriber").isTrue
  downloadCredits := (value.field "download_credits").toInt
  canceled := (value.field "canceled").isTrue

end SubscriptionStatus

namespace TaskError

/-- Read the failure of a task. -/
def ofJson (value : Json) : TaskError :=
  if value.has "failed" then failed (value.field "failed").text
  else if value.has "stub" then stub (value.field "stub").text
  else cancelled

end TaskError

namespace Answer

/-- Read the answer to a task. -/
def ofJson (task : String) (value : Json) : Answer :=
  match task with
  | "mailer.send" => unit
  | "catalog.refresh" => unit
  | "oauth.access_token" => token value.text?
  | "oauth.profile" => profile (Profile.ofJson value)
  | "billing.coupon" => coupon (Coupon.ofJson value)
  | "billing.subscription_status" => status (value.given? SubscriptionStatus.ofJson)
  | _ => integer value.toInt

/-- Read how a task ends. -/
def outcomeOfJson (task : String) (value : Json) : Except TaskError Answer :=
  if value.has "ok" then Except.ok (ofJson task (value.field "ok"))
  else if value.has "wrong" then Except.ok foreign
  else Except.error (TaskError.ofJson value)

/-- Read when a task ends, and how. -/
def completionOfJson (task : String) (value : Json) : Completion Answer :=
  if value.has "never" then Completion.never else Completion.ready (outcomeOfJson task value)

end Answer

namespace Script

variable {answer : Type}

/-- Take in the answers of a file, by the names of the tasks: one that is given again and again, or
several one after another. -/
def merge (script : Script answer) (read : String → Json → answer) (file : Json) :
    Script answer :=
  file.fields.foldl (fun script (task, answers) =>
    match answers with
    | Json.array answers => script.put task (answers.map (read task))
    | single => script.put task [read task single]) script

end Script

end Screencast
