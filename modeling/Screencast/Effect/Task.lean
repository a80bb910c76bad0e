import Screencast.Collaborators

/-!
# Tasks

A task is a call to somebody outside. When it is performed, it completes after some time or never.
Tests answer tasks by their descriptions; an answer must then have the type that the task expects.
-/

namespace Screencast

/-- What a task does. -/
structure TaskDescription where
  name : String
  detail : String
  deriving DecidableEq, Repr

namespace TaskDescription

/-- The text of a description. -/
def text (description : TaskDescription) : String :=
  if description.detail = "" then description.name
  else description.name ++ " (" ++ description.detail ++ ")"

end TaskDescription

/-- An answer to a task, of any of the types that tasks expect or of another one. -/
inductive Answer
  | unit
  | integer (value : Int)
  | token (value : Option String)
  | coupon (value : Coupon)
  | profile (value : Profile)
  | status (value : Option SubscriptionStatus)
  | foreign
  deriving DecidableEq, Repr

/-- A type that tasks expect answers of. -/
class Answerable (result : Type) where
  /-- The name of the type. -/
  name : String
  /-- The value in an answer of the type. -/
  ofAnswer? : Answer → Option result

instance : Answerable Unit where
  name := "()"
  ofAnswer?
    | Answer.unit => some ()
    | _ => none

instance : Answerable Int where
  name := "i64"
  ofAnswer?
    | Answer.integer value => some value
    | _ => none

instance : Answerable (Option String) where
  name := "core::option::Option<alloc::string::String>"
  ofAnswer?
    | Answer.token value => some value
    | _ => none

instance : Answerable Coupon where
  name := "bitserve_site::collaborators::Coupon"
  ofAnswer?
    | Answer.coupon value => some value
    | _ => none

instance : Answerable Profile where
  name := "bitserve_site::collaborators::GithubProfile"
  ofAnswer?
    | Answer.profile value => some value
    | _ => none

instance : Answerable (Option SubscriptionStatus) where
  name := "core::option::Option<bitserve_site::collaborators::SubscriptionStatus>"
  ofAnswer?
    | Answer.status value => some value
    | _ => none

/-- When a task completes, and how. -/
inductive Completion (result : Type)
  | after (millis : Nat) (outcome : Except TaskError result)
  | never

namespace Completion

variable {result other : Type}

/-- A task that has completed at once. -/
def ready (outcome : Except TaskError result) : Completion result := after 0 outcome

/-- Change the outcome of a completion. -/
def bind (completion : Completion result) (change : result → Except TaskError other) :
    Completion other :=
  match completion with
  | after millis outcome => after millis (outcome.bind change)
  | never => never

/-- When a task that is waited for is over, and with which result. A cancellation that has come by
then goes before everything else, and a task that completes at its deadline is not late. -/
def settle (completion : Completion result) (late : TaskError) (deadline cancelled : Option Nat) :
    Option (Nat × Except TaskError result) :=
  let natural :=
    match completion, deadline with
    | after millis outcome, some limit =>
      if millis ≤ limit then some (millis, outcome) else some (limit, Except.error late)
    | after millis outcome, none => some (millis, outcome)
    | never, some limit => some (limit, Except.error late)
    | never, none => none
  match natural, cancelled with
  | some (time, outcome), some moment =>
    if moment ≤ time then some (moment, Except.error TaskError.cancelled) else some (time, outcome)
  | none, some moment => some (moment, Except.error TaskError.cancelled)
  | natural, none => natural

end Completion

/-- A described call that was not started yet. Performing it may change the world outside. -/
structure Task (world result : Type) where
  description : TaskDescription
  expected : String
  ofAnswer? : Answer → Option result
  perform : world → Completion result × world

namespace Task

variable {world result : Type}

/-- A task that expects answers of a type. -/
def describe [Answerable result] (name detail : String)
    (perform : world → Completion result × world) : Task world result where
  description := { name, detail }
  expected := Answerable.name result
  ofAnswer? := Answerable.ofAnswer?
  perform := perform

/-- Change the result of performing a task. -/
def map (change : result → result) (task : Task world result) : Task world result :=
  { task with
    perform := fun before =>
      let (completion, after) := task.perform before
      (completion.bind fun value => Except.ok (change value), after) }

@[simp] theorem description_map (change : result → result) (task : Task world result) :
    (task.map change).description = task.description := rfl

/-- The failure of a task that was answered by a value of another type. -/
def mismatch (task : Task world result) : TaskError :=
  TaskError.stub (task.description.name ++ " expects a value of type " ++ task.expected)

/-- The failure of a task that did not complete before its deadline. -/
def late (task : Task world result) : TaskError :=
  TaskError.failed (task.description.text ++ " timed out")

/-- What a task makes of an answer. -/
def resolve (task : Task world result) (answer : Except TaskError Answer) :
    Except TaskError result :=
  match answer with
  | Except.error error => Except.error error
  | Except.ok answer =>
    match task.ofAnswer? answer with
    | some value => Except.ok value
    | none => Except.error task.mismatch

end Task

end Screencast
