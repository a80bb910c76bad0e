import Screencast.Effect.Capture

/-!
# Reports

The outcome of a captured run as a JSON value: the terminal, and what was resolved on the way.
-/

namespace Screencast

namespace Html

namespace Form

/-- The JSON value of a form. -/
def toJson (form : Form) : Json :=
  Json.object
    [("action", Json.string form.action), ("method", Json.string form.method),
      ("inputs",
        Json.array (form.inputs.map fun (name, value) =>
          Json.array [Json.string name, Json.string value]))]

end Form

end Html

namespace Terminal

/-- The JSON value of headers. -/
def headersJson (headers : Headers) : Json :=
  Json.object (headers.map fun (name, value) => (name, Json.string value))

/-- The JSON value of a terminal. -/
def toJson (terminal : Terminal) : Json :=
  match terminal with
  | text body _ headers =>
    Json.object
      [("kind", Json.string "text"), ("body", Json.string body), ("headers", headersJson headers)]
  | binary bytes _ headers =>
    Json.object
      [("kind", Json.string "binary"), ("body", Json.string terminal.bodyText),
        ("bytes", Json.string (Text.hexOfBytes bytes)), ("headers", headersJson headers)]
  | html _ _ =>
    Json.object [("kind", Json.string "html"), ("body", Json.string terminal.bodyText)]
  | file path maxAge =>
    Json.object
      [("kind", Json.string "file"), ("path", Json.string path),
        ("max_age", Json.ofOption (fun seconds : Nat => Json.integer seconds) maxAge)]
  | redirect path headers =>
    Json.object
      [("kind", Json.string "redirect"), ("location", Json.string path),
        ("headers", headersJson headers)]

/-- What a page shows beside its text. -/
def looks (terminal : Terminal) : List (String × Json) :=
  [("links", Json.array (terminal.linkTargets.map Json.string)),
    ("forms", Json.array (terminal.forms.map Html.Form.toJson))]

end Terminal

namespace Outcome

/-- What is reported of an outcome whose trace has been reported. -/
def members (outcome : Outcome) (trace : List Json) : List (String × Json) :=
  let terminal := outcome.terminal
  let counts : List Nat :=
    [outcome.queries.length, outcome.allQueries.length, outcome.tasks.length,
      outcome.allTasks.length, outcome.detached.length]
  [("status", Json.integer terminal.status.code), ("is_error", Json.bool terminal.isError),
    ("terminal", terminal.toJson), ("trace", Json.array trace),
    ("counts", Json.array (counts.map fun count : Nat => Json.integer count))]

end Outcome

namespace Resolved

mutual

/-- The JSON value of something that was resolved. -/
def toJson : Resolved → Json
  | session signedIn => Json.array [Json.string "session", Json.bool signedIn]
  | body length => Json.array [Json.string "body", Json.integer length]
  | query statement succeeded =>
    Json.array
      [Json.string "query", Json.string statement.text, Json.array statement.params,
        Json.bool succeeded]
  | task description succeeded =>
    Json.array
      [Json.string "task", Json.string description.name, Json.string description.detail,
        Json.bool succeeded]
  | detached terminal trace =>
    Json.array
      [Json.string "detached",
        Json.object (Outcome.members { terminal, trace } (toJsonAll trace))]
  | cleanup => Json.array [Json.string "cleanup"]

/-- The JSON values of steps one after another. -/
def toJsonAll : List Resolved → List Json
  | [] => []
  | step :: rest => toJson step :: toJsonAll rest

end

end Resolved

namespace Outcome

/-- The report of an outcome. On request it also tells the links and forms of the page. -/
def report (outcome : Outcome) (inspect : Bool) : List (String × Json) :=
  outcome.members (Resolved.toJsonAll outcome.trace) ++
    if inspect then outcome.terminal.looks else []

end Outcome

end Screencast
