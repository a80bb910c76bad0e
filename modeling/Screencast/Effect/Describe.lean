import Screencast.Effect.Chain

/-!
# Descriptions of chains

A chain that waits for its first effect can be told by the kind of this effect, and shown.
-/

namespace Screencast

namespace Chain

variable {world : Type}

/-- The kind of the first effect of a chain. -/
def kind : Chain world → String
  | respond (Terminal.text ..) => "write_text"
  | respond (Terminal.binary ..) => "write_binary"
  | respond (Terminal.html ..) => "write_html"
  | respond (Terminal.file ..) => "write_file"
  | respond (Terminal.redirect ..) => "redirect"
  | session .. => "with_session"
  | body .. => "with_request_body"
  | query .. => "run_query"
  | task .. => "await_async"
  | detach .. => "detach"
  | ensure .. => "ensure"
  | note _ rest => rest.kind
  | fresh _ => ""
  | observe _ => ""

/-- A structure shown with its fields. -/
def showFields (name : String) (fields : List (String × String)) (isWhole : Bool) : String :=
  let shown := fields.map fun (field, value) => field ++ ": " ++ value
  name ++ " \x7b " ++ ", ".intercalate (if isWhole then shown else shown ++ [".."]) ++ " \x7d"

/-- An optional number, shown. -/
def showOption : Option Nat → String
  | some number => "Some(" ++ toString number ++ ")"
  | none => "None"

/-- The first effect of a chain, shown. -/
def describe : Chain world → String
  | respond (Terminal.text content status _) =>
    showFields "WriteText" [("status", toString status.code), ("body", Text.quoted content)] false
  | respond (Terminal.binary bytes status _) =>
    showFields "WriteBinary" [("status", toString status.code), ("len", toString bytes.length)]
      false
  | respond (Terminal.html _ status) =>
    showFields "WriteHtml" [("status", toString status.code)] false
  | respond (Terminal.file path maxAge) =>
    showFields "WriteFile" [("path", Text.quoted path), ("max_age", showOption maxAge)] true
  | respond (Terminal.redirect path _) =>
    showFields "Redirect" [("path", Text.quoted path)] false
  | query _ issued _ => "RunQuery(" ++ Text.quoted issued.statement.text ++ ")"
  | task _ call _ =>
    let description := call.description
    "AwaitAsync(" ++
      showFields "TaskDescription"
        [("name", Text.quoted description.name), ("detail", Text.quoted description.detail)] true ++
      ")"
  | note _ rest => rest.describe
  | other => other.kind

end Chain

end Screencast
