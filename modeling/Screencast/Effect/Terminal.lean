import Screencast.Failure
import Screencast.Http.Header
import Screencast.Json.Basic

/-!
# Terminals

A chain of effects ends with exactly one terminal: what is sent to the visitor.
-/

namespace Screencast

/-- The headers of a response, sorted by name. -/
abbrev Headers := KeyMap String

/-- What a chain ends with. -/
inductive Terminal
  | text (body : String) (status : Status) (headers : Headers)
  | binary (bytes : Bytes) (status : Status) (headers : Headers)
  | html (node : Html.Node) (status : Status)
  | file (path : String) (maxAge : Option Nat)
  | redirect (path : String) (headers : Headers)

namespace Terminal

/-- The status of a terminal. -/
def status : Terminal → Status
  | text _ status _ => status
  | binary _ status _ => status
  | html _ status => status
  | file _ _ => Status.ok
  | redirect _ _ => Status.found

/-- Whether a terminal reports an error. -/
def isError (terminal : Terminal) : Bool := terminal.status.isError

/-- The targets of the links of a page. -/
def linkTargets : Terminal → List String
  | html node _ => node.linkTargets
  | _ => []

/-- The forms of a page. -/
def forms : Terminal → List Html.Form
  | html node _ => node.forms
  | _ => []

/-- The body of a terminal as a text. -/
def bodyText : Terminal → String
  | text body _ _ => body
  | binary bytes _ _ => Text.decodeLossy bytes
  | html node _ => node.renderDocument
  | file _ _ => ""
  | redirect _ _ => ""

/-- The value of the first header with a name, whatever the case of its letters. -/
def header? (name : String) : Terminal → Option String
  | text _ _ headers => find headers
  | binary _ _ headers => find headers
  | redirect _ headers => find headers
  | _ => none
where
  /-- The value of the first of the headers with the name. -/
  find (headers : Headers) : Option String :=
    (List.find? (fun (key, _) => Text.equalIgnoringCase key name) headers).map (·.2)

/-- What is wrong with the first header that cannot be sent. -/
def headerFault? (headers : Headers) : Option String :=
  headers.findSome? fun (name, value) =>
    if !Http.isName name then some "invalid HTTP header name"
    else if !Http.isValue (Text.encode value) then some "failed to parse header value"
    else none

/-- The headers of a redirect, which name its target. -/
def redirectHeaders (path : String) (headers : Headers) : Headers := headers.put "location" path

/-- Why a terminal cannot be sent as it is, if one of its headers is malformed. -/
def fault? : Terminal → Option String
  | text _ _ headers => headerFault? headers
  | binary _ _ headers => headerFault? headers
  | redirect path headers => headerFault? (redirectHeaders path headers)
  | _ => none

end Terminal

end Screencast
