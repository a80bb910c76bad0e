import Screencast.Account.Session
import Screencast.Http.Header
import Screencast.Http.Target

/-!
# Requests

A request as it arrives: its method, its target, its headers and its body.
-/

namespace Screencast

namespace Http

/-- A request. The body is missing if it breaks off while it is read. -/
structure Request where
  method : String
  target : Target
  headers : List (String × Bytes)
  body : Option Bytes

namespace Request

/-- Put a request together, unless its method, its target or one of its headers is malformed. -/
def make? (method target : String) (headers : List (String × Bytes)) (body : Option Bytes) :
    Option Request :=
  if isMethod method && headers.all fun (name, value) => isName name && isValue value then
    (Target.parse? target).map fun target => { method, target, headers, body }
  else none

/-- Read a request from a line: its method, its target and its body, which may be missing, with
blanks between them. -/
def ofLine? (line : String) : Option Request :=
  match Text.cut ' ' (Text.trim line) with
  | none => none
  | some (method, rest) =>
    match Text.cut ' ' rest with
    | some (target, body) => make? method target [] (some (Text.encode body))
    | none => make? method rest [] (some [])

/-- The cookie headers that can be read. -/
def cookies (request : Request) : List String :=
  request.headers.filterMap fun (name, value) =>
    if lowerName name = "cookie" then visibleText? value else none

/-- The identifier of the session that the cookies name. -/
def sessionToken? (request : Request) : Option Uuid :=
  request.cookies.findSome? Session.token?

end Request

end Http

end Screencast
