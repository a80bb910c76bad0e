import Screencast.Account.User

/-!
# Sessions

A session is the identity behind a request. The browser names it by a cookie.
-/

namespace Screencast

/-- The identity behind a request. -/
structure Session where
  sessionId : Uuid
  user : Stored User
  teamManager : Option (Stored User)
  deriving DecidableEq

namespace Session

/-- The identifier of the user who is signed in. -/
def userId (session : Session) : Uuid := session.user.id

/-- Whether the user may see everything without the help of a team. -/
def hasOwnAccess (session : Session) : Bool :=
  session.user.data.admin || session.user.data.subscriber

/-- Whether the user may see everything, alone or through a team. -/
def hasAccess (session : Session) : Bool :=
  session.hasOwnAccess || session.teamManager.any fun manager => manager.data.subscriber

/-- Whether the user is in the team of the given user. -/
def isInTeamOf (session : Session) (managerId : Uuid) : Bool :=
  session.teamManager.any fun manager => manager.id = managerId

/-- The name of the cookie that holds the identifier of a session. -/
def cookieName : String := "sessionid"

/-- A value without the quotes around it. -/
def unquote (value : String) : String :=
  String.ofList (Text.trimChars (· = '"') value.toList)

/-- The identifier in one pair of a cookie header. -/
def tokenOfPair? (pair : String) : Option Uuid :=
  match Text.cut '=' pair with
  | some (name, value) =>
    if Text.trim name = cookieName then Uuid.parse? (unquote (Text.trim value)) else none
  | none => none

/-- The identifier in a cookie header: the first one that can be read. -/
def token? (header : String) : Option Uuid := (Text.split ';' header).findSome? tokenOfPair?

/-- The header value that makes a browser keep the identifier of a session. -/
def cookie (sessionId : Uuid) : String :=
  cookieName ++ "=\"" ++ sessionId.text ++ "\"; HttpOnly; Path=/"

end Session

end Screencast
