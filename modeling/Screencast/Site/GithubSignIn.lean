import Screencast.Effect.Chain
import Screencast.Site.Page

/-!
# Signing in

Visitors sign in at GitHub, which sends them back with a code. The code is exchanged for a token and
the token for a profile. The user of the profile is found or created, and a session begins.
-/

namespace Screencast

namespace Site

/-- The address at which visitors sign in. -/
def authorizeUrl : String := "https://github.com/login/oauth/authorize"

/-- The message for a profile that cannot be had. -/
def profileUnavailable : String := "Couldn't access your Github profile."

/-- The address to which GitHub sends visitors back. -/
def callbackUrl (site : Site) (origin : String) : String :=
  Route.absolute site.baseUrl (Route.githubCallback none (some origin))

/-- The address to which visitors are sent to sign in. -/
def loginUrl (site : Site) (origin : Option String) : String :=
  let start :=
    authorizeUrl ++ "?scope=user:email&client_id=" ++ Url.percentEncode site.githubClientId
  match origin with
  | some origin => start ++ "&redirect_uri=" ++ Url.percentEncode (site.callbackUrl origin)
  | none => start

/-- Send the visitor to GitHub. -/
def login (site : Site) (origin : Option String) : Chain World :=
  Chain.redirectTo (site.loginUrl origin)

/-- Where a visitor is led after signing in. -/
def destination (origin : Option String) : String :=
  match origin with
  | some origin => Url.safeDestination origin
  | none => "/"

/-- Send the visitor back with the cookie of a new session. -/
def welcome (origin : Option String) (sessionId : Uuid) : Chain World :=
  Chain.respond
    (Terminal.redirect (destination origin) [("Set-Cookie", Session.cookie sessionId)])

/-- Begin a session of a user. -/
def startSession (site : Site) (userId : Uuid) (origin : Option String) : Chain World :=
  Chain.fresh fun id =>
    Chain.queryOrFail (Stored.insert id ({ userId, createdAt := site.wallClock } : SignIn))
      (welcome origin)

/-- The account of somebody who signs in for the first time. -/
def newUser (site : Site) (accessToken : String) (profile : Profile) (teamToken : Uuid) : User :=
  { User.fresh (profile.email.getD "") teamToken site.wallClock with
    githubUid := some profile.id
    githubLogin := some profile.login
    githubToken := some accessToken
    avatarUrl := some profile.avatarUrl
    name := profile.name }

/-- Create the user of a profile, and begin a session. -/
def register (site : Site) (accessToken : String) (profile : Profile) (origin : Option String) :
    Chain World :=
  Chain.fresh fun teamToken =>
    Chain.fresh fun id =>
      Chain.queryOrFail (Stored.insert id (site.newUser accessToken profile teamToken))
        fun userId => site.startSession userId origin

/-- Begin a session of the user of a profile. -/
def signInAs (site : Site) (accessToken : String) (profile : Profile) (origin : Option String) :
    Chain World :=
  Chain.queryOrFail (Stored.selectBy User "github_uid" (Json.integer profile.id)) fun user =>
    match user with
    | some user => site.startSession user.id origin
    | none => site.register accessToken profile origin

/-- The failure of a visitor who comes back without a code. -/
def codeMissing : ServerError :=
  ServerError.badRequest "no auth code" "Something went wrong, please try again."

/-- The failure of a code that no token is given for. -/
def tokenRefused : ServerError where
  privateMessage := "no github access token"
  publicMessage := profileUnavailable

/-- Take in a visitor who comes back from GitHub. -/
def githubCallback (site : Site) (code origin : Option String) : Chain World :=
  match code with
  | none => Chain.fail codeMissing
  | some _ =>
    Chain.awaitOrFail Collaborator.accessToken profileUnavailable fun accessToken =>
      match accessToken with
      | none => Chain.fail tokenRefused
      | some accessToken =>
        Chain.awaitOrFail Collaborator.profile profileUnavailable fun profile =>
          site.signInAs accessToken profile origin

end Site

end Screencast
