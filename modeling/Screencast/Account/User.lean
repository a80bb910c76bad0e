import Screencast.Store.Query

/-!
# Accounts

Users, the sessions they are signed in by, and their memberships in teams that another user pays
for.
-/

namespace Screencast

/-- A registered user. -/
structure User where
  email : String
  githubUid : Option Int
  githubLogin : Option String
  githubToken : Option String
  avatarUrl : Option String
  name : Option String
  subscriber : Bool
  admin : Bool
  downloadCredits : Int
  canceled : Bool
  teamToken : Uuid
  createdAt : Timestamp
  deriving DecidableEq

namespace User

/-- A new account without a subscription. -/
def fresh (email : String) (teamToken : Uuid) (createdAt : Timestamp) : User where
  email := email
  githubUid := none
  githubLogin := none
  githubToken := none
  avatarUrl := none
  name := none
  subscriber := false
  admin := false
  downloadCredits := 0
  canceled := false
  teamToken := teamToken
  createdAt := createdAt

/-- The name by which a user is addressed. -/
def displayName (user : User) : String :=
  (user.name <|> user.githubLogin).getD user.email

/-- The row of a user. -/
def encode (user : User) : Except RowError Row := do
  let createdAt ← Row.ofTimestamp user.createdAt
  pure
    [("admin", Json.bool user.admin),
      ("avatar_url", Row.ofText? user.avatarUrl),
      ("canceled", Json.bool user.canceled),
      ("created_at", createdAt),
      ("download_credits", Json.integer user.downloadCredits),
      ("email", Json.string user.email),
      ("github_login", Row.ofText? user.githubLogin),
      ("github_token", Row.ofText? user.githubToken),
      ("github_uid", Json.ofOption Json.integer user.githubUid),
      ("name", Row.ofText? user.name),
      ("subscriber", Json.bool user.subscriber),
      ("team_token", Row.ofUuid user.teamToken)]

/-- Read a user from a row. -/
def read (row : Row) : Except RowError User := do
  let email ← row.required "email" ColumnType.text
  let githubUid ← row.optional "github_uid" ColumnType.long
  let githubLogin ← row.optional "github_login" ColumnType.text
  let githubToken ← row.optional "github_token" ColumnType.text
  let avatarUrl ← row.optional "avatar_url" ColumnType.text
  let name ← row.optional "name" ColumnType.text
  let subscriber ← row.required "subscriber" ColumnType.bool
  let admin ← row.required "admin" ColumnType.bool
  let downloadCredits ← row.required "download_credits" ColumnType.long
  let canceled ← row.required "canceled" ColumnType.bool
  let teamToken ← row.required "team_token" ColumnType.uuid
  let createdAt ← row.required "created_at" ColumnType.timestamp
  pure
    { email, githubUid, githubLogin, githubToken, avatarUrl, name, subscriber, admin,
      downloadCredits, canceled, teamToken, createdAt }

instance : Record User where
  name := "UserData"
  table := "users"
  columns :=
    [("email", ColumnType.text.check),
      ("github_uid", ColumnType.long.optional.check),
      ("github_login", ColumnType.text.optional.check),
      ("github_token", ColumnType.text.optional.check),
      ("avatar_url", ColumnType.text.optional.check),
      ("name", ColumnType.text.optional.check),
      ("subscriber", ColumnType.bool.check),
      ("admin", ColumnType.bool.check),
      ("download_credits", ColumnType.long.check),
      ("canceled", ColumnType.bool.check),
      ("team_token", ColumnType.uuid.check),
      ("created_at", ColumnType.timestamp.check)]
  encode := encode
  read := read

end User

/-- A session by which a user is signed in. -/
structure SignIn where
  userId : Uuid
  createdAt : Timestamp
  deriving DecidableEq

namespace SignIn

/-- The row of a sign-in. -/
def encode (signIn : SignIn) : Except RowError Row := do
  let createdAt ← Row.ofTimestamp signIn.createdAt
  pure [("created_at", createdAt), ("user_id", Row.ofUuid signIn.userId)]

/-- Read a sign-in from a row. -/
def read (row : Row) : Except RowError SignIn := do
  let userId ← row.required "user_id" ColumnType.uuid
  let createdAt ← row.required "created_at" ColumnType.timestamp
  pure { userId, createdAt }

instance : Record SignIn where
  name := "SessionData"
  table := "sessions"
  columns := [("user_id", ColumnType.uuid.check), ("created_at", ColumnType.timestamp.check)]
  encode := encode
  read := read

end SignIn

/-- The membership of a user in the team of a user who pays for it. -/
structure TeamMember where
  userId : Uuid
  teamManagerId : Uuid
  createdAt : Timestamp
  deriving DecidableEq

namespace TeamMember

/-- The row of a membership. -/
def encode (member : TeamMember) : Except RowError Row := do
  let createdAt ← Row.ofTimestamp member.createdAt
  pure
    [("created_at", createdAt),
      ("team_manager_id", Row.ofUuid member.teamManagerId),
      ("user_id", Row.ofUuid member.userId)]

/-- Read a membership from a row. -/
def read (row : Row) : Except RowError TeamMember := do
  let userId ← row.required "user_id" ColumnType.uuid
  let teamManagerId ← row.required "team_manager_id" ColumnType.uuid
  let createdAt ← row.required "created_at" ColumnType.timestamp
  pure { userId, teamManagerId, createdAt }

instance : Record TeamMember where
  name := "TeamMemberData"
  table := "team_members"
  columns :=
    [("user_id", ColumnType.uuid.check), ("team_manager_id", ColumnType.uuid.check),
      ("created_at", ColumnType.timestamp.check)]
  encode := encode
  read := read

end TeamMember

end Screencast
