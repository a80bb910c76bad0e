import Screencast.Account.User
import Screencast.Proofs.Store.Record

/-!
# The rows of users

A user who was read can be written, with any credits, and is then read again as they are, unless the
credits do not fit into their column.
-/

namespace Screencast

namespace ColumnType

/-- An integer is read as it was written, if it is read at all. -/
theorem eq_of_long_integer
    {value result : Int}
    (read : long (Json.integer value) = Except.ok result) :
    result = value := by
  simp only [long, integer, Json.integer] at read
  split at read
  · exact (Except.ok.inj read).symm
  · cases read

/-- An optional integer is read as it was written, if it is read at all. -/
theorem eq_of_optional_long
    {value result : Option Int}
    (read : long.optional (Json.ofOption Json.integer value) = Except.ok result) :
    result = value := by
  cases value with
  | none => exact (Except.ok.inj read).symm
  | some number =>
      change (long (Json.integer number)).map some = Except.ok result at read
      cases inner : long (Json.integer number) with
      | error failure => simp [inner, Except.map] at read
      | ok found =>
          simp only [inner, Except.map, Except.ok.injEq] at read
          rw [← read, eq_of_long_integer inner]

end ColumnType

namespace User

/-- The date of a user who was read is readable. -/
theorem isReadable_of_read
    {row : Row}
    {user : User}
    (read : Record.read row = Except.ok user) :
    user.createdAt.IsReadable := by
  change User.read row = Except.ok user at read
  simp only [User.read, bind_eq_ok_iff, Row.required_eq_ok_iff] at read
  obtain ⟨_, _, _, _, _, _, _, _, _, _, _, _, _, _, _, _, _, _, _, _, _, _, createdAt,
    ⟨_, _, created⟩, same⟩ := read
  obtain rfl := Except.ok.inj same
  exact ColumnType.isReadable_of_timestamp created

/-- The token of a user who was read is the one in its column. -/
theorem teamToken_of_read
    {row : Row}
    {user : User}
    {token : Uuid}
    (stored : row.find? "team_token" = some (Row.ofUuid token))
    (read : Record.read row = Except.ok user) :
    user.teamToken = token := by
  change User.read row = Except.ok user at read
  simp only [User.read, bind_eq_ok_iff, Row.required_of_find? stored, ColumnType.uuid_ofUuid,
    Except.ok.injEq, exists_eq_left'] at read
  obtain ⟨_, _, _, _, _, _, _, _, _, _, _, _, _, _, _, _, _, _, _, _, _, _, same⟩ := read
  obtain rfl := Except.ok.inj same
  rfl

/-- The columns of a user whose date is written as a value. -/
def columns (user : User) (createdAt : Json) : Row :=
  [("admin", Json.bool user.admin),
    ("avatar_url", Row.ofText? user.avatarUrl),
    ("canceled", Json.bool user.canceled),
    ("created_at", createdAt),
    ("download_credits", Json.integer user.downloadCredits),
    ("email", Json.string user.email),
    ("github_login", Row.ofText? user.githubLogin),
    ("github_token", Row.ofText? user.githubToken),
    ("github_uid", Json.ofOption Json.integer user.githubUid),
    ("name", Row.ofText? user.name),
    ("subscriber", Json.bool user.subscriber),
    ("team_token", Row.ofUuid user.teamToken)]

theorem keys_columns (user : User) (createdAt : Json) :
    (columns user createdAt).keys =
      ["admin", "avatar_url", "canceled", "created_at", "download_credits", "email",
        "github_login", "github_token", "github_uid", "name", "subscriber", "team_token"] := rfl

/-- What is read from a row with the columns of a user is the user. -/
theorem eq_of_read_of_columns
    {user other : User}
    {createdAt : Json}
    {row : Row}
    (readBack : ColumnType.timestamp createdAt = Except.ok user.createdAt)
    (has : ∀ name found,
      (columns user createdAt).find? name = some found → row.find? name = some found)
    (read : User.read row = Except.ok other) :
    other = user := by
  have email : row.find? "email" = some (Json.string user.email) := has "email" _ rfl
  have githubUid : row.find? "github_uid" = some (Json.ofOption Json.integer user.githubUid) :=
    has "github_uid" _ rfl
  have githubLogin : row.find? "github_login" = some (Row.ofText? user.githubLogin) :=
    has "github_login" _ rfl
  have githubToken : row.find? "github_token" = some (Row.ofText? user.githubToken) :=
    has "github_token" _ rfl
  have avatarUrl : row.find? "avatar_url" = some (Row.ofText? user.avatarUrl) :=
    has "avatar_url" _ rfl
  have name : row.find? "name" = some (Row.ofText? user.name) := has "name" _ rfl
  have subscriber : row.find? "subscriber" = some (Json.bool user.subscriber) :=
    has "subscriber" _ rfl
  have admin : row.find? "admin" = some (Json.bool user.admin) := has "admin" _ rfl
  have credits : row.find? "download_credits" = some (Json.integer user.downloadCredits) :=
    has "download_credits" _ rfl
  have canceled : row.find? "canceled" = some (Json.bool user.canceled) := has "canceled" _ rfl
  have teamToken : row.find? "team_token" = some (Row.ofUuid user.teamToken) :=
    has "team_token" _ rfl
  have created : row.find? "created_at" = some createdAt := has "created_at" _ rfl
  simp only [User.read, Row.required_of_find? email, Row.optional_of_find? githubUid,
    Row.optional_of_find? githubLogin, Row.optional_of_find? githubToken,
    Row.optional_of_find? avatarUrl, Row.optional_of_find? name,
    Row.required_of_find? subscriber, Row.required_of_find? admin, Row.required_of_find? credits,
    Row.required_of_find? canceled, Row.required_of_find? teamToken,
    Row.required_of_find? created, ColumnType.optional_text_ofText?, ColumnType.text_string,
    ColumnType.bool_bool, ColumnType.uuid_ofUuid, readBack, bind_eq_ok_iff, Except.ok.injEq,
    exists_eq_left'] at read
  obtain ⟨uid, uidRead, count, countRead, same⟩ := read
  obtain rfl := ColumnType.eq_of_optional_long uidRead
  obtain rfl := ColumnType.eq_of_long_integer countRead
  exact (Except.ok.inj same).symm

/-- A user is written as their columns. -/
theorem isWrittenAs_columns
    {user : User}
    {createdAt : Json}
    (isWritten : Row.ofTimestamp user.createdAt = Except.ok createdAt)
    (readBack : ColumnType.timestamp createdAt = Except.ok user.createdAt) :
    Record.IsWrittenAs user (columns user createdAt) := by
  constructor
  case encoded =>
    change User.encode user = _
    simp only [User.encode, isWritten]
    rfl
  case distinct =>
    rw [keys_columns]
    decide
  case withoutId =>
    rw [keys_columns]
    decide
  case read_eq => exact fun _ _ has read => eq_of_read_of_columns readBack has read

theorem exists_isWrittenAs
    {user : User}
    (readable : user.createdAt.IsReadable) :
    ∃ columns, Record.IsWrittenAs user columns := by
  obtain ⟨createdAt, isWritten, readBack⟩ := Row.exists_ofTimestamp readable
  exact ⟨columns user createdAt, isWrittenAs_columns isWritten readBack⟩

end User

end Screencast
