import Screencast.Proofs.Account.User
import Screencast.Proofs.Store.Faithful

/-!
# Accounts are kept as they are

Users, sign-ins and memberships are read again from the rows that they are written as, if their
dates can be written and their integers have 64 bits.
-/

namespace Screencast

namespace ColumnType

/-- Whether an integer fits into a column of signed integers of 64 bits. -/
def IsLong (value : Int) : Prop := Bounds.leastSigned ≤ value ∧ value ≤ Bounds.greatestSigned

theorem long_of_isLong {value : Int} (fits : IsLong value) :
    ColumnType.long (Json.integer value) = Except.ok value :=
  integer_of_bounds fits

/-- An integer that was read from its column fits. -/
theorem isLong_of_long
    {found : Json}
    {value : Int}
    (read : long found = Except.ok value) :
    IsLong value := by
  unfold long integer at read
  split at read
  next =>
    split at read
    next bounds => exact Except.ok.inj read ▸ bounds
    next => cases read
  next => cases read

/-- An optional integer that was read from its column fits. -/
theorem isLong_of_optional_long
    {row : Row}
    {name : String}
    {value : Option Int}
    (read : row.optional name long = Except.ok value) :
    ∀ number ∈ value, IsLong number := by
  rintro number rfl
  unfold Row.optional at read
  split at read
  next found _ =>
    unfold optional at read
    split at read
    next => cases read
    next =>
      cases inner : long found with
      | error failure => simp [inner, Except.map] at read
      | ok value =>
          simp only [inner, Except.map, Except.ok.injEq, Option.some.injEq] at read
          exact read ▸ isLong_of_long inner
  next => cases read

/-- An optional integer that fits is read as it was written. -/
theorem optional_long_of_isLong
    {value : Option Int}
    (fits : ∀ number ∈ value, IsLong number) :
    ColumnType.long.optional (Json.ofOption Json.integer value) = Except.ok value := by
  cases value with
  | none => rfl
  | some number =>
      change (long (Json.integer number)).map some = _
      rw [long_of_isLong (fits number rfl)]
      rfl

end ColumnType

/-! ## Users -/

namespace User

/-- A user whose values fit into the columns. -/
structure IsStorable (user : User) : Prop where
  createdAt : user.createdAt.IsReadable
  githubUid : ∀ uid ∈ user.githubUid, ColumnType.IsLong uid
  downloadCredits : ColumnType.IsLong user.downloadCredits

/-- The values of a user who was read fit into the columns. -/
theorem isStorable_of_read
    {row : Row}
    {user : User}
    (read : Record.read row = Except.ok user) :
    user.IsStorable := by
  have createdAt : user.createdAt.IsReadable := isReadable_of_read read
  change User.read row = Except.ok user at read
  simp only [User.read, bind_eq_ok_iff, Row.required_eq_ok_iff] at read
  obtain ⟨_, _, githubUid, uidRead, _, _, _, _, _, _, _, _, _, _, _, _, credits,
    ⟨_, _, creditsRead⟩, _, _, _, _, _, _, same⟩ := read
  obtain rfl := Except.ok.inj same
  exact ⟨createdAt, ColumnType.isLong_of_optional_long uidRead,
    ColumnType.isLong_of_long creditsRead⟩

/-- A row with the columns of a user is read as the user. -/
theorem read_of_columns
    {user : User}
    {createdAt : Json}
    {row : Row}
    (storable : user.IsStorable)
    (created : ColumnType.timestamp createdAt = Except.ok user.createdAt)
    (has : ∀ name found,
      (columns user createdAt).find? name = some found → row.find? name = some found) :
    User.read row = Except.ok user := by
  have uid := ColumnType.optional_long_of_isLong storable.githubUid
  have credits := ColumnType.long_of_isLong storable.downloadCredits
  simp only [User.read, Row.required, Row.optional, has "email" _ rfl, has "github_uid" _ rfl,
    has "github_login" _ rfl, has "github_token" _ rfl, has "avatar_url" _ rfl, has "name" _ rfl,
    has "subscriber" _ rfl, has "admin" _ rfl, has "download_credits" _ rfl, has "canceled" _ rfl,
    has "team_token" _ rfl, has "created_at" _ rfl, ColumnType.text_string,
    ColumnType.optional_text_ofText?, ColumnType.bool_bool, ColumnType.uuid_ofUuid, uid, credits,
    created]
  rfl

/-- A user is read from the columns that they are written as. -/
theorem decode_columns
    {user : User}
    {createdAt : Json}
    (storable : user.IsStorable)
    (created : ColumnType.timestamp createdAt = Except.ok user.createdAt) :
    Record.decode (columns user createdAt) = Except.ok user := by
  have checked :
      Record.checkAll (Record.columns User) (columns user createdAt) = Except.ok () := by
    have uidPasses :=
      ColumnType.check_of_eq_ok (ColumnType.optional_long_of_isLong storable.githubUid)
    have creditsPass :=
      ColumnType.check_of_eq_ok (ColumnType.long_of_isLong storable.downloadCredits)
    have createdPasses := ColumnType.check_of_eq_ok created
    unfold columns
    iterate 12
      rw [Record.checkAll_cons_of_lookup rfl (by simp [uidPasses, creditsPass, createdPasses])]
    rfl
  exact Record.decode_of_checkAll checked (read_of_columns storable created fun _ _ isFound => isFound)

instance : Record.Faithful User where
  names :=
    ["admin", "avatar_url", "canceled", "created_at", "download_credits", "email", "github_login",
      "github_token", "github_uid", "name", "subscriber", "team_token"]
  IsStorable := IsStorable
  sorted := by decide
  withoutId := by decide
  exists_columns := by
    intro user storable
    obtain ⟨createdAt, isWritten, readBack⟩ := Row.exists_ofTimestamp storable.createdAt
    refine ⟨columns user createdAt, ?_, rfl, decode_columns storable readBack⟩
    change User.encode user = _
    simp only [User.encode, isWritten]
    rfl

instance : Record.ReadsStorable User where
  isStorable_of_read _ _ read := User.isStorable_of_read read

end User

/-! ## Sign-ins -/

namespace SignIn

/-- A sign-in whose values fit into the columns. -/
def IsStorable (signIn : SignIn) : Prop := signIn.createdAt.IsReadable

/-- The columns of a sign-in whose date is written as a value. -/
def columns (signIn : SignIn) (createdAt : Json) : Row :=
  [("created_at", createdAt), ("user_id", Row.ofUuid signIn.userId)]

/-- A sign-in is read from the columns that it is written as. -/
theorem decode_columns
    {signIn : SignIn}
    {createdAt : Json}
    (created : ColumnType.timestamp createdAt = Except.ok signIn.createdAt) :
    Record.decode (columns signIn createdAt) = Except.ok signIn := by
  have checked :
      Record.checkAll (Record.columns SignIn) (columns signIn createdAt) = Except.ok () := by
    have createdPasses := ColumnType.check_of_eq_ok created
    unfold columns
    iterate 2 rw [Record.checkAll_cons_of_lookup rfl (by simp [createdPasses])]
    rfl
  have isRead : SignIn.read (columns signIn createdAt) = Except.ok signIn := by
    simp only [SignIn.read, Row.required, columns, KeyMap.find?, String.reduceEq, ↓reduceIte,
      ColumnType.uuid_ofUuid, created]
    rfl
  exact Record.decode_of_checkAll checked isRead

instance : Record.Faithful SignIn where
  names := ["created_at", "user_id"]
  IsStorable := IsStorable
  sorted := by decide
  withoutId := by decide
  exists_columns := by
    intro signIn storable
    obtain ⟨createdAt, isWritten, readBack⟩ := Row.exists_ofTimestamp storable
    refine ⟨columns signIn createdAt, ?_, rfl, decode_columns readBack⟩
    change SignIn.encode signIn = _
    simp only [SignIn.encode, isWritten]
    rfl

instance : Record.ReadsStorable SignIn where
  isStorable_of_read row signIn read := by
    change SignIn.read row = Except.ok signIn at read
    simp only [SignIn.read, bind_eq_ok_iff, Row.required_eq_ok_iff] at read
    obtain ⟨_, _, _, ⟨_, _, created⟩, same⟩ := read
    obtain rfl := Except.ok.inj same
    exact ColumnType.isReadable_of_timestamp created

end SignIn

/-! ## Memberships -/

namespace TeamMember

/-- A membership whose values fit into the columns. -/
def IsStorable (member : TeamMember) : Prop := member.createdAt.IsReadable

/-- The columns of a membership whose date is written as a value. -/
def columns (member : TeamMember) (createdAt : Json) : Row :=
  [("created_at", createdAt), ("team_manager_id", Row.ofUuid member.teamManagerId),
    ("user_id", Row.ofUuid member.userId)]

/-- A membership is read from the columns that it is written as. -/
theorem decode_columns
    {member : TeamMember}
    {createdAt : Json}
    (created : ColumnType.timestamp createdAt = Except.ok member.createdAt) :
    Record.decode (columns member createdAt) = Except.ok member := by
  have checked :
      Record.checkAll (Record.columns TeamMember) (columns member createdAt) = Except.ok () := by
    have createdPasses := ColumnType.check_of_eq_ok created
    unfold columns
    iterate 3 rw [Record.checkAll_cons_of_lookup rfl (by simp [createdPasses])]
    rfl
  have isRead : TeamMember.read (columns member createdAt) = Except.ok member := by
    simp only [TeamMember.read, Row.required, columns, KeyMap.find?, String.reduceEq,
      ↓reduceIte, ColumnType.uuid_ofUuid, created]
    rfl
  exact Record.decode_of_checkAll checked isRead

instance : Record.Faithful TeamMember where
  names := ["created_at", "team_manager_id", "user_id"]
  IsStorable := IsStorable
  sorted := by decide
  withoutId := by decide
  exists_columns := by
    intro member storable
    obtain ⟨createdAt, isWritten, readBack⟩ := Row.exists_ofTimestamp storable
    refine ⟨columns member createdAt, ?_, rfl, decode_columns readBack⟩
    change TeamMember.encode member = _
    simp only [TeamMember.encode, isWritten]
    rfl

instance : Record.ReadsStorable TeamMember where
  isStorable_of_read row member read := by
    change TeamMember.read row = Except.ok member at read
    simp only [TeamMember.read, bind_eq_ok_iff, Row.required_eq_ok_iff] at read
    obtain ⟨_, _, _, _, _, ⟨_, _, created⟩, same⟩ := read
    obtain rfl := Except.ok.inj same
    exact ColumnType.isReadable_of_timestamp created

end TeamMember

end Screencast
