import Screencast.Proofs.Account.Faithful
import Screencast.Proofs.Account.Resolve
import Screencast.Proofs.Store.Shelf

/-!
# The accounts in the tables

The users and the sign-ins of a store, with all rows as they were written. No two users have the
same GitHub account, so that whoever signs in with it is one user at most.
-/

namespace Screencast

namespace User

/-- The columns of a user hold the GitHub account. -/
theorem find?_githubUid
    {user : Stored User}
    {row : Row}
    (kept : user.IsKeptAs row) :
    row.find? "github_uid" = some (Json.ofOption Json.integer user.data.githubUid) := by
  obtain ⟨columns, encoded, _, _, rfl⟩ := kept.exists_columns
  change User.encode user.data = Except.ok columns at encoded
  simp only [User.encode, bind_eq_ok_iff] at encoded
  obtain ⟨createdAt, _, same⟩ := encoded
  obtain rfl := Except.ok.inj same
  rfl

/-- A user's row has an account in its column exactly if the account is the user's. -/
theorem meets_githubUid
    {user : Stored User}
    {row : Row}
    (kept : user.IsKeptAs row)
    (uid : Int) :
    Pool.meets [("github_uid", Json.integer uid)] row =
      decide (user.data.githubUid = some uid) := by
  simp only [Pool.meets, List.all_cons, List.all_nil, Bool.and_true, find?_githubUid kept]
  cases user.data.githubUid with
  | none => rfl
  | some own =>
      simp only [Option.some.injEq]
      rfl

end User

namespace Pool

variable {pool between left : Pool}

/-- No table has lost or changed a row. -/
def Extends (pool left : Pool) : Prop := ∀ table, pool.rows table <+: left.rows table

theorem Extends.refl (pool : Pool) : pool.Extends pool := fun _ => List.prefix_rfl

theorem Extends.trans (first : pool.Extends between) (second : between.Extends left) :
    pool.Extends left :=
  fun table => (first table).trans (second table)

/-- Inserting a record leaves all rows that are there. -/
theorem extends_apply_insert
    {record : Type}
    [Record record]
    (pool : Pool)
    (id : Uuid)
    (data : record) :
    pool.Extends (pool.apply (Stored.insert id data).statement).2 := by
  obtain ⟨row, isInsert⟩ : ∃ row, (Stored.insert id data).statement =
      Statement.insert (Record.table record) row := by
    unfold Stored.insert
    split
    · exact ⟨_, rfl⟩
    · exact ⟨_, rfl⟩
  intro table
  rw [isInsert]
  simp only [apply, seed, rows_setRows]
  split
  · next same =>
      rw [same]
      exact List.prefix_append _ _
  · exact List.prefix_rfl

end Pool

/-- The users and the sign-ins of a store, where no two users have the same GitHub account. -/
structure Accounts (pool : Pool) (users : List (Stored User)) (signIns : List (Stored SignIn)) :
    Prop where
  holdsUsers : Pool.Holds (pool.rows (Record.table User)) users
  holdsSignIns : Pool.Holds (pool.rows (Record.table SignIn)) signIns
  holdsMembers : ∃ members : List (Stored TeamMember),
    Pool.Holds (pool.rows (Record.table TeamMember)) members
  unshared : (users.filterMap fun user => user.data.githubUid).Nodup

namespace Accounts

variable {pool : Pool} {users : List (Stored User)} {signIns : List (Stored SignIn)}
  {user : Stored User} {signIn : Stored SignIn}

theorem of_rows
    {left : Pool}
    (accounts : Accounts pool users signIns)
    (same : ∀ table, left.rows table = pool.rows table) :
    Accounts left users signIns where
  holdsUsers := (same _).symm ▸ accounts.holdsUsers
  holdsSignIns := (same _).symm ▸ accounts.holdsSignIns
  holdsMembers := (same _).symm ▸ accounts.holdsMembers
  unshared := accounts.unshared

theorem ask_githubUid
    (accounts : Accounts pool users signIns)
    (uid : Int) :
    pool.ask (Stored.selectBy User "github_uid" (Json.integer uid)) =
      Except.ok (users.find? fun user => decide (user.data.githubUid = some uid)) :=
  accounts.holdsUsers.ask_selectBy_of_forall_eq fun _ _ kept => User.meets_githubUid kept uid

/-- A user who signs in with a GitHub account that nobody has is one more. -/
theorem addUser
    (accounts : Accounts pool users signIns)
    (storable : Record.Faithful.IsStorable user.data)
    (fresh : user.id ∉ users.map Stored.id)
    (unknown : ∀ uid ∈ user.data.githubUid, ∀ other ∈ users, other.data.githubUid ≠ some uid) :
    Accounts (pool.apply (Stored.insert user.id user.data).statement).2 (users ++ [user])
      signIns where
  holdsUsers := accounts.holdsUsers.apply_insert storable fresh
  holdsSignIns := by
    rw [Pool.rows_apply_of_not_writesTo (Pool.writesTo_insert (by decide))]
    exact accounts.holdsSignIns
  holdsMembers := by
    rw [Pool.rows_apply_of_not_writesTo (Pool.writesTo_insert (by decide))]
    exact accounts.holdsMembers
  unshared := by
    rw [List.filterMap_append]
    refine List.Nodup.append accounts.unshared ?_ ?_
    · cases own : user.data.githubUid <;> simp [own]
    · intro uid isTaken isOwn
      obtain ⟨other, isUser, taken⟩ := List.mem_filterMap.1 isTaken
      have own : user.data.githubUid = some uid := by simpa using isOwn
      exact unknown uid own other isUser taken

/-- One more sign-in is added behind the others. -/
theorem addSignIn
    (accounts : Accounts pool users signIns)
    (storable : Record.Faithful.IsStorable signIn.data)
    (fresh : signIn.id ∉ signIns.map Stored.id) :
    Accounts (pool.apply (Stored.insert signIn.id signIn.data).statement).2 users
      (signIns ++ [signIn]) where
  holdsUsers := by
    rw [Pool.rows_apply_of_not_writesTo (Pool.writesTo_insert (by decide))]
    exact accounts.holdsUsers
  holdsSignIns := accounts.holdsSignIns.apply_insert storable fresh
  holdsMembers := by
    rw [Pool.rows_apply_of_not_writesTo (Pool.writesTo_insert (by decide))]
    exact accounts.holdsMembers
  unshared := accounts.unshared

/-- A session is found by the identifier of a sign-in, with the user who has signed in. -/
theorem exists_lookUp
    (accounts : Accounts pool users signIns)
    (isSignedIn : signIn ∈ signIns)
    (isUser : user ∈ users)
    (own : user.id = signIn.data.userId) :
    ∃ manager, Session.lookUp pool signIn.id =
      Except.ok (some { sessionId := signIn.id, user, teamManager := manager }) := by
  obtain ⟨members, holdsMembers⟩ := accounts.holdsMembers
  have signedIn := accounts.holdsSignIns.ask_selectBy_id_of_mem isSignedIn
  have found := accounts.holdsUsers.ask_selectBy_id_of_mem isUser
  obtain ⟨manager, managed⟩ : ∃ manager,
      Session.lookUpTeamManager pool user.id = Except.ok manager := by
    obtain ⟨membership, joined⟩ :=
      holdsMembers.exists_ask_selectBy "user_id" (Row.ofUuid user.id)
    rw [Session.lookUpTeamManager, joined]
    cases membership with
    | none => exact ⟨none, rfl⟩
    | some membership => exact accounts.holdsUsers.exists_ask_selectBy _ _
  refine ⟨manager, ?_⟩
  simp only [Session.lookUp, signedIn, ← own, found, managed]
  rfl

end Accounts

end Screencast
