import Screencast.Proofs.Account.Faithful
import Screencast.Proofs.Account.Resolve
import Screencast.Proofs.Store.Shelf

/-!
# Visitors in the tables

Who a visitor is, read off the records of a store: the cookie names a sign-in, the sign-in names a
user, and the first membership of the user names the user who pays for the team. A record that is
not there ends the search.
-/

namespace Screencast

namespace TeamMember

/-- The columns of a membership hold its user. -/
theorem find?_userId
    {member : Stored TeamMember}
    {row : Row}
    (kept : member.IsKeptAs row) :
    row.find? "user_id" = some (Row.ofUuid member.data.userId) := by
  obtain ⟨columns, encoded, _, _, rfl⟩ := kept.exists_columns
  change TeamMember.encode member.data = Except.ok columns at encoded
  simp only [TeamMember.encode, bind_eq_ok_iff] at encoded
  obtain ⟨createdAt, _, same⟩ := encoded
  obtain rfl := Except.ok.inj same
  rfl

/-- A membership's row has a user in its column exactly if the membership is the user's. -/
theorem meets_userId
    {member : Stored TeamMember}
    {row : Row}
    (kept : member.IsKeptAs row)
    (userId : Uuid) :
    Pool.meets [("user_id", Row.ofUuid userId)] row = decide (member.data.userId = userId) := by
  rw [Bool.eq_iff_iff, decide_eq_true_iff, Row.ofUuid, Pool.meets_string_iff, find?_userId kept,
    Option.some.injEq]
  refine ⟨fun sameText => Uuid.text_injective (Json.string.inj sameText), fun same => ?_⟩
  rw [same]
  rfl

end TeamMember

/-- The records that tell who visitors are. -/
structure Membership where
  users : List (Stored User)
  signIns : List (Stored SignIn)
  members : List (Stored TeamMember)

namespace Membership

/-- The rows of a store are those of the records. -/
structure IsIn (membership : Membership) (pool : Pool) : Prop where
  users : Pool.Holds (pool.rows (Record.table User)) membership.users
  signIns : Pool.Holds (pool.rows (Record.table SignIn)) membership.signIns
  members : Pool.Holds (pool.rows (Record.table TeamMember)) membership.members

/-- The user with an identifier. -/
def user? (membership : Membership) (id : Uuid) : Option (Stored User) :=
  membership.users.find? fun user => decide (user.id = id)

/-- The sign-in with an identifier. -/
def signIn? (membership : Membership) (id : Uuid) : Option (Stored SignIn) :=
  membership.signIns.find? fun signIn => decide (signIn.id = id)

/-- The user who signed in with an identifier. -/
def visitor? (membership : Membership) (token : Uuid) : Option (Stored User) :=
  (membership.signIn? token).bind fun signIn => membership.user? signIn.data.userId

/-- The user whom the first membership of another user names as the one who pays. -/
def manager? (membership : Membership) (userId : Uuid) : Option (Stored User) :=
  (membership.members.find? fun member => decide (member.data.userId = userId)).bind fun member =>
    membership.user? member.data.teamManagerId

/-- A user may see everything: an administrator, a subscriber, or somebody whose team is paid for by
a subscriber. -/
def HasPremium (membership : Membership) (user : Stored User) : Prop :=
  user.data.admin = true ∨ user.data.subscriber = true ∨
    ∃ manager, membership.manager? user.id = some manager ∧ manager.data.subscriber = true

/-- The session of whoever signed in with an identifier. -/
def session? (membership : Membership) (token : Uuid) : Option Session :=
  (membership.signIn? token).bind fun signIn =>
    (membership.user? signIn.data.userId).map fun user =>
      { sessionId := signIn.id, user, teamManager := membership.manager? user.id }

/-- The user who signed in is the one of the session. -/
theorem bind_visitor?
    (membership : Membership)
    (token : Option Uuid) :
    token.bind membership.visitor? = (token.bind membership.session?).map Session.user := by
  cases token with
  | none => rfl
  | some token =>
      change membership.visitor? token = (membership.session? token).map Session.user
      unfold visitor? session?
      cases membership.signIn? token with
      | none => rfl
      | some signIn => simp [Function.comp_def]

/-- The session of a user gives access exactly if the user may see everything. -/
theorem hasAccess_session?
    {membership : Membership}
    {token : Option Uuid}
    {session : Session}
    (found : token.bind membership.session? = some session) :
    session.hasAccess = true ↔ membership.HasPremium session.user := by
  obtain ⟨_, _, isNamed⟩ := Option.bind_eq_some_iff.1 found
  obtain ⟨signIn, _, ofUser⟩ := Option.bind_eq_some_iff.1 isNamed
  obtain ⟨user, _, rfl⟩ := Option.map_eq_some_iff.1 ofUser
  simp [Session.hasAccess, Session.hasOwnAccess, HasPremium, Option.any_eq_true, or_assoc]

variable {membership : Membership} {pool : Pool}

/-- Who pays for the team of a user is looked up in the tables. -/
theorem IsIn.lookUpTeamManager_eq
    (isIn : membership.IsIn pool)
    (userId : Uuid) :
    Session.lookUpTeamManager pool userId = Except.ok (membership.manager? userId) := by
  have joined := isIn.members.ask_selectBy_of_forall_eq
    fun _ _ kept => TeamMember.meets_userId kept userId
  unfold Session.lookUpTeamManager manager?
  rw [joined]
  cases membership.members.find? fun member => decide (member.data.userId = userId) with
  | none => rfl
  | some member => exact isIn.users.ask_selectBy_id member.data.teamManagerId

/-- Who signed in with an identifier is looked up in the tables. -/
theorem IsIn.lookUp_eq
    (isIn : membership.IsIn pool)
    (token : Uuid) :
    Session.lookUp pool token = Except.ok (membership.session? token) := by
  unfold Session.lookUp session? signIn?
  rw [isIn.signIns.ask_selectBy_id token]
  cases membership.signIns.find? fun signIn => decide (signIn.id = token) with
  | none => rfl
  | some signIn =>
      simp only [Option.bind_some, user?]
      rw [isIn.users.ask_selectBy_id signIn.data.userId]
      cases membership.users.find? fun user => decide (user.id = signIn.data.userId) with
      | none => rfl
      | some user =>
          simp only [isIn.lookUpTeamManager_eq]
          rfl

/-- The session that a cookie names is the one of whoever signed in. -/
theorem IsIn.isNamedBy
    (isIn : membership.IsIn pool)
    (token : Option Uuid) :
    Session.IsNamedBy token pool (token.bind membership.session?) := by
  cases token with
  | none => rfl
  | some token => exact isIn.lookUp_eq token

end Membership

end Screencast
