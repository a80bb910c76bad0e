import Screencast.Effect.Step

/-!
# From a cookie to a session

The session that a cookie names is looked up with its user, and with the user who pays for the team
of that user, if there is one.
-/

namespace Screencast

namespace Session

variable {world : Type}

/-- The user who pays for the team of a user. -/
def resolveTeamManager (userId : Uuid) : Step world (Option (Stored User)) :=
  (Step.queryOrFail (Stored.selectBy TeamMember "user_id" (Row.ofUuid userId))).andThen
    fun membership =>
      match membership with
      | none => Step.pure none
      | some membership =>
        Step.queryOrFail (Stored.selectBy User "id" (Row.ofUuid membership.data.teamManagerId))

/-- The session with an identifier, if it and its user are there. -/
def resolve (token : Uuid) : Step world (Option Session) :=
  (Step.queryOrFail (Stored.selectBy SignIn "id" (Row.ofUuid token))).andThen fun signIn =>
    match signIn with
    | none => Step.pure none
    | some signIn =>
      (Step.queryOrFail (Stored.selectBy User "id" (Row.ofUuid signIn.data.userId))).andThen
        fun user =>
          match user with
          | none => Step.pure none
          | some user =>
            (resolveTeamManager user.id).map fun teamManager =>
              some { sessionId := signIn.id, user, teamManager }

end Session

end Screencast
