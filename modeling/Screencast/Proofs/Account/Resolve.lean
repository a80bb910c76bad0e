import Screencast.Account.Resolve
import Screencast.Proofs.Effect.Finds

/-!
# The session in the tables

What the session of a cookie is, read off the tables at once. It depends on three tables only, and
resolving the session finds it there by one selection after the other, whatever follows.
-/

namespace Screencast

namespace Session

/-- The tables that a session is read from. -/
def tables : List String :=
  [Record.table SignIn, Record.table User, Record.table TeamMember]

/-- The user who pays for the team of a user, by the tables. -/
def lookUpTeamManager (pool : Pool) (userId : Uuid) : Except QueryError (Option (Stored User)) :=
  match pool.ask (Stored.selectBy TeamMember "user_id" (Row.ofUuid userId)) with
  | Except.error error => Except.error error
  | Except.ok none => Except.ok none
  | Except.ok (some membership) =>
    pool.ask (Stored.selectBy User "id" (Row.ofUuid membership.data.teamManagerId))

/-- The session with an identifier, by the tables. -/
def lookUp (pool : Pool) (token : Uuid) : Except QueryError (Option Session) :=
  match pool.ask (Stored.selectBy SignIn "id" (Row.ofUuid token)) with
  | Except.error error => Except.error error
  | Except.ok none => Except.ok none
  | Except.ok (some signIn) =>
    match pool.ask (Stored.selectBy User "id" (Row.ofUuid signIn.data.userId)) with
    | Except.error error => Except.error error
    | Except.ok none => Except.ok none
    | Except.ok (some user) =>
      (lookUpTeamManager pool user.id).map fun teamManager =>
        some { sessionId := signIn.id, user, teamManager }

/-- A session depends on the rows of its tables alone. -/
theorem lookUp_congr
    {pool other : Pool}
    (same : ∀ table ∈ tables, pool.rows table = other.rows table)
    (token : Uuid) :
    lookUp pool token = lookUp other token := by
  have signIns (value : Json) : pool.ask (Stored.selectBy SignIn "id" value) =
      other.ask (Stored.selectBy SignIn "id" value) :=
    Pool.ask_congr (same (Record.table SignIn) (by simp [tables]))
  have users (value : Json) : pool.ask (Stored.selectBy User "id" value) =
      other.ask (Stored.selectBy User "id" value) :=
    Pool.ask_congr (same (Record.table User) (by simp [tables]))
  have teamMembers (value : Json) : pool.ask (Stored.selectBy TeamMember "user_id" value) =
      other.ask (Stored.selectBy TeamMember "user_id" value) :=
    Pool.ask_congr (same (Record.table TeamMember) (by simp [tables]))
  simp only [lookUp, lookUpTeamManager, signIns, users, teamMembers]

/-- The session that a cookie names: none without an identifier, and otherwise the one that is found
without a failure. -/
def IsNamedBy (token : Option Uuid) (pool : Pool) (session : Option Session) : Prop :=
  match token with
  | none => session = none
  | some token => lookUp pool token = Except.ok session

/-- The session that a cookie names depends on the rows of its tables alone. -/
theorem IsNamedBy.of_rows
    {token : Option Uuid}
    {pool other : Pool}
    {session : Option Session}
    (named : IsNamedBy token pool session)
    (same : ∀ table ∈ tables, other.rows table = pool.rows table) :
    IsNamedBy token other session := by
  cases token with
  | none => exact named
  | some token => exact (lookUp_congr same token).trans named

/-! ## Resolving -/

variable {world : Type} {pool : Pool}

/-- A record is found as its table tells, if sessions are read from the table. -/
theorem finds_selectBy
    {record : Type}
    [Record record]
    {column : String}
    {value : Json}
    {stored : Option (Stored record)}
    (ofSessions : Record.table record ∈ tables)
    (found : pool.ask (Stored.selectBy record column value) = Except.ok stored) :
    (Step.queryOrFail (Stored.selectBy record column value) :
      Step world (Option (Stored record))).Finds tables pool 1 stored :=
  Step.Finds.queryOrFail rfl rfl ofSessions found

/-- Who pays for a team is found by two selections, as the tables tell. -/
theorem finds_resolveTeamManager
    {userId : Uuid}
    {manager : Option (Stored User)}
    (found : lookUpTeamManager pool userId = Except.ok manager) :
    (resolveTeamManager userId : Step world (Option (Stored User))).Finds tables pool 2
      manager := by
  change Step.Finds tables pool (1 + 1) _ manager
  unfold lookUpTeamManager at found
  cases joined : pool.ask (Stored.selectBy TeamMember "user_id" (Row.ofUuid userId)) with
  | error error => simp [joined] at found
  | ok membership =>
      refine Step.Finds.andThen (finds_selectBy (by decide) joined) ?_
      cases membership with
      | none =>
          simp only [joined, Except.ok.injEq] at found
          exact found ▸ Step.Finds.pure _ none
      | some membership =>
          simp only [joined] at found
          exact finds_selectBy (by decide) found

/-- A session is found by four selections, as the tables tell. -/
theorem finds_resolve
    {token : Uuid}
    {session : Option Session}
    (found : lookUp pool token = Except.ok session) :
    (resolve token : Step world (Option Session)).Finds tables pool 4 session := by
  change Step.Finds tables pool (1 + (1 + 2)) _ session
  unfold lookUp at found
  cases signedIn : pool.ask (Stored.selectBy SignIn "id" (Row.ofUuid token)) with
  | error error => simp [signedIn] at found
  | ok signIn =>
      refine Step.Finds.andThen (finds_selectBy (by decide) signedIn) ?_
      cases signIn with
      | none =>
          simp only [signedIn, Except.ok.injEq] at found
          exact found ▸ Step.Finds.pure _ none
      | some signIn =>
          simp only [signedIn] at found
          cases owned : pool.ask (Stored.selectBy User "id" (Row.ofUuid signIn.data.userId)) with
          | error error => simp [owned] at found
          | ok user =>
              refine Step.Finds.andThen (finds_selectBy (by decide) owned) ?_
              cases user with
              | none =>
                  simp only [owned, Except.ok.injEq] at found
                  exact found ▸ Step.Finds.pure _ none
              | some user =>
                  simp only [owned] at found
                  cases paid : lookUpTeamManager pool user.id with
                  | error error => simp [paid, Except.map] at found
                  | ok manager =>
                      simp only [paid, Except.map, Except.ok.injEq] at found
                      exact found ▸ (finds_resolveTeamManager paid).map _

end Session

/-! ## Looking up a session

While a session is looked up, a chain asks the store and does nothing else. It comes to what follows
with some session or none, or to the report of a failure. All the time it owes what it owed before.
-/

namespace Chain

variable {world result : Type}

/-- A chain looks up a session for what follows, and owes these cleanups meanwhile. -/
inductive LooksUp (owed : List Cleanup) (next : Option Session → Chain world) :
    Chain world → Prop
  | found (session : Option Session) : LooksUp owed next (next session)
  | failed (error : ServerError) : LooksUp owed next (failOwing owed error)
  | asks {result : Type} (issued : Query result) {follow : Except QueryError result → Chain world}
      (looksUp : ∀ outcome, LooksUp owed next (follow outcome)) :
      LooksUp owed next (query owed issued follow)

end Chain

namespace Step

variable {world result other : Type}

/-- A step does nothing but look up a session, whatever follows does nothing else. -/
def OnlyLooksUp (step : Step world result) : Prop :=
  ∀ (next : Option Session → Chain world) (rest : Rest world result),
    (∀ value, Chain.LooksUp rest.owed next (rest.next value)) →
      Chain.LooksUp rest.owed next (step.run rest)

theorem onlyLooksUp_pure (value : result) : (pure value : Step world result).OnlyLooksUp :=
  fun _ _ looksUp => looksUp value

/-- A query that may fail is part of a look-up. -/
theorem onlyLooksUp_queryOrFail (issued : Query result) :
    (queryOrFail issued : Step world result).OnlyLooksUp := by
  intro next rest looksUp
  refine Chain.LooksUp.asks issued fun outcome => ?_
  cases outcome with
  | ok value => exact looksUp value
  | error error => exact Chain.LooksUp.failed (ServerError.ofQuery error)

variable {step : Step world result}

/-- Parts of a look-up one after the other are part of it. -/
theorem OnlyLooksUp.andThen
    {follow : result → Step world other}
    (first : step.OnlyLooksUp)
    (second : ∀ value, (follow value).OnlyLooksUp) :
    (step.andThen follow).OnlyLooksUp :=
  fun next rest looksUp =>
    first next { next := fun value => (follow value).run rest, owed := rest.owed } fun value =>
      second value next rest looksUp

/-- A part of a look-up with another value is part of it. -/
theorem OnlyLooksUp.map
    (looking : step.OnlyLooksUp)
    (change : result → other) :
    (step.map change).OnlyLooksUp :=
  fun next rest looksUp =>
    looking next { next := fun value => rest.next (change value), owed := rest.owed } fun value =>
      looksUp (change value)

end Step

namespace Session

variable {world : Type}

/-- Resolving a session looks it up. -/
theorem onlyLooksUp_resolve (token : Uuid) :
    (resolve token : Step world (Option Session)).OnlyLooksUp := by
  refine Step.OnlyLooksUp.andThen (Step.onlyLooksUp_queryOrFail _) fun signIn => ?_
  cases signIn with
  | none => exact Step.onlyLooksUp_pure _
  | some signIn =>
      refine Step.OnlyLooksUp.andThen (Step.onlyLooksUp_queryOrFail _) fun user => ?_
      cases user with
      | none => exact Step.onlyLooksUp_pure _
      | some user =>
          refine Step.OnlyLooksUp.map
            (Step.OnlyLooksUp.andThen (Step.onlyLooksUp_queryOrFail _) fun membership => ?_) _
          cases membership with
          | none => exact Step.onlyLooksUp_pure _
          | some membership => exact Step.onlyLooksUp_queryOrFail _

theorem looksUp_resolve
    (token : Uuid)
    (owed : List Cleanup)
    (next : Option Session → Chain world) :
    Chain.LooksUp owed next ((resolve token).run { next, owed }) :=
  onlyLooksUp_resolve token next { next, owed } fun session => Chain.LooksUp.found session

end Session

end Screencast
