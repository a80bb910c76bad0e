import Screencast.Proofs.Account.Accounts
import Screencast.Proofs.Account.Cookie
import Screencast.Proofs.Site.Route

/-!
# Signing in once

A visitor who comes back from GitHub is signed in or is told of a failure, whichever queries and
tasks fail. Who is signed in has a session of the user of the GitHub account, and is given the
cookie of this session. Nobody else is added to the accounts, and no row is changed.
-/

namespace Screencast

namespace Site

open Arrival

/-! ## What a return from GitHub leads to -/

/-- How a return from GitHub ends: with the cookie of a new session of the user of the profile, or
with an error page and without a session. -/
inductive Admits (profile? : Option Profile) (users : List (Stored User)) :
    Terminal → List (Stored SignIn) → Prop
  | welcomed (location : String) (signIn : Stored SignIn) (user : Stored User) (profile : Profile)
      (isProfile : profile? = some profile) (isUser : user ∈ users)
      (own : user.id = signIn.data.userId) (hasUid : user.data.githubUid = some profile.id) :
      Admits profile? users
        (Terminal.redirect location [("Set-Cookie", Session.cookie signIn.id)]) [signIn]
  | refused (page : Html.Node) (status : Status) :
      Admits profile? users (Terminal.html page status) []

/-- What a return from GitHub makes of the accounts: users and sign-ins with some of the given
identifiers are added, all rows stay as they are, and the visitor is admitted or refused. -/
def Leaves (profile? : Option Profile) (pool : Pool) (users : List (Stored User))
    (signIns : List (Stored SignIn)) (handedOut : List Uuid) (terminal : Terminal) (left : Pool) :
    Prop :=
  ∃ newUsers newSignIns, Accounts left (users ++ newUsers) (signIns ++ newSignIns) ∧
    (∀ user ∈ newUsers, user.id ∈ handedOut) ∧ (∀ signIn ∈ newSignIns, signIn.id ∈ handedOut) ∧
    pool.Extends left ∧ Admits profile? (users ++ newUsers) terminal newSignIns

variable {profile? : Option Profile} {profile : Profile} {pool : Pool} {users : List (Stored User)}
  {signIns : List (Stored SignIn)} {handedOut : List Uuid} {user : Stored User}

/-- A visitor who is refused leaves the accounts as they are. -/
theorem leaves_html
    (accounts : Accounts pool users signIns)
    (page : Html.Node)
    (status : Status) :
    Leaves profile? pool users signIns handedOut (Terminal.html page status) pool := by
  refine ⟨[], [], ?_, List.forall_mem_nil _, List.forall_mem_nil _, Pool.Extends.refl pool,
    Admits.refused page status⟩
  rw [List.append_nil, List.append_nil]
  exact accounts

theorem Leaves.of_extends
    {between left : Pool}
    {terminal : Terminal}
    (leaves : Leaves profile? between users signIns handedOut terminal left)
    (keepsRows : pool.Extends between) :
    Leaves profile? pool users signIns handedOut terminal left := by
  obtain ⟨newUsers, newSignIns, accounts, fromUsers, fromSignIns, more, admits⟩ := leaves
  exact ⟨newUsers, newSignIns, accounts, fromUsers, fromSignIns, keepsRows.trans more, admits⟩

/-- What is left of accounts to which a user was added is left of the accounts before. -/
theorem Leaves.of_addUser
    {left : Pool}
    {terminal : Terminal}
    (leaves : Leaves profile? pool (users ++ [user]) signIns handedOut terminal left)
    (isHandedOut : user.id ∈ handedOut) :
    Leaves profile? pool users signIns handedOut terminal left := by
  obtain ⟨newUsers, newSignIns, accounts, fromUsers, fromSignIns, keepsRows, admits⟩ := leaves
  rw [List.append_assoc] at accounts admits
  exact ⟨[user] ++ newUsers, newSignIns, accounts,
    List.forall_mem_cons.2 ⟨isHandedOut, fromUsers⟩, fromSignIns, keepsRows, admits⟩

/-- The sign-in by which a user has a new session. -/
def newSignIn (site : Site) (userId id : Uuid) : Stored SignIn where
  id := id
  data := { userId, createdAt := site.wallClock }

/-- The account of somebody who signs in for the first time, with its identifier. -/
def newAccount (site : Site) (accessToken : String) (profile : Profile) (teamToken id : Uuid) :
    Stored User where
  id := id
  data := site.newUser accessToken profile teamToken

theorem isStorable_newSignIn
    {site : Site}
    (clock : site.wallClock.IsReadable)
    (userId id : Uuid) :
    Record.Faithful.IsStorable (site.newSignIn userId id).data :=
  clock

/-- A new account can be stored if the time can be written and the number of the profile has 64
bits. -/
theorem isStorable_newAccount
    {site : Site}
    (clock : site.wallClock.IsReadable)
    (fits : ColumnType.IsLong profile.id)
    (accessToken : String)
    (teamToken id : Uuid) :
    Record.Faithful.IsStorable (site.newAccount accessToken profile teamToken id).data := by
  have noCredits : ColumnType.IsLong 0 := ⟨by decide, by decide⟩
  exact ⟨clock, fun _ own => Option.some.inj own ▸ fits, noCredits⟩

variable {site : Site} {arrival : Arrival} {stubs : Stubs World} {drawn : Nat}
  {origin : Option String}

/-- A session begins, or the accounts stay as they are. -/
theorem comesTo_startSession
    (accounts : Accounts stubs.pool users signIns)
    (isProfile : profile? = some profile)
    (isUser : user ∈ users)
    (hasUid : user.data.githubUid = some profile.id)
    (clock : site.wallClock.IsReadable)
    (isHandedOut : arrival.identifiers (Uuid.drawn (drawn + 1)) ∈ handedOut)
    (fresh : arrival.identifiers (Uuid.drawn (drawn + 1)) ∉ signIns.map Stored.id) :
    ComesTo arrival (site.startSession user.id origin) stubs drawn
      (Leaves profile? stubs.pool users signIns handedOut) := by
  have storable := isStorable_newSignIn clock user.id
    (arrival.identifiers (Uuid.drawn (drawn + 1)))
  have inserted := Pool.Holds.ask_insert stubs.pool
    (arrival.identifiers (Uuid.drawn (drawn + 1))) storable
  refine ComesTo.fresh (ComesTo.queryOrFail (fun error => ?fails) (fun error rejected => ?rejects)
    fun id left yields isLeft => ?succeeds)
  case fails => exact leaves_html accounts _ _
  case rejects => exact absurd (inserted.symm.trans rejected) nofun
  case succeeds =>
    obtain rfl := Except.ok.inj (inserted.symm.trans yields)
    refine ComesTo.respond ⟨[], [site.newSignIn user.id _], ?_, List.forall_mem_nil _,
      List.forall_mem_singleton.2 isHandedOut, ?_, ?_⟩
    · rw [isLeft, List.append_nil]
      simpa only [newSignIn] using accounts.addSignIn storable fresh
    · rw [isLeft]
      exact Pool.extends_apply_insert stubs.pool _ _
    · rw [List.append_nil]
      exact Admits.welcomed _ (site.newSignIn user.id _) user profile isProfile isUser rfl hasUid

/-- The user of a profile is added and a session begins, or the accounts stay without one of them.
-/
theorem comesTo_insert_newUser
    {accessToken : String}
    {teamToken id : Uuid}
    (accounts : Accounts stubs.pool users signIns)
    (isProfile : profile? = some profile)
    (unknown : ∀ other ∈ users, other.data.githubUid ≠ some profile.id)
    (fits : ColumnType.IsLong profile.id)
    (clock : site.wallClock.IsReadable)
    (isHandedOut : id ∈ handedOut)
    (isSessionId : arrival.identifiers (Uuid.drawn (drawn + 1)) ∈ handedOut)
    (fresh : ∀ id ∈ handedOut, id ∉ users.map Stored.id ∧ id ∉ signIns.map Stored.id) :
    ComesTo arrival
      (Chain.queryOrFail (Stored.insert id (site.newUser accessToken profile teamToken))
        fun userId => site.startSession userId origin)
      stubs drawn (Leaves profile? stubs.pool users signIns handedOut) := by
  have storable := isStorable_newAccount clock fits accessToken teamToken id
  have inserted := Pool.Holds.ask_insert stubs.pool id storable
  refine ComesTo.queryOrFail (fun error => ?fails) (fun error rejected => ?rejects)
    fun userId left yields isLeft => ?succeeds
  case fails => exact leaves_html accounts _ _
  case rejects => exact absurd (inserted.symm.trans rejected) nofun
  case succeeds =>
    obtain rfl := Except.ok.inj (inserted.symm.trans yields)
    have added : Accounts left.pool
        (users ++ [site.newAccount accessToken profile teamToken id]) signIns := by
      rw [isLeft]
      simpa only [newAccount] using accounts.addUser storable (fresh id isHandedOut).1
        fun uid own other isOther => Option.some.inj own ▸ unknown other isOther
    have keepsRows : stubs.pool.Extends left.pool := by
      rw [isLeft]
      exact Pool.extends_apply_insert stubs.pool id _
    have isUser := List.mem_append_right users
      (List.mem_singleton_self (site.newAccount accessToken profile teamToken id))
    refine (comesTo_startSession added isProfile isUser rfl clock isSessionId
      (fresh _ isSessionId).2).imp fun terminal pool leaves => ?_
    exact (leaves.of_addUser isHandedOut).of_extends keepsRows

/-- Whoever has a profile is signed in as its user, who is created if there is none yet. -/
theorem comesTo_signInAs
    {accessToken : String}
    (accounts : Accounts stubs.pool users signIns)
    (isProfile : profile? = some profile)
    (fits : ColumnType.IsLong profile.id)
    (clock : site.wallClock.IsReadable)
    (areHandedOut : ∀ count, drawn < count → count ≤ drawn + 3 →
      arrival.identifiers (Uuid.drawn count) ∈ handedOut)
    (fresh : ∀ id ∈ handedOut, id ∉ users.map Stored.id ∧ id ∉ signIns.map Stored.id) :
    ComesTo arrival (site.signInAs accessToken profile origin) stubs drawn
      (Leaves profile? stubs.pool users signIns handedOut) := by
  have asked := accounts.ask_githubUid profile.id
  refine ComesTo.queryOrFail (fun error => ?fails) (fun error rejected => ?rejects)
    fun found left yields isLeft => ?succeeds
  case fails => exact leaves_html accounts _ _
  case rejects => exact absurd (asked.symm.trans rejected) nofun
  case succeeds =>
    have sameRows (table : String) : left.pool.rows table = stubs.pool.rows table := by
      rw [isLeft]
      exact Pool.rows_apply_of_isSelect rfl stubs.pool table
    have keepsRows : stubs.pool.Extends left.pool := fun table =>
      sameRows table ▸ List.prefix_rfl
    replace accounts := accounts.of_rows sameRows
    obtain rfl := Except.ok.inj (asked.symm.trans yields)
    suffices goesOn : ComesTo arrival _ left drawn
        (Leaves profile? left.pool users signIns handedOut) from
      goesOn.imp fun terminal pool leaves => leaves.of_extends keepsRows
    cases first : users.find? fun user => decide (user.data.githubUid = some profile.id) with
    | none =>
        have unknown : ∀ other ∈ users, other.data.githubUid ≠ some profile.id := by
          simpa using first
        refine ComesTo.fresh (ComesTo.fresh ?_)
        exact comesTo_insert_newUser accounts isProfile unknown fits clock
          (areHandedOut (drawn + 1 + 1) (by omega) (by omega))
          (areHandedOut (drawn + 1 + 1 + 1) (by omega) (by omega)) fresh
    | some user =>
        have hasUid : user.data.githubUid = some profile.id := by
          simpa using List.find?_some first
        have sessionId := areHandedOut (drawn + 1) (by omega) (by omega)
        exact comesTo_startSession accounts isProfile (List.mem_of_find?_eq_some first) hasUid clock
          sessionId (fresh _ sessionId).2

/-- A visitor who comes back from GitHub is signed in as the user of the profile, or is refused. -/
theorem comesTo_githubCallback
    {code : Option String}
    (accounts : Accounts stubs.pool users signIns)
    (isAnswered : ∀ profile, Collaborator.profile.resolve
      (Stubs.task Collaborator.profile.description
        (Stubs.task Collaborator.accessToken.description stubs).2).1 = Except.ok profile →
      profile? = some profile)
    (fits : ∀ profile ∈ profile?, ColumnType.IsLong profile.id)
    (clock : site.wallClock.IsReadable)
    (areHandedOut : ∀ count, drawn < count → count ≤ drawn + 3 →
      arrival.identifiers (Uuid.drawn count) ∈ handedOut)
    (fresh : ∀ id ∈ handedOut, id ∉ users.map Stored.id ∧ id ∉ signIns.map Stored.id) :
    ComesTo arrival (site.githubCallback code origin) stubs drawn
      (Leaves profile? stubs.pool users signIns handedOut) := by
  cases code with
  | none => exact ComesTo.fail (leaves_html accounts _ _)
  | some code =>
      refine ComesTo.awaitOrFail (fun error => leaves_html accounts _ _) fun accessToken _ => ?_
      have samePool := Stubs.pool_task Collaborator.accessToken.description stubs
      rw [← samePool] at accounts ⊢
      cases accessToken with
      | none => exact ComesTo.fail (leaves_html accounts _ _)
      | some accessToken =>
          refine ComesTo.awaitOrFail (fun error => leaves_html accounts _ _)
            fun profile answered => ?_
          have isProfile := isAnswered profile answered
          have stillSame := Stubs.pool_task Collaborator.profile.description
            (Stubs.task Collaborator.accessToken.description stubs).2
          rw [← stillSame] at accounts ⊢
          exact comesTo_signInAs accounts isProfile (fits profile isProfile) clock areHandedOut
            fresh

end Site

end Screencast
