import Screencast.Proofs.Site.SignIn

/-!
# Signing in again and again

Visitors come back from GitHub one after another, while any tasks and queries fail. However many
there are, no two users have the same GitHub account, no row is changed, and whoever was sent on
with a cookie is known by it as the user of the account from then on.
-/

namespace Screencast

namespace Script

variable {answer : Type}

theorem fst_next (script : Script answer) (name : String) :
    (script.next name).1 = (KeyMap.find? name script).bind List.head? := by
  unfold next
  split <;> simp [*]

/-- Taking an answer to calls of one name leaves the answers to calls of another name. -/
theorem fst_next_next_of_ne
    {name other : String}
    (isOther : name ≠ other)
    (script : Script answer) :
    ((script.next name).2.next other).1 = (script.next other).1 := by
  have sameFound : KeyMap.find? other (script.next name).2 = KeyMap.find? other script := by
    unfold next
    split
    · rfl
    · rfl
    · rfl
    · rw [KeyMap.find?_put, if_neg isOther]
  rw [fst_next, fst_next, sameFound]

end Script

namespace Stubs

variable {world : Type}

/-- A task takes the next answer from the script. -/
theorem answers_task (description : TaskDescription) (stubs : Stubs world) :
    (task description stubs).2.answers = (stubs.answers.next description.name).2 := by
  unfold task
  split
  · next isNext => rw [isNext]
  · next isNext =>
      unfold Script.next at isNext ⊢
      split at isNext
      · rfl
      · rfl
      · cases isNext
      · cases isNext

end Stubs

namespace Terminal

/-- Where a visitor is sent, and with which headers. -/
def redirection? : Terminal → Option (String × Headers)
  | redirect path headers => some (path, headers)
  | _ => none

/-- Only a redirect sends a visitor anywhere. -/
theorem redirection?_eq_some_iff
    {terminal : Terminal}
    {path : String}
    {headers : Headers} :
    terminal.redirection? = some (path, headers) ↔ terminal = redirect path headers := by
  cases terminal <;> simp [redirection?]

end Terminal

namespace Site

/-! ## Visitors who come back -/

/-- A visitor who comes back from GitHub to a site that is answered by stubs: what the request
brings along, what answers the tasks, and which queries fail. -/
structure Callback where
  site : Site
  arrival : Arrival := {}
  world : World
  answers : Script (Except TaskError Answer)
  planned : List (Option QueryError) := []
  code : Option String
  origin : Option String

namespace Callback

/-- The profile that GitHub has for the visitor, if it answers with one. -/
def profile? (callback : Callback) : Option Profile :=
  match (callback.answers.next Collaborator.profile.description.name).1 with
  | some (Except.ok (Answer.profile profile)) => some profile
  | _ => none

/-- The identifiers that are handed out at most: those of a team, a user and a session. -/
def identifiers (callback : Callback) : List Uuid :=
  [1, 2, 3].map fun count => callback.arrival.identifiers (Uuid.drawn count)

/-- What answers a visitor on the tables of a pool. -/
def stubs (callback : Callback) (pool : Pool) : Stubs World where
  pool := pool
  world := callback.world
  answers := callback.answers
  planned := callback.planned

/-- Answer a visitor. -/
def run (callback : Callback) (pool : Pool) : Outcome × Pool :=
  let head := RequestHead.ofRoute (Route.githubCallback callback.code callback.origin)
  let (outcome, left) := callback.arrival.run (callback.site.dispatch head) (callback.stubs pool)
  (outcome, left.pool)

/-- Answer visitors one after another, for the tables that they leave. -/
def runAll (callbacks : List Callback) (pool : Pool) : Pool :=
  callbacks.foldl (fun between callback => (callback.run between).2) pool

/-- A profile that is answered is the one that GitHub has for the visitor. -/
theorem profile?_of_resolve
    {callback : Callback}
    {pool : Pool}
    {profile : Profile}
    (answered : Collaborator.profile.resolve
      (Stubs.task Collaborator.profile.description
        (Stubs.task Collaborator.accessToken.description (callback.stubs pool)).2).1 =
      Except.ok profile) :
    callback.profile? = some profile := by
  have isOther : Collaborator.accessToken.description.name ≠
      Collaborator.profile.description.name := by
    decide
  rw [Stubs.fst_task, Stubs.answers_task, Script.fst_next_next_of_ne isOther] at answered
  change Collaborator.profile.resolve
    ((callback.answers.next Collaborator.profile.description.name).1.getD _) = _ at answered
  unfold profile?
  generalize (callback.answers.next Collaborator.profile.description.name).1 = next at answered ⊢
  match next with
  | none => cases answered
  | some (Except.error _) => cases answered
  | some (Except.ok answer) =>
      cases answer with
      | profile found => exact congrArg some (Except.ok.inj answered)
      | _ => cases answered

/-! ## What visitors leave -/

variable {callback : Callback} {callbacks : List Callback} {pool : Pool}
  {users : List (Stored User)} {signIns : List (Stored SignIn)}

theorem runAll_nil (pool : Pool) : runAll [] pool = pool := List.foldl_nil

theorem runAll_cons (callback : Callback) (callbacks : List Callback) (pool : Pool) :
    runAll (callback :: callbacks) pool = runAll callbacks (callback.run pool).2 :=
  List.foldl_cons

/-- The conditions on visitors: their times can be written, their profiles have numbers of 64 bits,
and no identifier is handed out that is handed out before or has been in use. -/
structure AreReady (callbacks : List Callback) (users : List (Stored User))
    (signIns : List (Stored SignIn)) : Prop where
  clock : ∀ callback ∈ callbacks, callback.site.wallClock.IsReadable
  fits : ∀ callback ∈ callbacks, ∀ profile ∈ callback.profile?, ColumnType.IsLong profile.id
  distinct : (callbacks.flatMap identifiers).Nodup
  fresh : ∀ id ∈ callbacks.flatMap identifiers,
    id ∉ users.map Stored.id ∧ id ∉ signIns.map Stored.id

/-- One visitor is admitted or refused. -/
theorem leaves_run
    (accounts : Accounts pool users signIns)
    (ready : AreReady [callback] users signIns) :
    Leaves callback.profile? pool users signIns callback.identifiers (callback.run pool).1.terminal
      (callback.run pool).2 := by
  have fresh := ready.fresh
  rw [List.flatMap_singleton] at fresh
  have areHandedOut : ∀ count, 0 < count → count ≤ 0 + 3 →
      callback.arrival.identifiers (Uuid.drawn count) ∈ callback.identifiers := by
    intro count isPositive isSmall
    refine List.mem_map_of_mem ?_
    simp only [List.mem_cons, List.not_mem_nil, or_false]
    omega
  have named : (Route.githubCallback callback.code callback.origin).NamesNothingEmpty := trivial
  rw [run, dispatch_ofRoute _ named]
  exact Arrival.ComesTo.run_spec
    (comesTo_githubCallback accounts (fun _ answered => profile?_of_resolve answered)
      (ready.fits callback (List.mem_singleton_self callback))
      (ready.clock callback (List.mem_singleton_self callback)) areHandedOut fresh)

/-- The first of some visitors is ready. -/
theorem AreReady.head (ready : AreReady (callback :: callbacks) users signIns) :
    AreReady [callback] users signIns where
  clock := List.forall_mem_singleton.2 (ready.clock callback List.mem_cons_self)
  fits := List.forall_mem_singleton.2 (ready.fits callback List.mem_cons_self)
  distinct := by
    have distinct := ready.distinct
    rw [List.flatMap_cons] at distinct
    rw [List.flatMap_singleton]
    exact distinct.of_append_left
  fresh := by
    intro id isHandedOut
    rw [List.flatMap_singleton] at isHandedOut
    exact ready.fresh id (List.mem_flatMap_of_mem List.mem_cons_self isHandedOut)

/-- The other visitors are ready when users and sign-ins were added under identifiers of the first
one. -/
theorem AreReady.tail
    {newUsers : List (Stored User)}
    {newSignIns : List (Stored SignIn)}
    (ready : AreReady (callback :: callbacks) users signIns)
    (fromUsers : ∀ user ∈ newUsers, user.id ∈ callback.identifiers)
    (fromSignIns : ∀ signIn ∈ newSignIns, signIn.id ∈ callback.identifiers) :
    AreReady callbacks (users ++ newUsers) (signIns ++ newSignIns) where
  clock := fun other isOther => ready.clock other (List.mem_cons_of_mem callback isOther)
  fits := fun other isOther => ready.fits other (List.mem_cons_of_mem callback isOther)
  distinct := by
    have distinct := ready.distinct
    rw [List.flatMap_cons] at distinct
    exact distinct.of_append_right
  fresh := by
    intro id isHandedOut
    have distinct := ready.distinct
    rw [List.flatMap_cons] at distinct
    have notFirst : id ∉ callback.identifiers := fun isFirst =>
      List.disjoint_of_nodup_append distinct isFirst isHandedOut
    obtain ⟨noUser, noSignIn⟩ := ready.fresh id (by
      rw [List.flatMap_cons]
      exact List.mem_append_right _ isHandedOut)
    rw [List.map_append, List.map_append, List.mem_append, List.mem_append, not_or, not_or]
    refine ⟨⟨noUser, fun isNew => ?_⟩, noSignIn, fun isNew => ?_⟩
    · obtain ⟨user, present, rfl⟩ := List.mem_map.1 isNew
      exact notFirst (fromUsers user present)
    · obtain ⟨signIn, present, rfl⟩ := List.mem_map.1 isNew
      exact notFirst (fromSignIns signIn present)

/-- However many visitors there are, accounts stay accounts: users and sign-ins are added behind the
others, and no row is changed. -/
theorem exists_accounts_runAll
    {rest : List Callback}
    (accounts : Accounts pool users signIns)
    (ready : AreReady (callbacks ++ rest) users signIns) :
    ∃ newUsers newSignIns,
      Accounts (runAll callbacks pool) (users ++ newUsers) (signIns ++ newSignIns) ∧
        AreReady rest (users ++ newUsers) (signIns ++ newSignIns) ∧
        pool.Extends (runAll callbacks pool) := by
  induction callbacks generalizing pool users signIns with
  | nil =>
      rw [runAll_nil]
      refine ⟨[], [], ?_, ?_, Pool.Extends.refl pool⟩
      · rwa [List.append_nil, List.append_nil]
      · rwa [List.append_nil, List.append_nil]
  | cons callback callbacks inductionHypothesis =>
      obtain ⟨newUsers, newSignIns, between, fromUsers, fromSignIns, keepsRows, _⟩ :=
        leaves_run accounts ready.head
      obtain ⟨moreUsers, moreSignIns, last, lastReady, keepsMore⟩ :=
        inductionHypothesis between (ready.tail fromUsers fromSignIns)
      rw [List.append_assoc, List.append_assoc] at last lastReady
      rw [runAll_cons]
      exact ⟨_, _, last, lastReady, keepsRows.trans keepsMore⟩

/-- A visitor who is admitted has a row of one more session. -/
theorem exists_row_of_accounts
    {left : Pool}
    {newUsers : List (Stored User)}
    {signIn : Stored SignIn}
    (accounts : Accounts pool users signIns)
    (after : Accounts left (users ++ newUsers) (signIns ++ [signIn]))
    (keepsRows : pool.Extends left) :
    ∃ row, left.rows (Record.table SignIn) = pool.rows (Record.table SignIn) ++ [row] ∧
      row.find? "id" = some (Row.ofUuid signIn.id) := by
  obtain ⟨added, isAdded⟩ := keepsRows (Record.table SignIn)
  have count := after.holdsSignIns.length_eq
  rw [← isAdded, List.length_append, List.length_append, accounts.holdsSignIns.length_eq,
    List.length_singleton, Nat.add_left_cancel_iff, List.length_eq_one_iff] at count
  obtain ⟨row, rfl⟩ := count
  have ids := after.holdsSignIns.map_find?_id
  rw [← isAdded, List.map_append, List.map_append, List.map_append] at ids
  obtain ⟨_, isLast⟩ := List.append_inj' ids rfl
  exact ⟨row, isAdded.symm, (List.cons.inj isLast).1⟩

/-- A visitor who is refused has no session. -/
theorem rows_eq_of_accounts
    {left : Pool}
    {newUsers : List (Stored User)}
    (accounts : Accounts pool users signIns)
    (after : Accounts left (users ++ newUsers) (signIns ++ []))
    (keepsRows : pool.Extends left) :
    left.rows (Record.table SignIn) = pool.rows (Record.table SignIn) := by
  refine ((keepsRows (Record.table SignIn)).eq_of_length ?_).symm
  rw [accounts.holdsSignIns.length_eq, after.holdsSignIns.length_eq, List.append_nil]

/-- Signing in is complete and clean. Visitors come back from GitHub one after another, with any
codes and origins, while any tasks and queries fail. In the end no two users have the same GitHub
account, and no visitor has changed or removed a row. A visitor who is sent on has exactly one
session more in the tables, and the cookie that is given names it: presented from then on, it is
resolved to the session of the user with the account of the profile. A visitor who is not sent on
has no session more. -/
theorem rows_and_resolve_of_runAll
    {start : Pool}
    {before after : List Callback}
    (accounts : Accounts start users signIns)
    (ready : AreReady (before ++ callback :: after) users signIns) :
    let between := runAll before start
    let outcome := (callback.run between).1
    let next := (callback.run between).2
    let last := runAll after next
    (∃ kept, last.records User = Except.ok kept ∧
        (kept.filterMap fun user => user.data.githubUid).Nodup) ∧
      start.Extends between ∧ between.Extends next ∧ next.Extends last ∧
      (∀ location headers, outcome.terminal = Terminal.redirect location headers →
        ∃ profile id row, callback.profile? = some profile ∧
          headers = [("Set-Cookie", Session.cookie id)] ∧
          next.rows (Record.table SignIn) = between.rows (Record.table SignIn) ++ [row] ∧
          row.find? "id" = some (Row.ofUuid id) ∧
          Session.token? (Session.presented (Session.cookie id)) = some id ∧
          ∃ session : Session, session.sessionId = id ∧
            session.user.data.githubUid = some profile.id ∧
            (Session.resolve id : Step World (Option Session)).YieldsOn last (some session)) ∧
      ((∀ location headers, outcome.terminal ≠ Terminal.redirect location headers) →
        next.rows (Record.table SignIn) = between.rows (Record.table SignIn)) := by
  obtain ⟨_, _, betweenAccounts, betweenReady, keepsFirst⟩ := exists_accounts_runAll accounts ready
  obtain ⟨newUsers, newSignIns, nextAccounts, fromUsers, fromSignIns, keepsRows, admits⟩ :=
    leaves_run betweenAccounts betweenReady.head
  have nextReady := betweenReady.tail fromUsers fromSignIns
  rw [← List.append_nil after] at nextReady
  obtain ⟨_, _, lastAccounts, _, keepsLast⟩ := exists_accounts_runAll nextAccounts nextReady
  dsimp only
  generalize callback.run (runAll before start) = result at *
  refine ⟨⟨_, lastAccounts.holdsUsers.decodeAll_eq, lastAccounts.unshared⟩, keepsFirst, keepsRows,
    keepsLast, fun location headers isRedirect => ?_, fun noRedirect => ?_⟩
  · rw [isRedirect] at admits
    cases admits with
    | welcomed _ signIn user profile isProfile isUser own hasUid =>
        obtain ⟨row, isAdded, hasId⟩ :=
          exists_row_of_accounts betweenAccounts nextAccounts keepsRows
        obtain ⟨manager, found⟩ := lastAccounts.exists_lookUp
          (List.mem_append_left _ (List.mem_append_right _ (List.mem_singleton_self signIn)))
          (List.mem_append_left _ isUser) own
        exact ⟨profile, signIn.id, row, isProfile, rfl, isAdded, hasId,
          Session.token?_presented_cookie signIn.id, _, rfl, hasUid,
          Session.yieldsOn_resolve found⟩
  · generalize result.1.terminal = terminal at admits noRedirect
    cases admits with
    | welcomed location signIn => exact absurd rfl (noRedirect _ _)
    | refused => exact rows_eq_of_accounts betweenAccounts nextAccounts keepsRows

/-- A visitor who could not be signed in, since the session could not be stored, signs in at the
second attempt, and is known by the cookie as the user who was created at the first one. -/
theorem rows_and_resolve_of_second_attempt :
    let profile : Profile :=
      { id := 7, login := "ana", avatarUrl := "", name := none, email := none }
    let callback (planned : List (Option QueryError)) (arrival : Arrival) : Callback :=
      { site := { now := Timestamp.ofUnix 1717232400 0 }
        arrival
        world := { catalog := Catalog.empty, source := Except.ok Catalog.empty }
        answers :=
          [("oauth.access_token", [Except.ok (Answer.token (some "gho"))]),
            ("oauth.profile", [Except.ok (Answer.profile profile)])]
        planned
        code := some "code"
        origin := some "/episodes" }
    let later (id : Uuid) : Uuid :=
      if id = Uuid.drawn 1 then Uuid.drawn 4
      else if id = Uuid.drawn 2 then Uuid.drawn 5
      else Uuid.drawn 6
    let first := callback [none, none, some (QueryError.execute "disk full")] {}
    let second := callback [] { identifiers := later }
    let start : Pool := {}
    Accounts start [] [] ∧ AreReady [first, second] [] [] ∧
      (first.run start).1.terminal.status = Status.internalError ∧
      (second.run (runAll [first] start)).1.terminal =
        Terminal.redirect "/episodes" [("Set-Cookie", Session.cookie (Uuid.drawn 4))] ∧
      ∃ session : Session, session.user.data.githubUid = some 7 ∧
        (Session.resolve (Uuid.drawn 4) : Step World (Option Session)).YieldsOn
          (second.run (runAll [first] start)).2 (some session) := by
  intro profile callback later first second start
  have accounts : Accounts start [] [] :=
    ⟨Pool.holds_nil, Pool.holds_nil, ⟨[], Pool.holds_nil⟩, List.nodup_nil⟩
  have clock : (Timestamp.ofUnix 1717232400 0).IsReadable := by
    constructor <;> decide +kernel
  have fits : ColumnType.IsLong profile.id := ⟨by decide, by decide⟩
  have isFirst : first.profile? = some profile := by decide +kernel
  have isSecond : second.profile? = some profile := by decide +kernel
  have ready : AreReady ([first] ++ second :: []) [] [] := by
    constructor
    case clock => exact List.forall_mem_cons.2 ⟨clock, List.forall_mem_singleton.2 clock⟩
    case fits =>
      refine List.forall_mem_cons.2 ⟨?_, List.forall_mem_singleton.2 ?_⟩
      · exact fun _ isFound => Option.some.inj (isFirst.symm.trans isFound) ▸ fits
      · exact fun _ isFound => Option.some.inj (isSecond.symm.trans isFound) ▸ fits
    case distinct => decide +kernel
    case fresh => exact fun _ _ => ⟨List.not_mem_nil, List.not_mem_nil⟩
  have refused : (first.run start).1.terminal.status = Status.internalError := by decide +kernel
  have welcomed : (second.run (runAll [first] start)).1.terminal =
      Terminal.redirect "/episodes" [("Set-Cookie", Session.cookie (Uuid.drawn 4))] :=
    Terminal.redirection?_eq_some_iff.1 (by decide +kernel)
  have isKnown := (rows_and_resolve_of_runAll accounts ready).2.2.2.2.1
  obtain ⟨found, id, _, isFound, isCookie, _, _, isNamed, session, _, hasUid, yields⟩ :=
    isKnown _ _ welcomed
  have sameId : Session.cookie (Uuid.drawn 4) = Session.cookie id :=
    congrArg Prod.snd (List.cons.inj isCookie).1
  rw [← sameId, Session.token?_presented_cookie] at isNamed
  obtain rfl := Option.some.inj isNamed
  obtain rfl := Option.some.inj (isSecond.symm.trans isFound)
  rw [runAll_nil] at yields
  exact ⟨accounts, ready, refused, welcomed, session, hasUid, yields⟩

end Callback

end Site

end Screencast
