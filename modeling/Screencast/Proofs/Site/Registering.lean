import Screencast.Proofs.Effect.Interleaved
import Screencast.Proofs.Site.Route
import Screencast.Proofs.Store.Keyed

/-!
# How far a registration has come

Whoever comes back from GitHub is looked up among the users, and is added to them if there is no
user with the account. What a step on the way does to the users depends on how far the chain has
come.
-/

namespace Screencast

namespace Site

namespace Registering

/-! ## What is noted down -/

/-- The number of users with a GitHub account. -/
def userCount (uid : Int) (pool : Pool) : Nat :=
  (pool.rows "users").countP (Pool.meets [("github_uid", Json.integer uid)])

/-- Whether a query looks a user up. -/
def isLookup : Issue → Bool
  | Issue.query statement => statement.isSelect && statement.table = "users"
  | Issue.task _ => false

/-- Whether a query adds a user with a GitHub account. -/
def isAddition (uid : Int) : Issue → Bool
  | Issue.query (Statement.insert table row) =>
    table = "users" && Pool.meets [("github_uid", Json.integer uid)] row
  | _ => false

/-- The number of users with a GitHub account that were added. -/
def additions (uid : Int) (journal : List (Nat × Issue)) : Nat :=
  journal.countP fun noted => isAddition uid noted.2

variable {uid : Int} {pool : Pool}

theorem additions_append (uid : Int) (journal more : List (Nat × Issue)) :
    additions uid (journal ++ more) = additions uid journal + additions uid more :=
  List.countP_append

/-- Of one query or task, one user is added or none. -/
theorem additions_noted
    {stride : Stride World}
    {issue : Issue}
    (issued : stride.issued = some issue)
    (uid : Int)
    (party : Nat) :
    additions uid (stride.noted party) = (isAddition uid issue).toNat := by
  rw [stride.noted_of_issued issued, additions, List.countP_singleton]
  cases isAddition uid issue <;> rfl

/-- A query that looks a user up adds none. -/
theorem isAddition_of_isLookup {issue : Issue} (looksUp : isLookup issue = true) :
    isAddition uid issue = false := by
  cases issue with
  | task => rfl
  | query statement =>
      cases statement with
      | select | update => rfl
      | insert => cases looksUp

/-- A statement on another table adds no user. -/
theorem isAddition_of_table_ne {statement : Statement} (isOther : statement.table ≠ "users") :
    isAddition uid (Issue.query statement) = false := by
  cases statement with
  | select | update => rfl
  | insert table row =>
      have isOtherTable : table ≠ "users" := isOther
      rw [isAddition, decide_eq_false isOtherTable, Bool.false_and]

/-- Unless it changes users, a statement leaves as many users with an account as there were, and one
more if it adds one. -/
theorem userCount_apply
    {statement : Statement}
    (changesNone : statement.isUpdate = false ∨ statement.table ≠ "users")
    (pool : Pool) :
    userCount uid (pool.apply statement).2 =
      userCount uid pool + (isAddition uid (Issue.query statement)).toNat := by
  by_cases isUsers : statement.table = "users"
  · cases statement with
    | select =>
        rw [userCount, Pool.rows_apply_of_isSelect rfl]
        rfl
    | insert table row =>
        obtain rfl : table = "users" := isUsers
        simp only [userCount, Pool.apply, Pool.seed, Pool.rows_setRows, if_true, List.countP_append,
          List.countP_singleton, isAddition, decide_true, Bool.true_and]
        cases Pool.meets [("github_uid", Json.integer uid)] row <;> rfl
    | update => exact absurd isUsers (changesNone.resolve_left Bool.noConfusion)
  · rw [isAddition_of_table_ne isUsers, userCount,
      Pool.rows_apply_of_not_writesTo (Statement.writesTo_of_table_ne isUsers)]
    rfl

/-- If no user with an account is found, there is none. -/
theorem userCount_eq_zero_of_ask
    (unknown : pool.ask (Stored.selectBy User "github_uid" (Json.integer uid)) = Except.ok none) :
    userCount uid pool = 0 := by
  rw [Pool.ask_selectBy] at unknown
  split at unknown
  next isNone =>
    refine List.countP_eq_zero.2 fun row isRow => ?_
    exact List.find?_eq_none.1 isNone row isRow
  next row _ =>
    cases decoded : (Query.ofRow (Stored.decode row) : Except QueryError (Stored User)) with
    | error => simp [decoded, Except.map] at unknown
    | ok => simp [decoded, Except.map] at unknown

/-! ## How far a chain has come -/

/-- What a chain has still to do about users: look the user up, add the user that was not found, or
nothing. -/
inductive Standing
  | looking
  | adding
  | settled

/-- A chain has come so far. Its tasks are answered by the surroundings. -/
inductive Stands (uid : Int) (around : Surroundings World) : Standing → Chain World → Prop
  | responding (terminal : Terminal) : Stands uid around Standing.settled (Chain.respond terminal)
  | noting {standing : Standing} {rest : Chain World} (event : Event)
      (follow : Stands uid around standing rest) :
      Stands uid around standing (Chain.note event rest)
  | asking {result : Type} {standing : Standing} {call : Task World result}
      {next : Except TaskError result → Chain World} (owed : List Cleanup)
      (follow : Stands uid around standing
        (next (call.resolve (around.answer call.description)))) :
      Stands uid around standing (Chain.task owed call next)
  | drawing {standing : Standing} {next : Uuid → Chain World}
      (follow : ∀ id, Stands uid around standing (next id)) :
      Stands uid around standing (Chain.fresh next)
  | looking {next : Except QueryError (Option (Stored User)) → Chain World} (owed : List Cleanup)
      (unknown : Stands uid around Standing.adding (next (Except.ok none)))
      (otherwise : ∀ outcome, outcome ≠ Except.ok none →
        Stands uid around Standing.settled (next outcome)) :
      Stands uid around Standing.looking
        (Chain.query owed (Stored.selectBy User "github_uid" (Json.integer uid)) next)
  | adding {next : Except QueryError Uuid → Chain World} (owed : List Cleanup) (id : Uuid)
      (user : User) (follow : ∀ outcome, Stands uid around Standing.settled (next outcome)) :
      Stands uid around Standing.adding (Chain.query owed (Stored.insert id user) next)
  | storing {result : Type} {issued : Query result} {next : Except QueryError result → Chain World}
      (owed : List Cleanup) (isOther : issued.statement.table ≠ "users")
      (follow : ∀ outcome, Stands uid around Standing.settled (next outcome)) :
      Stands uid around Standing.settled (Chain.query owed issued next)

variable {around : Surroundings World} {standing : Standing} {site : Site}

/-- Who reports a failure is done with users. -/
theorem stands_fail (error : ServerError) :
    Stands uid around Standing.settled (Chain.fail error) := by
  unfold Chain.fail Chain.failOwing
  dsimp only
  split
  · exact Stands.noting _ (Stands.responding _)
  · exact Stands.responding _

/-- Who begins a session is done with users. -/
theorem stands_startSession (userId : Uuid) (origin : Option String) :
    Stands uid around Standing.settled (site.startSession userId origin) := by
  refine Stands.drawing fun id => Stands.storing [] ?_ fun outcome => ?_
  · unfold Stored.insert
    split <;> exact (by decide : Record.table SignIn ≠ "users")
  · cases outcome with
    | ok sessionId => exact Stands.responding _
    | error => exact stands_fail _

/-- Who has a profile looks its user up, and adds the user if there is none. -/
theorem stands_signInAs
    {profile : Profile}
    (isNumbered : profile.id = uid)
    (accessToken : String)
    (origin : Option String) :
    Stands uid around Standing.looking (site.signInAs accessToken profile origin) := by
  subst isNumbered
  refine Stands.looking [] (Stands.drawing fun teamToken => Stands.drawing fun id => ?_)
    fun outcome isOther => ?_
  · refine Stands.adding [] id _ fun outcome => ?_
    cases outcome with
    | ok userId => exact stands_startSession userId origin
    | error => exact stands_fail _
  · match outcome with
    | Except.ok none => exact absurd rfl isOther
    | Except.ok (some user) => exact stands_startSession user.id origin
    | Except.error _ => exact stands_fail _

/-- Who comes back from GitHub has still to be looked up, or is done with users because there is no
profile. -/
theorem stands_githubCallback
    (isNumbered : ∀ profile, Collaborator.profile.resolve
      (around.answer Collaborator.profile.description) = Except.ok profile → profile.id = uid)
    (code origin : Option String) :
    Stands uid around Standing.looking (site.githubCallback code origin) ∨
      Stands uid around Standing.settled (site.githubCallback code origin) := by
  cases code with
  | none => exact Or.inr (stands_fail _)
  | some code =>
      cases token : Collaborator.accessToken.resolve
          (around.answer Collaborator.accessToken.description) with
      | error error =>
          refine Or.inr (Stands.asking [] ?_)
          rw [token]
          exact stands_fail _
      | ok accessToken =>
          cases accessToken with
          | none =>
              refine Or.inr (Stands.asking [] ?_)
              rw [token]
              exact stands_fail _
          | some accessToken =>
              cases answered : Collaborator.profile.resolve
                  (around.answer Collaborator.profile.description) with
              | error error =>
                  refine Or.inr (Stands.asking [] ?_)
                  rw [token]
                  refine Stands.asking [] ?_
                  rw [answered]
                  exact stands_fail _
              | ok profile =>
                  refine Or.inl (Stands.asking [] ?_)
                  rw [token]
                  refine Stands.asking [] ?_
                  rw [answered]
                  exact stands_signInAs (isNumbered profile answered) accessToken origin

/-! ## One step -/

/-- What a step does about users: nothing, it finds the user, it finds that there is none, or it
adds the user. -/
inductive Strides (uid : Int) (pool : Pool) (stride : Stride World) : Standing → Standing → Prop
  | calm {standing : Standing} (addsNone : ∀ issue ∈ stride.issued, isAddition uid issue = false) :
      Strides uid pool stride standing standing
  | finding (addsNone : ∀ issue ∈ stride.issued, isAddition uid issue = false) :
      Strides uid pool stride Standing.looking Standing.settled
  | missing {lookup : Issue} (isUnknown : userCount uid pool = 0)
      (issued : stride.issued = some lookup) (looksUp : isLookup lookup = true) :
      Strides uid pool stride Standing.looking Standing.adding
  | adding {addition : Issue} (issued : stride.issued = some addition) :
      Strides uid pool stride Standing.adding Standing.settled

/-- A chain takes a step: it detaches nothing, there are as many users with the account as before
and one more if one was added, and the chain goes on. -/
theorem exists_strides
    {chain : Chain World}
    {drawn : Nat}
    {stride : Stride World}
    (stands : Stands uid around standing chain)
    (taken : around.stride? pool drawn chain = some stride) :
    ∃ next, Strides uid pool stride standing next ∧ Stands uid around next stride.chain ∧
      stride.aside = none ∧ ∀ party, userCount uid stride.pool =
        userCount uid pool + additions uid (stride.noted party) := by
  cases stands with
  | responding => cases taken
  | noting _ follow =>
      cases taken
      exact ⟨_, Strides.calm nofun, follow, rfl, fun _ => rfl⟩
  | asking _ follow =>
      cases taken
      refine ⟨_, Strides.calm ?_, follow, rfl, fun _ => rfl⟩
      rintro _ ⟨⟩
      rfl
  | drawing follow =>
      cases taken
      exact ⟨_, Strides.calm nofun, follow _, rfl, fun _ => rfl⟩
  | looking _ unknown otherwise =>
      cases taken
      have looksUp : isLookup (Issue.query
        (Stored.selectBy User "github_uid" (Json.integer uid)).statement) = true := rfl
      by_cases isUnknown : pool.ask (Stored.selectBy User "github_uid" (Json.integer uid)) =
          Except.ok none
      · refine ⟨_, Strides.missing (userCount_eq_zero_of_ask isUnknown) rfl looksUp, ?_, rfl,
          fun party => ?_⟩
        · simp only [isUnknown]
          exact unknown
        · rw [additions_noted rfl]
          exact userCount_apply (Or.inl rfl) pool
      · refine ⟨_, Strides.finding ?_, otherwise _ isUnknown, rfl, fun party => ?_⟩
        · rintro _ ⟨⟩
          exact isAddition_of_isLookup looksUp
        · rw [additions_noted rfl]
          exact userCount_apply (Or.inl rfl) pool
  | adding _ id user follow =>
      cases taken
      refine ⟨_, Strides.adding rfl, follow _, rfl, fun party => ?_⟩
      have isInsert : (Stored.insert id user).statement.isUpdate = false := by
        unfold Stored.insert
        dsimp only
        split <;> rfl
      rw [additions_noted rfl]
      exact userCount_apply (Or.inl isInsert) pool
  | storing _ isOther follow =>
      cases taken
      refine ⟨_, Strides.calm ?_, follow _, rfl, fun party => ?_⟩
      · rintro _ ⟨⟩
        exact isAddition_of_table_ne isOther
      · rw [additions_noted rfl]
        exact userCount_apply (Or.inr isOther) pool

end Registering

end Site

end Screencast
