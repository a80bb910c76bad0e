import Screencast.Proofs.Effect.Undisturbed
import Screencast.Proofs.Site.Concurrent
import Screencast.Proofs.Site.WrittenBack

/-!
# Deliveries that do not disturb each other

The chains of a delivery, and those of deliveries that concern different users and different gifts,
may take their steps in any order: every delivery is answered as if it were made alone, and the
tables are left as they are when the deliveries are made one after another.
-/

namespace Screencast

namespace Site

open Pool Statement

/-! ## What a delivery issues -/

section

variable {around : Surroundings World} {holds : Pool → Prop} {start pool : Pool}

/-- The statements of looking a record up by a text in a column, and of writing it if it is revised.
-/
def statementsOn {record : Type} [Record record] (column text : String)
    (revised : Option (Stored record)) : List Statement :=
  (Stored.selectBy record column (Json.string text)).statement ::
    (revised.map fun revised => revised.update.statement).toList

/-- The statements of a delivery about the user whose status is told. -/
def userStatements (told : Option (Uuid × SubscriptionStatus)) (pool : Pool) : List Statement :=
  match told with
  | none => []
  | some (userId, status) => statementsOn "id" userId.text (revisedUser? (some (userId, status)) pool)

/-- The statements of a delivery about the gift of a notice. -/
def giftStatements (about : Option SubscriptionNotice) (pool : Pool) : List Statement :=
  match about with
  | none => []
  | some notice => statementsOn "subscription_id" notice.uuid (revisedGift? (some notice) pool)

/-- The statements of a delivery, if the tables are not changed by anybody else. -/
def deliveryStatements (around : Surroundings World) (pool : Pool) : List Statement :=
  userStatements (told? around) pool ++ giftStatements (about? around.body) pool

/-- The statements about a record are on its table. -/
theorem table_of_mem_statementsOn
    {record : Type}
    [Record record]
    {column text : String}
    {revised : Option (Stored record)}
    {statement : Statement}
    (present : statement ∈ statementsOn column text revised) :
    statement.table = Record.table record := by
  rcases List.mem_cons.1 present with rfl | isUpdate
  · rfl
  · obtain ⟨stored, _, rfl⟩ := Option.map_eq_some_iff.1 (Option.mem_toList.1 isUpdate)
    exact table_update

/-- What a delivery issues about its user is on the users. -/
theorem table_of_mem_userStatements
    {told : Option (Uuid × SubscriptionStatus)}
    {statement : Statement}
    (present : statement ∈ userStatements told pool) :
    statement.table = "users" := by
  unfold userStatements at present
  split at present
  next => cases present
  next => exact table_of_mem_statementsOn present

/-- What a delivery issues about its gift is on the gifts. -/
theorem table_of_mem_giftStatements
    {about : Option SubscriptionNotice}
    {statement : Statement}
    (present : statement ∈ giftStatements about pool) :
    statement.table = "gifts" := by
  unfold giftStatements at present
  split at present
  next => cases present
  next => exact table_of_mem_statementsOn present

/-- What a delivery issues about its user and about its gift is apart. -/
theorem areApart_userStatements_giftStatements
    {told : Option (Uuid × SubscriptionStatus)}
    {about : Option SubscriptionNotice}
    {one other : Statement}
    (isOfUser : one ∈ userStatements told pool)
    (isOfGift : other ∈ giftStatements about start) :
    AreApart holds one other := by
  refine areApart_of_table_ne ?_
  rw [table_of_mem_userStatements isOfUser, table_of_mem_giftStatements isOfGift]
  decide

/-- Noting a status down issues the statement that writes the user. -/
theorem issues_applyStatus (user : Stored User) (status : SubscriptionStatus) :
    (applyStatus user status).Issues around holds start
      [(withStatus user status).update.statement] := by
  refine Chain.Issues.query (List.forall_mem_nil _) ?_
  split
  next => exact Chain.Issues.respond _
  next => exact Chain.Issues.logFailure _ _

/-- Looking for the user of an account and noting a status down issues the statements of both. -/
theorem issues_updateUser (accountCode : String) (status : SubscriptionStatus) :
    (updateUser accountCode status).Issues around holds start
      (userStatements ((Uuid.parse? accountCode).map fun userId => (userId, status)) start) := by
  unfold updateUser
  split
  next isStrange =>
    rw [isStrange]
    exact Chain.Issues.note (Chain.Issues.respond _)
  next userId isParsed =>
    rw [isParsed]
    refine Chain.Issues.query (fun later _ => spares_of_isSelect rfl later) ?_
    unfold revisedUser?
    split
    next user yields =>
      have found : start.found? User "id" userId.text = some user := found?_of_ask yields
      simp only [found, Option.bind_eq_bind, Option.bind_some]
      exact issues_applyStatus user status
    next yields =>
      have found : start.found? User "id" userId.text = none := found?_of_ask yields
      simp only [found, Option.bind_eq_bind, Option.bind_some, Option.bind_none]
      exact Chain.Issues.note (Chain.Issues.respond _)
    next failure fails =>
      have found : start.found? User "id" userId.text = none := found?_of_ask_error fails
      simp only [found, Option.bind_eq_bind, Option.bind_some, Option.bind_none]
      exact Chain.Issues.logFailure _ _

/-- Asking for the status of an account issues what is about its user. -/
theorem issues_syncStatus (accountCode : String) :
    (syncStatus accountCode).Issues around holds start
      (userStatements (accountStatus? around accountCode) start) := by
  refine Chain.Issues.task ?_
  unfold accountStatus? statusTask
  split
  next status told =>
    rw [told]
    exact issues_updateUser accountCode status
  next told =>
    rw [told]
    exact Chain.Issues.note (Chain.Issues.respond _)
  next failure told =>
    rw [told]
    exact Chain.Issues.logFailure _ _

theorem issues_saveGift (gift : Stored Gift) :
    (saveGift gift).Issues around holds start [gift.update.statement] := by
  refine Chain.Issues.query (List.forall_mem_nil _) ?_
  split
  next => exact Chain.Issues.respond _
  next => exact Chain.Issues.fail _

theorem issues_notify (mail : Email) : (notify mail).Issues around holds start [] := by
  refine Chain.Issues.task ?_
  split
  next => exact Chain.Issues.respond _
  next => exact Chain.Issues.logFailure _ _

/-- Applying a notice to a gift issues the statement that writes it, if it changes. -/
theorem issues_changeGift
    (catalog : Catalog)
    (notice : SubscriptionNotice)
    (gift : Stored Gift) :
    (changeGift catalog notice gift).Issues around holds start
      ((changedGift? notice gift).map fun revised => revised.update.statement).toList := by
  unfold changeGift changedGift?
  cases giftChange gift.data notice with
  | reschedule => exact issues_saveGift _
  | activate =>
      exact Chain.Issues.detach (List.forall_mem_nil _) (issues_notify _) (issues_saveGift _)
  | nothing => exact Chain.Issues.respond _

/-- After something else was detached, the gift of a notice is looked up and written if it changes.
-/
theorem issues_besides_updateGift
    {accountCode : String}
    {subscription : Option SubscriptionNotice}
    {told : Option (Uuid × SubscriptionStatus)}
    (first : (syncStatus accountCode).Issues around holds start (userStatements told start)) :
    (Chain.besides (syncStatus accountCode) (updateGift subscription)).Issues around holds start
      (userStatements told start ++
        giftStatements (subscription.filter SubscriptionNotice.isGift) start) := by
  have apart : ∀ one ∈ userStatements told start,
      ∀ other ∈ giftStatements (subscription.filter SubscriptionNotice.isGift) start,
        AreApart holds one other :=
    fun _ isOfUser _ isOfGift => areApart_userStatements_giftStatements isOfUser isOfGift
  unfold updateGift
  split
  next isOther =>
    rw [isOther] at apart ⊢
    exact Chain.Issues.detach apart first (Chain.Issues.respond _)
  next notice isAbout =>
    rw [isAbout] at apart ⊢
    refine Chain.Issues.observe (Chain.Issues.detach apart first ?_)
    refine Chain.Issues.query (fun later _ => spares_of_isSelect rfl later) ?_
    cases yields : start.ask (Stored.selectBy Gift "subscription_id" (Json.string notice.uuid)) with
    | error failure =>
        have missing : revisedGift? (some notice) start = none := by
          simp [revisedGift?, noticedGift?, found?_of_ask_error yields]
        rw [missing]
        exact Chain.Issues.fail _
    | ok found =>
        cases found with
        | none =>
            have missing : revisedGift? (some notice) start = none := by
              simp [revisedGift?, noticedGift?, found?_of_ask yields]
            rw [missing]
            exact Chain.Issues.note (Chain.Issues.respond _)
        | some gift =>
            have noticed : revisedGift? (some notice) start = changedGift? notice gift := by
              simp [revisedGift?, noticedGift?, found?_of_ask yields]
            rw [noticed]
            exact issues_changeGift around.world.catalog notice gift

/-- Taking in a notice issues what is about its user and about its gift. -/
theorem issues_billingNotice (around : Surroundings World) (start : Pool) :
    billingNotice.Issues around holds start (deliveryStatements around start) := by
  refine Chain.Issues.body ?_
  unfold deliveryStatements about? told?
  cases isRead : BillingNotice.read? around.body with
  | none => exact Chain.Issues.note (Chain.Issues.respond _)
  | some notice =>
      exact issues_besides_updateGift (issues_syncStatus notice.accountCode)

/-- The statements about a record are a selection, and what writes the record. -/
theorem commutes_of_mem_statementsOn
    {record : Type}
    [Record record]
    {column text : String}
    {revised : Option (Stored record)}
    {one other : Statement}
    (present : one ∈ statementsOn column text revised)
    (presentToo : other ∈ statementsOn column text revised) :
    Commutes holds one other := by
  rcases List.mem_cons.1 present with rfl | isUpdate
  · exact commutes_of_isSelect rfl other
  · rcases List.mem_cons.1 presentToo with rfl | isUpdateToo
    · exact (commutes_of_isSelect rfl one).symm
    · have same := Option.mem_unique (Option.mem_toList.1 isUpdate) (Option.mem_toList.1 isUpdateToo)
      exact same ▸ fun _ _ _ => rfl

/-- The statements of a delivery commute. -/
theorem commutes_of_mem_deliveryStatements
    {one other : Statement}
    (present : one ∈ deliveryStatements around start)
    (presentToo : other ∈ deliveryStatements around start) :
    Commutes holds one other := by
  rcases List.mem_append.1 present with isOfUser | isOfGift
  · rcases List.mem_append.1 presentToo with isOfUserToo | isOfGiftToo
    · cases isTold : told? around with
      | none =>
          rw [isTold] at isOfUser
          cases isOfUser
      | some told =>
          rw [isTold] at isOfUser isOfUserToo
          exact commutes_of_mem_statementsOn isOfUser isOfUserToo
    · exact (areApart_userStatements_giftStatements isOfUser isOfGiftToo).commutes
  · rcases List.mem_append.1 presentToo with isOfUserToo | isOfGiftToo
    · exact (areApart_userStatements_giftStatements isOfUserToo isOfGift).commutes.symm
    · cases isAbout : about? around.body with
      | none =>
          rw [isAbout] at isOfGift
          cases isOfGift
      | some notice =>
          rw [isAbout] at isOfGift isOfGiftToo
          exact commutes_of_mem_statementsOn isOfGift isOfGiftToo

end

/-! ## Deliveries that are independent -/

section

variable {holds : Pool → Prop} {start pool : Pool} {deliveries order : List (Surroundings World)}

/-- The statements of deliveries are apart from each other, and keep a condition that holds at the
start. -/
structure AreIndependent
    (holds : Pool → Prop)
    (start : Pool)
    (deliveries : List (Surroundings World)) :
    Prop where
  held : holds start
  keeps : ∀ around ∈ deliveries, ∀ statement ∈ deliveryStatements around start,
    statement.Keeps holds
  apart : deliveries.Pairwise fun first second =>
    ∀ one ∈ deliveryStatements first start, ∀ other ∈ deliveryStatements second start,
      Statement.AreApart holds one other

namespace AreIndependent

/-- Independent deliveries are so in any order. -/
theorem perm
    (independent : AreIndependent holds start deliveries)
    (perm : order.Perm deliveries) :
    AreIndependent holds start order where
  held := independent.held
  keeps := fun around present => independent.keeps around (perm.mem_iff.1 present)
  apart := by
    refine (perm.pairwise_iff fun apartSo one isFirst other isSecond => ?_).2 independent.apart
    exact (apartSo other isSecond one isFirst).symm

/-- All statements of the deliveries keep the condition. -/
theorem keeps_of_mem_flatMap
    (independent : AreIndependent holds start deliveries)
    {statement : Statement}
    (present : statement ∈ deliveries.flatMap fun around => deliveryStatements around start) :
    statement.Keeps holds := by
  obtain ⟨around, isThere, isOfDelivery⟩ := List.mem_flatMap.1 present
  exact independent.keeps around isThere statement isOfDelivery

/-- All statements of the deliveries commute. -/
theorem commutes
    (independent : AreIndependent holds start deliveries)
    {one other : Statement}
    (present : one ∈ deliveries.flatMap fun around => deliveryStatements around start)
    (presentToo : other ∈ deliveries.flatMap fun around => deliveryStatements around start) :
    Commutes holds one other := by
  obtain ⟨first, isFirst, isOfFirst⟩ := List.mem_flatMap.1 present
  obtain ⟨second, isSecond, isOfSecond⟩ := List.mem_flatMap.1 presentToo
  have allCommute : ∀ first ∈ deliveries, ∀ second ∈ deliveries,
      ∀ one ∈ deliveryStatements first start, ∀ other ∈ deliveryStatements second start,
        Commutes holds one other := by
    refine List.Pairwise.forall_of_forall_of_flip (fun _ _ _ isOfOne _ isOfOther => ?_)
      (independent.apart.imp fun apartSo one isOfOne other isOfOther => ?_)
      (independent.apart.imp fun apartSo one isOfOne other isOfOther => ?_)
    · exact commutes_of_mem_deliveryStatements isOfOne isOfOther
    · exact (apartSo one isOfOne other isOfOther).commutes
    · exact (apartSo other isOfOther one isOfOne).commutes.symm
  exact allCommute first isFirst second isSecond one isOfFirst other isOfSecond

/-- A delivery runs the statements that it would run at the start, and comes to the same terminal,
as long as these are as it is expected. -/
theorem receive_eq_of_expects
    (site : Site)
    {around : Surroundings World}
    {terminal : Terminal}
    (foresees : billingNotice.Foresees around holds start (deliveryStatements around start) terminal)
    (expects : Pool.Expects holds start pool (deliveryStatements around start)) :
    (site.receive around pool).1.terminal = terminal ∧
      (site.receive around pool).2 = pool.applyAll (deliveryStatements around start) := by
  rw [receive_eq]
  have expectsHere : Pool.Expects holds start ({ state := (pool, ()) } : Recording _).state.1 _ := expects
  exact foresees.capture expectsHere

/-- Deliveries that are made one after another run the statements that they would run at the start.
-/
theorem receiveAll_eq
    (independent : AreIndependent holds start deliveries)
    (site : Site)
    (expects : Pool.Expects holds start pool
      (deliveries.flatMap fun around => deliveryStatements around start)) :
    site.receiveAll deliveries pool =
      pool.applyAll (deliveries.flatMap fun around => deliveryStatements around start) := by
  induction deliveries generalizing pool with
  | nil => rfl
  | cons around rest inductionHypothesis =>
      obtain ⟨keepsFirst, keepsRest⟩ := List.forall_mem_cons.1 independent.keeps
      obtain ⟨apartFirst, apartRest⟩ := List.pairwise_cons.1 independent.apart
      have issues : billingNotice.Issues around holds start _ := issues_billingNotice around start
      obtain ⟨_, foresees⟩ := issues
      rw [List.flatMap_cons] at expects ⊢
      have left := (receive_eq_of_expects site foresees
        (expects.mono fun _ => List.mem_append_left _)).2
      have expectsThen := (expects.mono fun _ => List.mem_append_right _).applyAll keepsFirst
        fun one isFirst other isLater => by
          obtain ⟨later, present, isOfLater⟩ := List.mem_flatMap.1 isLater
          exact (apartFirst later present one isFirst other isOfLater).spares
      rw [applyAll_append, receiveAll, left]
      exact inductionHypothesis ⟨independent.held, keepsRest, apartRest⟩ expectsThen

/-- Independent deliveries may be made at the same time, with their steps in any order. When all
have come to their terminals, every one is answered as if it were made alone, and the rows are those
that are left when the deliveries are made one after another, in any order. -/
theorem chains_and_rows_of_isOver
    (independent : AreIndependent holds start deliveries)
    (site : Site)
    {schedule : List Nat}
    (isOver : ((site.deliveredAtOnce deliveries start).run schedule).isOver = true) :
    let last := (site.deliveredAtOnce deliveries start).run schedule
    (deliveries.map fun around => Chain.respond (site.receive around start).1.terminal) <+:
        last.strands.map Strand.chain ∧
      ∀ order, order.Perm deliveries →
        ∀ table, last.pool.rows table = (site.receiveAll order start).rows table := by
  intro last
  have expects : ∀ order : List (Surroundings World), order.Perm deliveries →
      Pool.Expects holds start start
        (order.flatMap fun around => deliveryStatements around start) := fun order perm =>
    ⟨independent.held, fun statement present => (independent.perm perm).keeps_of_mem_flatMap present,
      fun _ _ => rfl⟩
  have foresees : ∀ around ∈ deliveries, billingNotice.Foresees around holds start
      (deliveryStatements around start) (site.receive around start).1.terminal := by
    intro around present
    have issues : billingNotice.Issues around holds start _ := issues_billingNotice around start
    obtain ⟨terminal, foresees⟩ := issues
    have expectsOne : Pool.Expects holds start start (deliveryStatements around start) :=
      ⟨independent.held, independent.keeps around present, fun _ _ => rfl⟩
    rw [(receive_eq_of_expects site foresees expectsOne).1]
    exact foresees
  have sameStart : site.deliveredAtOnce deliveries start =
      Weave.start start deliveries billingNotice := by
    rw [deliveredAtOnce, dispatch_recurlyWebhook]
  simp only [last, sameStart] at isOver ⊢
  obtain ⟨⟨done, perm, left⟩, chains⟩ := Weave.exists_perm_of_foresees foresees independent.apart
    (fun statement present => independent.keeps_of_mem_flatMap present) independent.held isOver
  refine ⟨chains, fun order isOrder table => ?_⟩
  rw [left, (independent.perm isOrder).receiveAll_eq site (expects order isOrder)]
  have permToo := perm.trans (isOrder.symm.flatMap_right fun around => deliveryStatements around start)
  exact rows_applyAll_of_perm permToo
    (fun statement present => independent.keeps_of_mem_flatMap (perm.mem_iff.1 present))
    (fun one isOne other isOther =>
      independent.commutes (perm.mem_iff.1 isOne) (perm.mem_iff.1 isOther)) independent.held table

end AreIndependent

end

end Site

end Screencast
