import Screencast.Proofs.Effect.Interleaved
import Screencast.Proofs.Site.GiftOnRecord

/-!
# How far a delivery has come

The chains of a delivery look the gift up, decide, send a mail and write the gift as it was found
with what has changed. A step that one of them takes depends on how far it has come, and on the gift
that is on record at this moment.
-/

namespace Screencast

namespace Site

open Pool

/-! ## What is noted down -/

/-- Whether a query looks a gift up. -/
def isLookup : Issue → Bool
  | Issue.query statement => statement.isSelect && statement.table = "gifts"
  | Issue.task _ => false

/-- Whether a query writes a gift. -/
def isWrite : Issue → Bool
  | Issue.query statement => statement.writesTo "gifts"
  | Issue.task _ => false

/-- Whether a task hands a mail to the mailer. -/
def isSending : Issue → Bool
  | Issue.query _ => false
  | Issue.task description => isMail description

/-- A query that looks a gift up writes none. -/
theorem isWrite_of_isLookup {issue : Issue} (looksUp : isLookup issue = true) :
    isWrite issue = false := by
  cases issue with
  | task description => cases looksUp
  | query statement =>
      cases statement with
      | select => rfl
      | insert | update => cases looksUp

theorem isSending_of_isLookup {issue : Issue} (looksUp : isLookup issue = true) :
    isSending issue = false := by
  cases issue with
  | task description => cases looksUp
  | query statement => rfl

/-! ## How far a chain has come -/

/-- What a chain of a delivery has still to do: look the gift up, announce that the gift it has
found becomes active and write it, write a gift that it has found and changed, send a mail, or
nothing that concerns gifts. -/
inductive Standing
  | looking
  | announcing (found : Stored Gift)
  | saving (found revised : Stored Gift)
  | mailing
  | idle

namespace Standing

/-- The gift that was found and is still to be written. -/
def found? : Standing → Option (Stored Gift)
  | announcing found => some found
  | saving found _ => some found
  | _ => none

/-- Whether the chain is the one that writes the gift of its delivery. -/
def isMain : Standing → Bool
  | looking => true
  | announcing _ => true
  | saving _ _ => true
  | _ => false

/-- The number of mails that are to be sent at the next step. -/
def mailsDue : Standing → Nat
  | mailing => 1
  | _ => 0

/-- The number of times that a gift is to be made active at the next step. -/
def activationsDue : Standing → Nat
  | saving found revised => if found.data.activated = revised.data.activated then 0 else 1
  | _ => 0

end Standing

/-- The gift that becomes active because of a notice. -/
def activatedGift (gift : Stored Gift) : Stored Gift :=
  { gift with data := { gift.data with activated := true } }

/-- The part of a chain that looks the gift of a notice up and applies the notice to it. -/
def lookUpGift (catalog : Catalog) (notice : SubscriptionNotice) : Chain World :=
  Chain.queryOrFail (Stored.selectBy Gift "subscription_id" (Json.string notice.uuid)) fun gift =>
    match gift with
    | none => Chain.log (unknownGift notice.uuid) (Chain.writeStatus "" Status.internalError)
    | some gift => changeGift catalog notice gift

/-- A chain of a delivery about a gift has come so far. -/
inductive Stands (uuid : String) (id : Uuid) (around : Surroundings World) :
    Standing → Chain World → Prop
  | arrived : Stands uuid id around Standing.looking billingNotice
  | observing {notice : SubscriptionNotice} {accountCode : String}
      (isAbout : about? around.body = some notice) (isNamed : notice.uuid = uuid) :
      Stands uuid id around Standing.looking
        (Chain.observe fun world =>
          Chain.detach (syncStatus accountCode) (lookUpGift world.catalog notice))
  | parting {notice : SubscriptionNotice} {accountCode : String} {catalog : Catalog}
      (isAbout : about? around.body = some notice) (isNamed : notice.uuid = uuid) :
      Stands uuid id around Standing.looking
        (Chain.detach (syncStatus accountCode) (lookUpGift catalog notice))
  | looking {notice : SubscriptionNotice} {catalog : Catalog}
      (isAbout : about? around.body = some notice) (isNamed : notice.uuid = uuid) :
      Stands uuid id around Standing.looking (lookUpGift catalog notice)
  | announcing {notice : SubscriptionNotice} {found : Stored Gift} {mail : Email}
      (isAbout : about? around.body = some notice) (version : IsVersion uuid id found)
      (isActivated : giftChange found.data notice = GiftChange.activate) :
      Stands uuid id around (Standing.announcing found)
        (Chain.detach (notify mail) (saveGift (activatedGift found)))
  | saving {notice : SubscriptionNotice} {found revised : Stored Gift}
      (isAbout : about? around.body = some notice) (version : IsVersion uuid id found)
      (isChanged : changedGift? notice found = some revised) :
      Stands uuid id around (Standing.saving found revised) (saveGift revised)
  | mailing (mail : Email) : Stands uuid id around Standing.mailing (notify mail)
  | idle {chain : Chain World} (spares : SparesGifts chain) :
      Stands uuid id around Standing.idle chain

/-! ## One step -/

/-- What a step of a chain of a delivery does if a gift is on record: it spares the gifts, finds the
gift on record, announces that the gift it has found becomes active, writes a gift that it has found
and changed, or sends a mail. -/
inductive Strides (uuid : String) (id : Uuid) (around : Surroundings World) (pool : Pool)
    (gift : Stored Gift) : Standing → Stride World → Standing → Prop
  | sparing {standing next : Standing} {stride : Stride World}
      (isCalm : standing = Standing.looking ∨ standing = Standing.idle)
      (goesOn : next = standing ∨ next = Standing.idle)
      (stands : Stands uuid id around next stride.chain)
      (aside : ∀ aside ∈ stride.aside, SparesGifts aside)
      (same : stride.pool.rows "gifts" = pool.rows "gifts")
      (quiet : ∀ issue ∈ stride.issued,
        isLookup issue = false ∧ isWrite issue = false ∧ isSending issue = false) :
      Strides uuid id around pool gift standing stride next
  | finding {next : Standing} {stride : Stride World} {issue : Issue}
      (stands : Stands uuid id around next stride.chain)
      (isDecided : next ≠ Standing.looking)
      (isGift : ∀ found ∈ next.found?, found = gift)
      (nothingDue : next.mailsDue = 0 ∧ next.activationsDue = 0)
      (aside : stride.aside = none)
      (same : stride.pool.rows "gifts" = pool.rows "gifts")
      (issued : stride.issued = some issue)
      (looksUp : isLookup issue = true) :
      Strides uuid id around pool gift Standing.looking stride next
  | announcing {found : Stored Gift} {stride : Stride World} {mail : Email}
      (wasInactive : found.data.activated = false)
      (stands : Stands uuid id around (Standing.saving found (activatedGift found)) stride.chain)
      (aside : stride.aside = some (notify mail))
      (same : stride.pool.rows "gifts" = pool.rows "gifts")
      (nothing : stride.issued = none) :
      Strides uuid id around pool gift (Standing.announcing found) stride
        (Standing.saving found (activatedGift found))
  | saving {notice : SubscriptionNotice} {found revised : Stored Gift} {stride : Stride World}
      (isAbout : about? around.body = some notice)
      (isChanged : changedGift? notice found = some revised)
      (version : IsVersion uuid id revised)
      (stands : Stands uuid id around Standing.idle stride.chain)
      (aside : stride.aside = none)
      (written : stride.pool = (pool.apply revised.update.statement).2)
      (issued : stride.issued = some (Issue.query revised.update.statement)) :
      Strides uuid id around pool gift (Standing.saving found revised) stride Standing.idle
  | mailing {stride : Stride World} {description : TaskDescription}
      (stands : Stands uuid id around Standing.idle stride.chain)
      (aside : stride.aside = none)
      (same : stride.pool.rows "gifts" = pool.rows "gifts")
      (issued : stride.issued = some (Issue.task description))
      (sends : isMail description = true) :
      Strides uuid id around pool gift Standing.mailing stride Standing.idle

variable {uuid : String} {id : Uuid} {around : Surroundings World} {pool : Pool} {drawn : Nat}
  {gift : Stored Gift} {standing : Standing} {chain : Chain World} {stride : Stride World}

/-- A chain that spares the gifts takes a step that spares them. -/
theorem strides_of_sparesGifts
    (spares : SparesGifts chain)
    (taken : around.stride? pool drawn chain = some stride) :
    Strides uuid id around pool gift Standing.idle stride Standing.idle := by
  obtain ⟨within, aside, query, task, nothing⟩ := spares.stride taken
  refine Strides.sparing (Or.inr rfl) (Or.inl rfl) (Stands.idle within) aside ?_ ?_
  · cases issued : stride.issued with
    | none => rw [nothing issued]
    | some issue =>
        cases issue with
        | query statement =>
            obtain ⟨isSpared, applied⟩ := query statement issued
            rw [applied, rows_apply_of_not_writesTo (Statement.writesTo_of_table_ne isSpared)]
        | task description => rw [(task description issued).2]
  · intro issue issued
    cases issue with
    | query statement =>
        have isSpared := (query statement issued).1
        refine ⟨?_, Statement.writesTo_of_table_ne isSpared, rfl⟩
        rw [isLookup, decide_eq_false isSpared, Bool.and_false]
    | task description => exact ⟨rfl, rfl, (task description issued).1⟩

/-- A chain of a delivery that begins reads the notice, and looks the gift up next if the notice is
about one. -/
theorem strides_billingNotice
    (isNamed : ∀ notice ∈ about? around.body, notice.uuid = uuid)
    (taken : around.stride? pool drawn billingNotice = some stride) :
    ∃ next, Strides uuid id around pool gift Standing.looking stride next := by
  cases taken
  cases isRead : BillingNotice.read? around.body with
  | none =>
      refine ⟨Standing.idle, Strides.sparing (Or.inl rfl) (Or.inr rfl) ?_ nofun rfl nofun⟩
      simp only [isRead]
      exact Stands.idle (Chain.IsWithin.note _ (Chain.IsWithin.respond _))
  | some payload =>
      cases isGift : payload.subscription.filter SubscriptionNotice.isGift with
      | none =>
          refine ⟨Standing.idle, Strides.sparing (Or.inl rfl) (Or.inr rfl) ?_ nofun rfl nofun⟩
          simp only [isRead, updateGift, isGift]
          exact Stands.idle (Chain.IsWithin.detach (sparesGifts_syncStatus payload.accountCode)
            (Chain.IsWithin.respond _))
      | some notice =>
          have isAbout : about? around.body = some notice := by
            simp [about?, isRead, isGift]
          refine ⟨Standing.looking, Strides.sparing (Or.inl rfl) (Or.inl rfl) ?_ nofun rfl nofun⟩
          simp only [isRead, updateGift, isGift]
          exact Stands.observing isAbout (isNamed notice isAbout)

/-- Whoever looks the gift up finds the one on record, and goes on with what the notice makes of
it. -/
theorem strides_lookUpGift
    {notice : SubscriptionNotice}
    {catalog : Catalog}
    (onRecord : IsOnRecord (pool.rows "gifts") notice.uuid gift)
    (isAbout : about? around.body = some notice)
    (taken : around.stride? pool drawn (lookUpGift catalog notice) = some stride) :
    ∃ next, Strides notice.uuid gift.id around pool gift Standing.looking stride next := by
  cases taken
  suffices isThere : ∃ next,
      Stands notice.uuid gift.id around next (changeGift catalog notice gift) ∧
      next ≠ Standing.looking ∧ (∀ found ∈ next.found?, found = gift) ∧ next.mailsDue = 0 ∧
        next.activationsDue = 0 by
    obtain ⟨next, stands, isDecided, isGift, nothingDue⟩ := isThere
    refine ⟨next, Strides.finding ?_ isDecided isGift nothingDue rfl
      (rows_apply_of_isSelect rfl pool "gifts") rfl rfl⟩
    simp only [onRecord.ask_eq]
    exact stands
  have version := onRecord.isVersion
  unfold changeGift
  split
  next sendAt isRescheduled =>
    have isChanged : changedGift? notice gift =
        some { gift with data := { gift.data with sendAt } } := by
      rw [changedGift?, isRescheduled]
    refine ⟨_, Stands.saving isAbout version isChanged, Standing.noConfusion, ?_, rfl, if_pos rfl⟩
    rintro found ⟨⟩
    rfl
  next isActivated =>
    refine ⟨_, Stands.announcing isAbout version isActivated, Standing.noConfusion, ?_, rfl, rfl⟩
    rintro found ⟨⟩
    rfl
  next =>
    refine ⟨_, Stands.idle (Chain.IsWithin.respond _), Standing.noConfusion, ?_, rfl, rfl⟩
    rintro found ⟨⟩

/-- A chain of a delivery takes a step of one of the kinds. -/
theorem strides_of_stands
    (isNamed : ∀ notice ∈ about? around.body, notice.uuid = uuid)
    (onRecord : IsOnRecord (pool.rows "gifts") uuid gift)
    (isGift : gift.id = id)
    (stands : Stands uuid id around standing chain)
    (taken : around.stride? pool drawn chain = some stride) :
    ∃ next, Strides uuid id around pool gift standing stride next := by
  subst isGift
  cases stands with
  | arrived => exact strides_billingNotice isNamed taken
  | observing isAbout isThis =>
      cases taken
      exact ⟨_, Strides.sparing (Or.inl rfl) (Or.inl rfl) (Stands.parting isAbout isThis) nofun rfl
        nofun⟩
  | parting isAbout isThis =>
      cases taken
      refine ⟨_, Strides.sparing (Or.inl rfl) (Or.inl rfl) (Stands.looking isAbout isThis) ?_ rfl
        nofun⟩
      rintro aside ⟨⟩
      exact sparesGifts_syncStatus _
  | looking isAbout isThis =>
      subst isThis
      exact strides_lookUpGift onRecord isAbout taken
  | @announcing notice found mail isAbout version isActivated =>
      cases taken
      obtain ⟨_, wasInactive⟩ := giftChange_eq_activate_iff.1 isActivated
      have isChanged : changedGift? notice found = some (activatedGift found) := by
        rw [changedGift?, isActivated]
        rfl
      exact ⟨_, Strides.announcing wasInactive (Stands.saving isAbout version isChanged) rfl rfl rfl⟩
  | @saving notice found revised isAbout version isChanged =>
      cases taken
      have readable := isReadable_of_about? around.body notice isAbout
      refine ⟨_, Strides.saving isAbout isChanged (version.changed readable isChanged)
        (Stands.idle ?_) rfl rfl rfl⟩
      dsimp only
      split
      next => exact Chain.IsWithin.respond _
      next => exact Chain.isWithin_fail _
  | mailing mail =>
      cases taken
      refine ⟨_, Strides.mailing (Stands.idle ?_) rfl rfl rfl rfl⟩
      dsimp only
      split
      next => exact Chain.IsWithin.respond _
      next => exact Chain.isWithin_logFailure _ _
  | idle spares => exact ⟨_, strides_of_sparesGifts spares taken⟩

end Site

end Screencast
