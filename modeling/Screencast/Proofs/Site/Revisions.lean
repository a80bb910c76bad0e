import Screencast.Proofs.Site.BillingNotices

/-!
# Notices that come again

The same notice finds the user and the gift as it left them. It writes the same user again, and
leaves the gift alone.
-/

namespace Screencast

namespace Site

open Pool

variable {pool settled : Pool}

/-! ## Users -/

/-- A user who is revised was found in a row, and what is written instead can be written. -/
theorem exists_finds_of_revisedUser?
    {told : Option (Uuid × SubscriptionStatus)}
    {revised : Stored User}
    (isRevised : revisedUser? told pool = some revised) :
    ∃ userId status user row columns, told = some (userId, status) ∧
      Finds (pool.rows "users") "id" userId.text row user ∧ withStatus user status = revised ∧
      Record.IsWrittenAs revised.data columns := by
  simp only [revisedUser?, Option.bind_eq_bind, Option.bind_eq_some_iff] at isRevised
  obtain ⟨⟨userId, status⟩, isTold, user, isFound, same⟩ := isRevised
  obtain rfl := Option.some.inj same
  obtain ⟨row, finds⟩ := (found?_eq_some_iff pool).1 isFound
  have isReadable : user.data.createdAt.IsReadable := User.isReadable_of_read finds.read_eq
  have staysReadable : (withStatus user status).data.createdAt.IsReadable := isReadable
  obtain ⟨columns, written⟩ := User.exists_isWrittenAs staysReadable
  exact ⟨userId, status, user, row, columns, isTold, finds, rfl, written⟩

/-- Which user is revised depends on the users alone. -/
theorem revisedUser?_congr
    (same : settled.rows "users" = pool.rows "users")
    (told : Option (Uuid × SubscriptionStatus)) :
    revisedUser? told settled = revisedUser? told pool := by
  have found : ∀ text, settled.found? User "id" text = pool.found? User "id" text :=
    fun text => found?_congr same "id" text
  simp only [revisedUser?, found]

/-- A revision of the users keeps their identifiers. -/
theorem isKeyed_noted_revisedUser?
    (keyed : IsKeyed (pool.rows "users"))
    (told : Option (Uuid × SubscriptionStatus)) :
    IsKeyed ((pool.noted (revisedUser? told pool)).rows "users") := by
  refine IsKeyed.noted keyed fun revised isRevised => ?_
  obtain ⟨_, _, _, _, columns, _, _, _, written⟩ := exists_finds_of_revisedUser? isRevised
  exact ⟨columns, written⟩

/-- A user who was revised because of a status is written again as they are because of the same. -/
theorem rows_noted_revisedUser?
    {told : Option (Uuid × SubscriptionStatus)}
    (keyed : IsKeyed (pool.rows "users"))
    (same : settled.rows "users" = (pool.noted (revisedUser? told pool)).rows "users") :
    (settled.noted (revisedUser? told settled)).rows "users" = settled.rows "users" := by
  cases isRevised : revisedUser? told pool with
  | none =>
      rw [isRevised] at same
      have unchanged : settled.rows "users" = pool.rows "users" := same
      rw [revisedUser?_congr unchanged, isRevised]
      rfl
  | some revised =>
      have keyedToo : IsKeyed (settled.rows "users") :=
        same ▸ isKeyed_noted_revisedUser? keyed told
      obtain ⟨userId, status, user, row, columns, isTold, finds, marked, written⟩ :=
        exists_finds_of_revisedUser? isRevised
      have sameId : user.id = revised.id := marked ▸ rfl
      have keeps : (merge row columns).find? "id" = some (Json.string userId.text) := by
        rw [find?_merge written.distinct, KeyMap.find?_eq_none_of_not_mem written.withoutId,
          Option.none_or, finds.column_eq]
      have changed : settled.rows "users" = (pool.rows "users").map (revise user.id columns) := by
        rw [same, isRevised, sameId]
        exact rows_noted_some written keyed
      cases again : revisedUser? told settled with
      | none => rfl
      | some other =>
          obtain ⟨otherId, otherStatus, found, _, _, isToldToo, findsAgain, markedToo, _⟩ :=
            exists_finds_of_revisedUser? again
          obtain ⟨rfl, rfl⟩ := Prod.mk.inj (Option.some.inj (isTold.symm.trans isToldToo))
          rw [changed] at findsAgain
          have sameUser : found = { id := user.id, data := revised.data } :=
            finds.again keyed written keeps findsAgain
          have sameRevision : other = revised := by
            rw [← markedToo, sameUser, ← marked]
            rfl
          calc (settled.noted (some other)).rows "users"
            _ = (settled.rows "users").map (revise user.id columns) := by
              rw [sameRevision, sameId]
              exact rows_noted_some written keyedToo
            _ = settled.rows "users" := by
              rw [changed, map_revise_map_revise written.distinct written.withoutId]

/-! ## Gifts -/

/-- A gift that becomes active was not, and the notice says that it is. -/
theorem giftChange_eq_activate_iff {gift : Gift} {notice : SubscriptionNotice} :
    giftChange gift notice = GiftChange.activate ↔
      notice.state = "active" ∧ gift.activated = false := by
  unfold giftChange
  split
  next isFuture _ => split <;> simp [isFuture]
  next isActive => split <;> simp_all
  next notActive _ => simpa using fun isActive => absurd isActive notActive

/-- A gift that is rescheduled gets the date of the notice, which is another moment. -/
theorem giftChange_eq_reschedule_iff
    {gift : Gift}
    {notice : SubscriptionNotice}
    {sendAt : Timestamp} :
    giftChange gift notice = GiftChange.reschedule sendAt ↔
      notice.state = "future" ∧ notice.activatedAt = some sendAt ∧
        gift.sendAt.instant ≠ sendAt.instant := by
  unfold giftChange
  split
  next date isFuture isDated =>
    split
    next differs =>
      simp only [GiftChange.reschedule.injEq, isFuture, isDated, Option.some.injEq, true_and]
      exact ⟨fun same => ⟨same, same ▸ differs⟩, fun ⟨same, _⟩ => same⟩
    next agrees => simp_all
  next isActive => split <;> simp [isActive]
  next _ notFuture => simpa using fun isFuture isDated => absurd isDated (notFuture sendAt isFuture)

/-- A gift is changed in its date or in whether it is active. The latter is changed from not active
to active, and exactly then. -/
theorem changedGift?_cases
    {notice : SubscriptionNotice}
    {gift revised : Stored Gift}
    (isChanged : changedGift? notice gift = some revised) :
    (∃ sendAt, giftChange gift.data notice = GiftChange.reschedule sendAt ∧
        revised = { gift with data := { gift.data with sendAt } }) ∨
      (giftChange gift.data notice = GiftChange.activate ∧
        revised = { gift with data := { gift.data with activated := true } }) := by
  unfold changedGift? at isChanged
  split at isChanged
  next sendAt isRescheduled =>
    exact Or.inl ⟨sendAt, isRescheduled, (Option.some.inj isChanged).symm⟩
  next isActivated => exact Or.inr ⟨isActivated, (Option.some.inj isChanged).symm⟩
  next => cases isChanged

/-- A gift that was changed because of a notice is not changed again because of the same. -/
theorem changedGift?_changedGift?
    {notice : SubscriptionNotice}
    {gift revised : Stored Gift}
    (isChanged : changedGift? notice gift = some revised) :
    changedGift? notice revised = none := by
  have isSettled : giftChange revised.data notice = GiftChange.nothing := by
    rcases changedGift?_cases isChanged with ⟨sendAt, isRescheduled, rfl⟩ | ⟨isActivated, rfl⟩
    · obtain ⟨isFuture, isDated, _⟩ := giftChange_eq_reschedule_iff.1 isRescheduled
      simp [giftChange, isFuture, isDated]
    · obtain ⟨isActive, _⟩ := giftChange_eq_activate_iff.1 isActivated
      simp [giftChange, isActive]
  rw [changedGift?, isSettled]

/-- A gift was found in a row because of a notice, is changed, and is written as some columns. -/
structure IsGiftRevision (rows : List Row) (notice : SubscriptionNotice) (row : Row)
    (gift revised : Stored Gift) (columns : Row) : Prop where
  finds : Finds rows "subscription_id" notice.uuid row gift
  isChanged : changedGift? notice gift = some revised
  written : Record.IsWrittenAs revised.data columns
  wasActivated : row.find? "activated" = some (Json.bool gift.data.activated)
  isActivated : columns.find? "activated" = some (Json.bool revised.data.activated)
  keeps : (merge row columns).find? "subscription_id" = some (Json.string notice.uuid)

/-- A gift that is revised was found in a row, and what is written instead can be written if the
notice has a readable date. -/
theorem exists_isGiftRevision
    {about : Option SubscriptionNotice}
    {revised : Stored Gift}
    (readable : ∀ notice ∈ about, ∀ date ∈ notice.activatedAt, date.IsReadable)
    (isRevised : revisedGift? about pool = some revised) :
    ∃ notice row gift columns, about = some notice ∧
      IsGiftRevision (pool.rows "gifts") notice row gift revised columns := by
  simp only [revisedGift?, noticedGift?, Option.bind_eq_bind, Option.bind_eq_some_iff] at isRevised
  obtain ⟨_, ⟨notice, isAbout, gift, isFound, same⟩, isChanged⟩ := isRevised
  obtain rfl := Option.some.inj same
  obtain ⟨row, finds⟩ := (found?_eq_some_iff pool).1 isFound
  obtain ⟨wasReadable, wasActivated, subscribed⟩ := Gift.columns_of_read finds.read_eq
  have isReadable : revised.data.sendAt.IsReadable := by
    rcases changedGift?_cases isChanged with ⟨sendAt, isRescheduled, rfl⟩ | ⟨_, rfl⟩
    · obtain ⟨_, isDated, _⟩ := giftChange_eq_reschedule_iff.1 isRescheduled
      exact readable notice isAbout sendAt isDated
    · exact wasReadable
  have unerased : ∀ name, "id" ≠ name → (row.erase "id").find? name = row.find? name :=
    fun name isOther => (KeyMap.find?_erase "id" name row).trans (if_neg isOther)
  have isSubscribed : gift.data.subscriptionId = some notice.uuid := by
    have isFoundThere := (unerased "subscription_id" (by decide)).trans finds.column_eq
    rw [Row.optional_of_find? isFoundThere] at subscribed
    exact (Except.ok.inj subscribed).symm
  have staysSubscribed : revised.data.subscriptionId = some notice.uuid := by
    rcases changedGift?_cases isChanged with ⟨_, _, rfl⟩ | ⟨_, rfl⟩ <;> exact isSubscribed
  obtain ⟨columns, written, isActivated, isInColumn⟩ := Gift.exists_isWrittenAs isReadable
  refine ⟨notice, row, gift, columns, isAbout, finds, isChanged, written, ?_, isActivated, ?_⟩
  · rw [← unerased "activated" (by decide)]
    exact wasActivated
  · rw [find?_merge written.distinct, isInColumn, staysSubscribed]
    rfl

theorem revisedGift?_congr
    (same : settled.rows "gifts" = pool.rows "gifts")
    (about : Option SubscriptionNotice) :
    revisedGift? about settled = revisedGift? about pool := by
  rw [revisedGift?, revisedGift?, noticedGift?_congr same]

/-- A revision of the gifts keeps their identifiers. -/
theorem isKeyed_noted_revisedGift?
    {about : Option SubscriptionNotice}
    (readable : ∀ notice ∈ about, ∀ date ∈ notice.activatedAt, date.IsReadable)
    (keyed : IsKeyed (pool.rows "gifts")) :
    IsKeyed ((pool.noted (revisedGift? about pool)).rows "gifts") := by
  refine IsKeyed.noted keyed fun revised isRevised => ?_
  obtain ⟨_, _, _, columns, _, revision⟩ := exists_isGiftRevision readable isRevised
  exact ⟨columns, revision.written⟩

namespace IsGiftRevision

variable {notice : SubscriptionNotice} {row columns : Row} {gift revised : Stored Gift}

theorem id_eq (revision : IsGiftRevision (pool.rows "gifts") notice row gift revised columns) :
    revised.id = gift.id := by
  rcases changedGift?_cases revision.isChanged with ⟨_, _, rfl⟩ | ⟨_, rfl⟩ <;> rfl

theorem noticedGift?_eq
    (revision : IsGiftRevision (pool.rows "gifts") notice row gift revised columns) :
    noticedGift? (some notice) pool = some (notice, gift) := by
  have isFound : pool.found? Gift "subscription_id" notice.uuid = some gift :=
    (found?_eq_some_iff pool).2 ⟨row, revision.finds⟩
  simp [noticedGift?, isFound]

/-- What a revision of a gift makes of the gifts. -/
theorem rows_noted
    (revision : IsGiftRevision (pool.rows "gifts") notice row gift revised columns)
    (keyed : IsKeyed (pool.rows "gifts")) :
    (pool.noted (some revised)).rows "gifts" =
      (pool.rows "gifts").map (revise gift.id columns) := by
  rw [← revision.id_eq]
  exact rows_noted_some revision.written keyed

end IsGiftRevision

/-! ## Mails -/

/-- No mail is sent if no gift is revised. -/
theorem sentMails_eq_nil
    {about : Option SubscriptionNotice}
    (isSettled : revisedGift? about pool = none)
    (catalog : Catalog) :
    sentMails catalog about pool = [] := by
  unfold sentMails
  split
  next notice gift noticed =>
    rw [revisedGift?, noticed] at isSettled
    have isUnchanged : changedGift? notice gift = none := isSettled
    unfold changedGift? at isUnchanged
    unfold giftMails
    split at isUnchanged
    next => cases isUnchanged
    next => cases isUnchanged
    next isNothing => rw [isNothing]
  next => rfl

/-- A mail that is sent is about the gift of the notice, and goes to the one who gets the gift. -/
theorem exists_of_mem_sentMails
    {about : Option SubscriptionNotice}
    {catalog : Catalog}
    {task : TaskDescription}
    (isSent : task ∈ sentMails catalog about pool) :
    ∃ notice gift, noticedGift? about pool = some (notice, gift) ∧ task.name = "mailer.send" ∧
      task.detail = gift.data.gifteeEmail := by
  unfold sentMails at isSent
  split at isSent
  next notice gift noticed =>
    unfold giftMails at isSent
    split at isSent
    next =>
      obtain rfl := List.mem_singleton.1 isSent
      exact ⟨notice, gift, noticed, rfl, rfl⟩
    next => cases isSent
  next => cases isSent

/-! ## Activation -/

/-- Whether the gift with an identifier is active, if there is such a gift. -/
def activated? (id : Uuid) (rows : List Row) : Option Bool :=
  (rows.find? (hasId id)).bind fun row => (row.required "activated" ColumnType.bool).toOption

namespace IsGiftRevision

variable {rows : List Row} {notice : SubscriptionNotice} {row columns : Row}
  {gift revised : Stored Gift}

/-- A gift that is revised was as active as it was read. -/
theorem activated?_eq
    (revision : IsGiftRevision rows notice row gift revised columns)
    (keyed : IsKeyed rows) :
    activated? gift.id rows = some gift.data.activated := by
  have has : hasId gift.id row = true := (hasId_iff gift.id row).2 (revision.finds.find?_id keyed)
  rw [activated?, keyed.find?_hasId revision.finds.mem has, Option.bind_some,
    Row.required_of_find? revision.wasActivated]
  rfl

/-- A gift that is revised becomes as active as it is written. -/
theorem activated?_map_revise
    (revision : IsGiftRevision rows notice row gift revised columns)
    (keyed : IsKeyed rows) :
    activated? gift.id (rows.map (revise gift.id columns)) = some revised.data.activated := by
  have has : hasId gift.id row = true := (hasId_iff gift.id row).2 (revision.finds.find?_id keyed)
  have isRevised : revise gift.id columns row = merge row columns := if_pos has
  have isWritten :
      (merge row columns).find? "activated" = some (Json.bool revised.data.activated) := by
    rw [find?_merge revision.written.distinct, revision.isActivated, Option.some_or]
  rw [activated?, find?_hasId_map_revise revision.written.distinct revision.written.withoutId,
    keyed.find?_hasId revision.finds.mem has, Option.map_some, isRevised, Option.bind_some,
    Row.required_of_find? isWritten]
  rfl

/-- Another gift stays as active as it is. -/
theorem activated?_map_revise_of_ne
    {other : Uuid}
    (revision : IsGiftRevision rows notice row gift revised columns)
    (isOther : other ≠ gift.id) :
    activated? other (rows.map (revise gift.id columns)) = activated? other rows := by
  rw [activated?, activated?,
    find?_hasId_map_revise revision.written.distinct revision.written.withoutId]
  cases isFound : rows.find? (hasId other) with
  | none => rfl
  | some found =>
      have hasNot : hasId gift.id found = false :=
        hasId_eq_false (List.find?_some isFound) isOther
      rw [Option.map_some, revise_of_not_hasId hasNot]

end IsGiftRevision

/-- A gift that was revised because of a notice is not revised again because of the same. -/
theorem revisedGift?_eq_none
    {about : Option SubscriptionNotice}
    (readable : ∀ notice ∈ about, ∀ date ∈ notice.activatedAt, date.IsReadable)
    (keyed : IsKeyed (pool.rows "gifts"))
    (same : settled.rows "gifts" = (pool.noted (revisedGift? about pool)).rows "gifts") :
    revisedGift? about settled = none := by
  cases isRevised : revisedGift? about pool with
  | none =>
      rw [isRevised] at same
      have unchanged : settled.rows "gifts" = pool.rows "gifts" := same
      rw [revisedGift?_congr unchanged, isRevised]
  | some revised =>
      obtain ⟨notice, row, gift, columns, isAbout, revision⟩ :=
        exists_isGiftRevision readable isRevised
      rw [isRevised, revision.rows_noted keyed] at same
      cases again : revisedGift? about settled with
      | none => rfl
      | some other =>
          obtain ⟨_, _, found, _, isAboutToo, revisionToo⟩ := exists_isGiftRevision readable again
          obtain rfl := Option.some.inj (isAbout.symm.trans isAboutToo)
          have findsAgain := revisionToo.finds
          rw [same] at findsAgain
          have sameGift : found = revised := by
            rw [revision.finds.again keyed revision.written revision.keeps findsAgain,
              ← revision.id_eq]
          have isChangedToo := revisionToo.isChanged
          rw [sameGift, changedGift?_changedGift? revision.isChanged] at isChangedToo
          cases isChangedToo

end Site

end Screencast
