import Screencast.Proofs.Effect.Within
import Screencast.Proofs.Site.Deliveries
import Screencast.Proofs.Site.Faithful

/-!
# The gift on record

The gift of a subscription is the one that is found by it. Whoever writes this gift, be it as they
have found it some time ago, replaces it as a whole: what they wrote is found next. A chain that
spares the gifts leaves it alone.
-/

namespace Screencast

namespace Gift

variable {gift : Gift} {row : Row} {sendAt : Json}

/-- A row that was read as a gift is read as another one once the columns of the other one were
written over it. -/
theorem decode_merge
    {stored : Stored Gift}
    (decoded : Stored.decode row = Except.ok stored)
    (readBack : ColumnType.timestamp sendAt = Except.ok gift.sendAt) :
    Stored.decode (Pool.merge row (columns gift sendAt)) =
      Except.ok ({ id := stored.id, data := gift } : Stored Gift) := by
  refine Stored.decode_merge decoded ?distinct ?withoutId (decode_columns readBack) fun _ has =>
    read_of_columns readBack has
  case distinct =>
    rw [keys_columns]
    decide
  case withoutId =>
    rw [keys_columns]
    decide

end Gift

namespace Site

open Pool

/-- A gift has an identifier, names a subscription and has a date that can be written. -/
structure IsVersion (uuid : String) (id : Uuid) (gift : Stored Gift) : Prop where
  id_eq : gift.id = id
  subscribed : gift.data.subscriptionId = some uuid
  readable : gift.data.sendAt.IsReadable

/-- A gift that is changed because of a notice is another version of the same. -/
theorem IsVersion.changed
    {uuid : String}
    {id : Uuid}
    {notice : SubscriptionNotice}
    {gift revised : Stored Gift}
    (version : IsVersion uuid id gift)
    (readable : ∀ date ∈ notice.activatedAt, date.IsReadable)
    (isChanged : changedGift? notice gift = some revised) :
    IsVersion uuid id revised := by
  obtain ⟨sameId, subscribed, wasReadable⟩ := version
  rcases changedGift?_cases isChanged with ⟨sendAt, isRescheduled, rfl⟩ | ⟨_, rfl⟩
  · obtain ⟨_, isDated, _⟩ := giftChange_eq_reschedule_iff.1 isRescheduled
    exact ⟨sameId, subscribed, readable sendAt isDated⟩
  · exact ⟨sameId, subscribed, wasReadable⟩

/-- The rows of the gifts have identifiers, and a gift is found among them by its subscription. -/
structure IsOnRecord (rows : List Row) (uuid : String) (gift : Stored Gift) : Prop where
  keyed : Pool.IsKeyed rows
  exists_finds : ∃ row, Finds rows "subscription_id" uuid row gift

namespace IsOnRecord

variable {pool : Pool} {rows : List Row} {uuid : String} {gift revised : Stored Gift}

/-- The gift of a subscription names the subscription, and its date can be written. -/
theorem isVersion (onRecord : IsOnRecord rows uuid gift) : IsVersion uuid gift.id gift := by
  obtain ⟨row, finds⟩ := onRecord.exists_finds
  obtain ⟨readable, _, subscribed⟩ := Gift.columns_of_read finds.read_eq
  have isFound : (row.erase "id").find? "subscription_id" = some (Json.string uuid) :=
    (KeyMap.find?_erase "id" "subscription_id" row).trans finds.column_eq
  rw [Row.optional_of_find? isFound] at subscribed
  exact ⟨rfl, (Except.ok.inj subscribed).symm, readable⟩

theorem ask_eq (onRecord : IsOnRecord (pool.rows "gifts") uuid gift) :
    pool.ask (Stored.selectBy Gift "subscription_id" (Json.string uuid)) =
      Except.ok (some gift) :=
  (ask_selectBy_eq_some_iff pool).2 onRecord.exists_finds

/-- The gift on record is as active as its row says. -/
theorem activated?_eq (onRecord : IsOnRecord rows uuid gift) :
    activated? gift.id rows = some gift.data.activated := by
  obtain ⟨row, finds⟩ := onRecord.exists_finds
  obtain ⟨_, wasActivated, _⟩ := Gift.columns_of_read finds.read_eq
  have isInRow : row.find? "activated" = some (Json.bool gift.data.activated) :=
    (KeyMap.find?_erase "id" "activated" row).symm.trans wasActivated
  have has : hasId gift.id row = true :=
    (hasId_iff gift.id row).2 (finds.find?_id onRecord.keyed)
  rw [activated?, onRecord.keyed.find?_hasId finds.mem has, Option.bind_some,
    Row.required_of_find? isInRow]
  rfl

/-- Another version of the gift on record that is written is on record then. -/
theorem write
    (onRecord : IsOnRecord (pool.rows "gifts") uuid gift)
    (version : IsVersion uuid gift.id revised) :
    IsOnRecord ((pool.apply revised.update.statement).2.rows "gifts") uuid revised := by
  obtain ⟨sameId, subscribed, readable⟩ := version
  obtain ⟨sendAt, isWritten, readBack⟩ := Row.exists_ofTimestamp readable
  have written := Gift.isWrittenAs_columns isWritten readBack
  obtain ⟨row, finds⟩ := onRecord.exists_finds
  have keeps : (merge row (Gift.columns revised.data sendAt)).find? "subscription_id" =
      some (Json.string uuid) := by
    rw [find?_merge written.distinct]
    simp [Gift.columns, KeyMap.find?, subscribed, Row.ofText?, Json.ofOption]
  have rowsThen : (pool.apply revised.update.statement).2.rows "gifts" =
      (pool.rows "gifts").map (revise gift.id (Gift.columns revised.data sendAt)) := by
    rw [← sameId]
    exact rows_noted_some written onRecord.keyed
  rw [rowsThen]
  refine ⟨onRecord.keyed.map_revise written.distinct written.withoutId, _,
    finds.find?_map_revise onRecord.keyed keeps, ?_⟩
  rw [Gift.decode_merge finds.decoded readBack, ← sameId]

end IsOnRecord

/-! ## Chains that spare the gifts -/

/-- A chain that has nothing to do with gifts and sends no mail, whatever it is told. -/
def SparesGifts (chain : Chain World) : Prop :=
  chain.IsWithin (fun statement => statement.table ≠ "gifts") fun task => isMail task = false

/-- Noting the status of an account down spares the gifts. -/
theorem sparesGifts_syncStatus (accountCode : String) : SparesGifts (syncStatus accountCode) := by
  have isOfUsers : Record.table User ≠ "gifts" := by decide
  refine Chain.IsWithin.task [] rfl fun told => ?_
  split
  next status =>
    unfold updateUser
    split
    next => exact Chain.IsWithin.note _ (Chain.IsWithin.respond _)
    next userId _ =>
      refine Chain.IsWithin.query [] isOfUsers fun found => ?_
      split
      next user =>
        have isUpdate : (withStatus user status).update.statement.table = "users" := table_update
        refine Chain.IsWithin.query [] (isUpdate ▸ isOfUsers) fun written => ?_
        split
        next => exact Chain.IsWithin.respond _
        next => exact Chain.isWithin_logFailure _ _
      next => exact Chain.IsWithin.note _ (Chain.IsWithin.respond _)
      next => exact Chain.isWithin_logFailure _ _
  next => exact Chain.IsWithin.note _ (Chain.IsWithin.respond _)
  next => exact Chain.isWithin_logFailure _ _

end Site

end Screencast
