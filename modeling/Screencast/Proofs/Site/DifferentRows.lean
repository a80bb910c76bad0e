import Screencast.Proofs.Site.Interleavings
import Screencast.Proofs.Store.Filed

/-!
# Deliveries that concern different rows

A delivery concerns the user whose status it is told and the gift that its notice is about. As long
as every user and every gift has an identifier of its own, deliveries that concern different rows
are independent, whatever they find there.
-/

namespace Screencast

namespace Site

open Pool Statement

/-- The row of the user whose status a delivery is told, if it is there. -/
def concernedUser? (around : Surroundings World) (pool : Pool) : Option Row := do
  let (userId, _) ← told? around
  (pool.rows "users").find? (meets [("id", Json.string userId.text)])

/-- The row of the gift that a delivery is about, if it is there. -/
def concernedGift? (around : Surroundings World) (pool : Pool) : Option Row := do
  let notice ← about? around.body
  (pool.rows "gifts").find? (meets [("subscription_id", Json.string notice.uuid)])

/-- Two deliveries concern no row together. -/
structure ConcernDifferentRows (pool : Pool) (first second : Surroundings World) : Prop where
  users : ∀ row, concernedUser? first pool = some row → concernedUser? second pool ≠ some row
  gifts : ∀ row, concernedGift? first pool = some row → concernedGift? second pool ≠ some row

/-- The users stay filed by their identifiers, and the gifts by their subscriptions. -/
structure StaysFiled (start pool : Pool) : Prop where
  users : pool.filing "users" "id" = start.filing "users" "id"
  gifts : pool.filing "gifts" "subscription_id" = start.filing "gifts" "subscription_id"

variable {around first second : Surroundings World} {start : Pool} {statement one other : Statement}

/-- What a delivery issues about its user concerns the row that has the identifier. -/
theorem exists_concerns_of_mem_userStatements
    (keyed : Pool.IsKeyed (start.rows "users"))
    (present : statement ∈ userStatements (told? around) start) :
    ∃ userId : Uuid,
      concernedUser? around start =
          (start.rows "users").find? (meets [("id", Json.string userId.text)]) ∧
        Concerns "users" "id" userId.text (start.rows "users") statement := by
  cases isTold : told? around with
  | none =>
      rw [isTold] at present
      cases present
  | some told =>
      obtain ⟨userId, status⟩ := told
      refine ⟨userId, by simp [concernedUser?, isTold], ?_⟩
      rw [isTold] at present
      rcases List.mem_cons.1 present with rfl | isUpdate
      · exact Concerns.looksUp none (some 1)
      · obtain ⟨revised, isRevised, rfl⟩ := Option.map_eq_some_iff.1 (Option.mem_toList.1 isUpdate)
        obtain ⟨_, _, user, row, columns, isToldToo, finds, rfl, written⟩ :=
          exists_finds_of_revisedUser? isRevised
        obtain ⟨rfl, rfl⟩ := Prod.mk.inj (Option.some.inj isToldToo)
        rw [statement_update written]
        refine Concerns.writes finds.first ((hasId_iff _ row).2 (finds.find?_id keyed))
          written.distinct written.withoutId ?_
        rw [find?_merge written.distinct, KeyMap.find?_eq_none_of_not_mem written.withoutId,
          Option.none_or, finds.column_eq]

/-- What a delivery issues about its gift concerns the row that has the subscription. -/
theorem exists_concerns_of_mem_giftStatements
    (keyed : Pool.IsKeyed (start.rows "gifts"))
    (present : statement ∈ giftStatements (about? around.body) start) :
    ∃ uuid : String,
      concernedGift? around start =
          (start.rows "gifts").find? (meets [("subscription_id", Json.string uuid)]) ∧
        Concerns "gifts" "subscription_id" uuid (start.rows "gifts") statement := by
  have readable := isReadable_of_about? around.body
  cases isAbout : about? around.body with
  | none =>
      rw [isAbout] at present
      cases present
  | some notice =>
      refine ⟨notice.uuid, by simp [concernedGift?, isAbout], ?_⟩
      rw [isAbout] at present readable
      rcases List.mem_cons.1 present with rfl | isUpdate
      · exact Concerns.looksUp none (some 1)
      · obtain ⟨revised, isRevised, rfl⟩ := Option.map_eq_some_iff.1 (Option.mem_toList.1 isUpdate)
        obtain ⟨_, row, gift, columns, isAboutToo, revision⟩ :=
          exists_isGiftRevision readable isRevised
        obtain rfl := Option.some.inj isAboutToo
        rw [statement_update revision.written, revision.id_eq]
        exact Concerns.writes revision.finds.first
          ((hasId_iff _ row).2 (revision.finds.find?_id keyed)) revision.written.distinct
          revision.written.withoutId revision.keeps

/-- Users and gifts stay filed while a delivery is made. -/
theorem keeps_staysFiled
    (users : Pool.IsKeyed (start.rows "users"))
    (gifts : Pool.IsKeyed (start.rows "gifts"))
    (present : statement ∈ deliveryStatements around start) :
    statement.Keeps (StaysFiled start) := by
  intro pool filed
  rcases List.mem_append.1 present with isOfUser | isOfGift
  · obtain ⟨_, _, concerns⟩ := exists_concerns_of_mem_userStatements users isOfUser
    have spares : statement.table ≠ "gifts" := concerns.table_eq ▸ by decide
    refine ⟨concerns.filing_apply users filed.users, Eq.trans ?_ filed.gifts⟩
    exact filing_congr (rows_apply_of_not_writesTo (writesTo_of_table_ne spares) pool) _
  · obtain ⟨_, _, concerns⟩ := exists_concerns_of_mem_giftStatements gifts isOfGift
    have spares : statement.table ≠ "users" := concerns.table_eq ▸ by decide
    refine ⟨Eq.trans ?_ filed.users, concerns.filing_apply gifts filed.gifts⟩
    exact filing_congr (rows_apply_of_not_writesTo (writesTo_of_table_ne spares) pool) _

/-- What deliveries that concern different rows issue is apart. -/
theorem ConcernDifferentRows.areApart
    (differ : ConcernDifferentRows start first second)
    (users : Pool.IsKeyed (start.rows "users"))
    (gifts : Pool.IsKeyed (start.rows "gifts"))
    (present : one ∈ deliveryStatements first start)
    (presentToo : other ∈ deliveryStatements second start) :
    AreApart (StaysFiled start) one other := by
  rcases List.mem_append.1 present with isOfUser | isOfGift <;>
    rcases List.mem_append.1 presentToo with isOfUserToo | isOfGiftToo
  case inl.inl =>
    obtain ⟨_, isUser, concerns⟩ := exists_concerns_of_mem_userStatements users isOfUser
    obtain ⟨_, isUserToo, concernsToo⟩ := exists_concerns_of_mem_userStatements users isOfUserToo
    refine concerns.areApart concernsToo users (fun _ filed => filed.users) ?_
    rw [← isUser, ← isUserToo]
    exact differ.users
  case inl.inr => exact areApart_userStatements_giftStatements isOfUser isOfGiftToo
  case inr.inl => exact (areApart_userStatements_giftStatements isOfUserToo isOfGift).symm
  case inr.inr =>
    obtain ⟨_, isGift, concerns⟩ := exists_concerns_of_mem_giftStatements gifts isOfGift
    obtain ⟨_, isGiftToo, concernsToo⟩ := exists_concerns_of_mem_giftStatements gifts isOfGiftToo
    refine concerns.areApart concernsToo gifts (fun _ filed => filed.gifts) ?_
    rw [← isGift, ← isGiftToo]
    exact differ.gifts

/-- Deliveries that concern different rows are independent. -/
theorem areIndependent_of_concernDifferentRows
    {deliveries : List (Surroundings World)}
    (users : Pool.IsKeyed (start.rows "users"))
    (gifts : Pool.IsKeyed (start.rows "gifts"))
    (differ : deliveries.Pairwise (ConcernDifferentRows start)) :
    AreIndependent (StaysFiled start) start deliveries where
  held := ⟨rfl, rfl⟩
  keeps := fun _ _ _ present => keeps_staysFiled users gifts present
  apart := by
    refine differ.imp fun differ one present other presentToo => ?_
    exact differ.areApart users gifts present presentToo

theorem areIndependent_singleton (around : Surroundings World) (start : Pool) :
    AreIndependent (fun _ => True) start [around] where
  held := trivial
  keeps := fun _ _ _ _ _ _ => trivial
  apart := List.pairwise_singleton _ _

/-- The chains of a delivery may take their steps in any order: when all have come to their
terminals, the response and the rows are those of the order in which what is detached runs first.
The same holds of deliveries at the same time that concern different users and different gifts: when
all have come to their terminals, each has the response that it has alone, and the rows are those
that are left when the deliveries are made one after another. All can always come to their
terminals. -/
theorem chains_and_rows_run_deliveredAtOnce (site : Site) (start : Pool) :
    (∀ (around : Surroundings World) (schedule : List Nat),
      let last := (site.deliveredAtOnce [around] start).run schedule
      last.isOver = true →
        (last.strands.map Strand.chain).head? =
            some (Chain.respond (site.receive around start).1.terminal) ∧
          ∀ table, last.pool.rows table = (site.receive around start).2.rows table) ∧
      (∀ (deliveries : List (Surroundings World)) (schedule : List Nat),
        let last := (site.deliveredAtOnce deliveries start).run schedule
        Pool.IsKeyed (start.rows "users") → Pool.IsKeyed (start.rows "gifts") →
          deliveries.Pairwise (ConcernDifferentRows start) → last.isOver = true →
            (deliveries.map fun around =>
                Chain.respond (site.receive around start).1.terminal) <+:
                last.strands.map Strand.chain ∧
              ∀ order, order.Perm deliveries →
                ∀ table, last.pool.rows table = (site.receiveAll order start).rows table) ∧
      ∀ (deliveries : List (Surroundings World)) (schedule : List Nat),
        ∃ more, ((site.deliveredAtOnce deliveries start).run (schedule ++ more)).isOver = true := by
  refine ⟨?alone, ?together, ?ends⟩
  case alone =>
    intro around schedule last isOver
    obtain ⟨⟨others, chains⟩, rows⟩ :=
      (areIndependent_singleton around start).chains_and_rows_of_isOver site isOver
    refine ⟨?_, fun table => rows [around] (List.Perm.refl _) table⟩
    rw [← chains]
    rfl
  case together =>
    intro deliveries schedule last users gifts differ isOver
    have independent := areIndependent_of_concernDifferentRows users gifts differ
    exact independent.chains_and_rows_of_isOver site isOver
  case ends =>
    intro deliveries schedule
    obtain ⟨more, isOver⟩ :=
      ((site.deliveredAtOnce deliveries start).run schedule).exists_run_isOver
    exact ⟨more, (Weave.run_append _ schedule more).symm ▸ isOver⟩

/-- Two deliveries about different users and different gifts, whose chains take turns, leave both
users with the status they are told and both gifts active, as they do one after another in either
order. -/
theorem rows_run_of_two_interleaved_deliveries :
    let user (id : Uuid) (email : String) : Row :=
      [("admin", Json.bool false), ("canceled", Json.bool false),
        ("created_at", Json.string "2024-01-01T00:00:00Z"), ("download_credits", Json.integer 2),
        ("email", Json.string email), ("id", Row.ofUuid id), ("subscriber", Json.bool false),
        ("team_token", Row.ofUuid id)]
    let gift (id : Uuid) (uuid : String) : Row :=
      [("activated", Json.bool false), ("giftee_email", Json.string "cleo@example.com"),
        ("giftee_name", Json.string "Cleo"), ("id", Row.ofUuid id),
        ("message", Json.string "Enjoy!"), ("plan_code", Json.string "gift-3-months"),
        ("send_at", Json.string "2024-06-01T09:00:00Z"), ("subscription_id", Json.string uuid)]
    let start : Pool :=
      { tables :=
          [("gifts", [gift (Uuid.drawn 3) "sub-1", gift (Uuid.drawn 4) "sub-2"]),
            ("users",
              [user (Uuid.drawn 1) "ana@example.com", user (Uuid.drawn 2) "bo@example.com"])] }
    let delivery (id : Uuid) (uuid : String) (downloadCredits : Int) : Surroundings World :=
      { session := none
        body :=
          Text.encode
            ("[[\"" ++ id.text ++ "\"],[\"" ++ uuid ++
              "\",[\"gift-3-months\"],\"active\",\"2024-06-01T09:00:00Z\"]]")
        answer := fun _ =>
          Except.ok
            (Answer.status (some { subscriber := true, downloadCredits, canceled := false }))
        world := { catalog := Catalog.empty, source := Except.ok Catalog.empty } }
    let first := delivery (Uuid.drawn 1) "sub-1" 7
    let second := delivery (Uuid.drawn 2) "sub-2" 9
    let site : Site := { now := default }
    let last := (site.deliveredAtOnce [first, second] start).run
      [0, 1, 0, 1, 0, 1, 2, 3, 0, 1, 2, 3, 0, 1, 2, 3, 0, 1, 4, 5, 4, 5]
    let alone := (site.deliveredAtOnce [first] start).run [0, 0, 0, 0, 1, 1, 0, 0, 1, 2, 2]
    Pool.IsKeyed (start.rows "users") ∧ Pool.IsKeyed (start.rows "gifts") ∧
      [first, second].Pairwise (ConcernDifferentRows start) ∧ last.isOver = true ∧
      alone.isOver = true ∧
      (∀ table, alone.pool.rows table = (site.receive first start).2.rows table) ∧
      (∀ table, last.pool.rows table = (site.receiveAll [first, second] start).rows table) ∧
      (∀ table, last.pool.rows table = (site.receiveAll [second, first] start).rows table) ∧
      (last.pool.rows "users").map
          (fun row => (row.required "download_credits" ColumnType.long).toOption) =
        [some 7, some 9] ∧
      (last.pool.rows "gifts").map
          (fun row => (row.required "activated" ColumnType.bool).toOption) =
        [some true, some true] := by
  intro user gift start delivery first second site last alone
  let idOf (row : Row) : Option Uuid := (row.required "id" ColumnType.uuid).toOption
  obtain ⟨firstUser, secondUser, firstGift, secondGift, isOver, isOverAlone, credits, active⟩ :
      (concernedUser? first start).bind idOf = some (Uuid.drawn 1) ∧
        (concernedUser? second start).bind idOf = some (Uuid.drawn 2) ∧
        (concernedGift? first start).bind idOf = some (Uuid.drawn 3) ∧
        (concernedGift? second start).bind idOf = some (Uuid.drawn 4) ∧
        last.isOver = true ∧ alone.isOver = true ∧
        (last.pool.rows "users").map
            (fun row => (row.required "download_credits" ColumnType.long).toOption) =
          [some 7, some 9] ∧
        (last.pool.rows "gifts").map
            (fun row => (row.required "activated" ColumnType.bool).toOption) =
          [some true, some true] := by
    decide +kernel
  have differ : ConcernDifferentRows start first second := by
    constructor
    case users =>
      intro row isFirst isSecond
      rw [isFirst] at firstUser
      rw [isSecond] at secondUser
      exact absurd (Option.some.inj (firstUser.symm.trans secondUser)) (by decide)
    case gifts =>
      intro row isFirst isSecond
      rw [isFirst] at firstGift
      rw [isSecond] at secondGift
      exact absurd (Option.some.inj (firstGift.symm.trans secondGift)) (by decide)
  have pairwise : [first, second].Pairwise (ConcernDifferentRows start) :=
    List.pairwise_pair.2 differ
  have users : Pool.IsKeyed (start.rows "users") :=
    Pool.isKeyed_pair (rfl : (user (Uuid.drawn 1) _).find? "id" = some (Row.ofUuid (Uuid.drawn 1)))
      (rfl : (user (Uuid.drawn 2) _).find? "id" = some (Row.ofUuid (Uuid.drawn 2))) (by decide)
  have gifts : Pool.IsKeyed (start.rows "gifts") :=
    Pool.isKeyed_pair (rfl : (gift (Uuid.drawn 3) _).find? "id" = some (Row.ofUuid (Uuid.drawn 3)))
      (rfl : (gift (Uuid.drawn 4) _).find? "id" = some (Row.ofUuid (Uuid.drawn 4))) (by decide)
  obtain ⟨singly, together, _⟩ := chains_and_rows_run_deliveredAtOnce site start
  obtain ⟨_, rows⟩ := together [first, second] _ users gifts pairwise isOver
  exact ⟨users, gifts, pairwise, isOver, isOverAlone, (singly first _ isOverAlone).2,
    rows [first, second] (List.Perm.refl _), rows [second, first] (List.Perm.swap _ _ _), credits,
    active⟩

end Site

end Screencast
