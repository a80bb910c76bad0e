import Screencast.Proofs.Site.UnderWay

/-!
# Deliveries at the same time

Deliveries of notices about a gift may run at the same time. Each of them looks the gift up,
decides, and writes the gift as it has found it with what it has changed. The gift stays active once
it is, and one mail is sent at most, exactly as long as no delivery writes what is out of date.
-/

namespace Screencast

namespace Site

open Pool

/-- Deliveries that are made at the same time. -/
def deliveredAtOnce (site : Site) (deliveries : List (Surroundings World)) (pool : Pool) :
    Weave World :=
  Weave.start pool deliveries (site.dispatch (RequestHead.ofRoute Route.recurlyWebhook))

section Runs

variable {deliveries : List (Surroundings World)} {uuid : String} {id : Uuid}
  {start gift : Stored Gift} {weave : Weave World} {pool : Pool} {members : List Member}
  {strand : Strand World} {standing : Standing}

/-- What holds of deliveries holds after a step: in any case, and as long as none was overrun. The
gift stays active then, and when one is overrun, the gift ceases to be active or becomes so for at
least the second time. -/
theorem UnderWay.step
    (areNamed : ∀ around ∈ deliveries, ∀ notice ∈ about? around.body, notice.uuid = uuid)
    (underWay : UnderWay deliveries uuid id weave members gift)
    (index : Nat) :
    ∃ membersThen revised, UnderWay deliveries uuid id (weave.step index) membersThen revised ∧
      ∀ start, IsOrderly deliveries start weave.journal members gift →
        (¬IsOverrun deliveries (weave.step index).journal →
          IsOrderly deliveries start (weave.step index).journal membersThen revised ∧
            (gift.data.activated = true → revised.data.activated = true)) ∧
          (¬IsOverrun deliveries weave.journal → IsOverrun deliveries (weave.step index).journal →
            (gift.data.activated = true ∧ revised.data.activated = false) ∨
              2 ≤ activations deliveries (weave.step index).journal) := by
  rcases weave.step_cases index with same | ⟨_, strand, _, stride, parts, isTaken, taken⟩
  · rw [same]
    exact ⟨members, gift, underWay, fun start orderly =>
      ⟨fun _ => ⟨orderly, fun isActive => isActive⟩, fun wasOrdered isOverrun =>
        absurd isOverrun wasOrdered⟩⟩
  · obtain ⟨before, others, rfl, rfl, isOthers⟩ :=
      List.map_eq_append_iff.1 (underWay.strands.trans parts)
    obtain ⟨⟨_, standing⟩, after, rfl, rfl, rfl⟩ := List.map_eq_cons_iff.1 isOthers
    have placed := underWay.placed _ (List.mem_append_right before List.mem_cons_self)
    have isNamed := areNamed _ (List.mem_of_getElem? placed.delivered)
    obtain ⟨next, strides⟩ :=
      strides_of_stands isNamed underWay.onRecord underWay.sameId placed.stands isTaken
    obtain ⟨asides, revised, continues, touches⟩ :=
      exists_continues placed.delivered underWay.onRecord underWay.sameId strides
    rw [taken]
    refine ⟨_, revised, underWay.advance continues, fun start orderly =>
      ⟨fun isOrdered => ?_, fun wasOrdered isOverrun => ?_⟩⟩
    · have informed := orderly.informed _ (List.mem_append_right before List.mem_cons_self)
      have informs := informs_of_touches placed.delivered informed touches isOrdered
      refine ⟨orderly.advance continues.isMain continues.areAsides.noneIsMain informs,
        fun isActive => ?_⟩
      exact Option.some.inj (informs.once.eq_some_true (congrArg some isActive))
    · have informed := orderly.informed _ (List.mem_append_right before List.mem_cons_self)
      exact activated_or_two_le_activations placed.delivered informed touches wasOrdered isOverrun

/-- What holds of deliveries in any case holds after a run. -/
theorem UnderWay.run
    (areNamed : ∀ around ∈ deliveries, ∀ notice ∈ about? around.body, notice.uuid = uuid)
    (underWay : UnderWay deliveries uuid id weave members gift)
    (schedule : List Nat) :
    ∃ membersThen revised, UnderWay deliveries uuid id (weave.run schedule) membersThen revised := by
  induction schedule generalizing weave members gift with
  | nil => exact ⟨members, gift, underWay⟩
  | cons index rest inductionHypothesis =>
      obtain ⟨_, _, underWayThen, _⟩ := underWay.step areNamed index
      exact inductionHypothesis underWayThen

/-- What holds of deliveries of which none was overrun holds after a run during which none is, and
the gift stays active once it is. -/
theorem IsOrderly.run
    (areNamed : ∀ around ∈ deliveries, ∀ notice ∈ about? around.body, notice.uuid = uuid)
    (underWay : UnderWay deliveries uuid id weave members gift)
    (orderly : IsOrderly deliveries start weave.journal members gift)
    {schedule : List Nat}
    (isOrdered : ¬IsOverrun deliveries (weave.run schedule).journal) :
    ∃ membersThen revised, UnderWay deliveries uuid id (weave.run schedule) membersThen revised ∧
      IsOrderly deliveries start (weave.run schedule).journal membersThen revised ∧
      (gift.data.activated = true → revised.data.activated = true) := by
  induction schedule generalizing weave members gift with
  | nil => exact ⟨members, gift, underWay, orderly, fun isActive => isActive⟩
  | cons index rest inductionHypothesis =>
      have isOrderedNow : ¬IsOverrun deliveries (weave.step index).journal :=
        fun isOverrun => isOrdered (isOverrun.mono ((weave.step index).journal_prefix_run rest))
      obtain ⟨_, _, underWayThen, goesOn⟩ := underWay.step areNamed index
      obtain ⟨orderlyThen, stays⟩ := (goesOn start orderly).1 isOrderedNow
      obtain ⟨last, final, underWayLast, orderlyLast, staysToo⟩ :=
        inductionHypothesis underWayThen orderlyThen isOrdered
      exact ⟨last, final, underWayLast, orderlyLast, fun isActive => staysToo (stays isActive)⟩

/-- What holds of deliveries holds when they begin. -/
theorem exists_underWay_deliveredAtOnce
    (site : Site)
    (deliveries : List (Surroundings World))
    (onRecord : IsOnRecord (pool.rows "gifts") uuid gift) :
    ∃ members, UnderWay deliveries uuid gift.id (deliveredAtOnce site deliveries pool) members gift ∧
      IsOrderly deliveries gift (deliveredAtOnce site deliveries pool).journal members gift := by
  refine ⟨deliveries.mapIdx fun party around =>
    ⟨{ party, around, chain := billingNotice }, Standing.looking⟩, ?_, ?_⟩
  · have nothingDue : ∀ amount : Standing → Nat, amount Standing.looking = 0 →
        Member.due amount (deliveries.mapIdx fun party around =>
          ⟨{ party, around, chain := billingNotice }, Standing.looking⟩) = 0 := by
      refine fun amount isNothing => Member.due_eq_zero fun member present => ?_
      obtain ⟨party, _, rfl⟩ := List.mem_mapIdx.1 present
      exact isNothing
    constructor
    case strands =>
      simp [deliveredAtOnce, Weave.start, dispatch_recurlyWebhook, List.mapIdx_eq_zipIdx_map]
    case placed =>
      intro member present
      obtain ⟨party, isThere, rfl⟩ := List.mem_mapIdx.1 present
      exact ⟨List.getElem?_eq_getElem isThere, Stands.arrived⟩
    case onRecord => exact onRecord
    case sameId => rfl
    case counted =>
      rw [nothingDue _ rfl, nothingDue _ rfl]
      rfl
  · constructor
    case apart =>
      refine List.pairwise_iff_getElem.2 fun first second _ _ isBefore _ _ => ?_
      simp only [List.getElem_mapIdx]
      exact Nat.ne_of_lt isBefore
    case informed =>
      intro member present
      obtain ⟨party, _, rfl⟩ := List.mem_mapIdx.1 present
      refine ⟨?_, fun _ lookup _ => List.not_mem_nil⟩
      rintro found ⟨⟩
    case once => exact Or.inl ⟨rfl, rfl⟩

/-- Of a chain that has come to its terminal, nothing is due. -/
theorem nothingDue_of_isOver
    (stands : Stands uuid id strand.around standing strand.chain)
    (isOver : strand.isOver = true) :
    standing.mailsDue = 0 ∧ standing.activationsDue = 0 := by
  obtain ⟨party, around, chain⟩ := strand
  cases stands with
  | arrived | observing | parting | looking | idle => exact ⟨rfl, rfl⟩
  | announcing | saving | mailing => cases isOver

/-- When all chains have come to their terminals, a mail was sent for each time that the gift was
written because it becomes active. -/
theorem UnderWay.sendings_eq
    (underWay : UnderWay deliveries uuid id weave members gift)
    (isOver : weave.isOver = true) :
    sendings weave.journal = activations deliveries weave.journal := by
  have nothingDue : ∀ member ∈ members,
      member.standing.mailsDue = 0 ∧ member.standing.activationsDue = 0 := by
    intro member present
    have isAmong : member.strand ∈ weave.strands :=
      underWay.strands ▸ List.mem_map.2 ⟨member, present, rfl⟩
    exact nothingDue_of_isOver (underWay.placed member present).stands
      (List.all_eq_true.1 isOver _ isAmong)
  have counted := underWay.counted
  rwa [Member.due_eq_zero fun member present => (nothingDue member present).1,
    Member.due_eq_zero fun member present => (nothingDue member present).2] at counted

theorem UnderWay.activated?_eq (underWay : UnderWay deliveries uuid id weave members gift) :
    activated? id (weave.pool.rows "gifts") = some gift.data.activated :=
  underWay.sameId ▸ underWay.onRecord.activated?_eq

/-- Unless a delivery was overrun, a gift that is active stays so. -/
theorem IsOrderly.activated?_run_append
    {earlier between : List Nat}
    (areNamed : ∀ around ∈ deliveries, ∀ notice ∈ about? around.body, notice.uuid = uuid)
    (underWay : UnderWay deliveries uuid id weave members gift)
    (orderly : IsOrderly deliveries start weave.journal members gift)
    (isOrdered : ¬IsOverrun deliveries (weave.run (earlier ++ between)).journal)
    (wasActive : activated? id ((weave.run earlier).pool.rows "gifts") = some true) :
    activated? id ((weave.run (earlier ++ between)).pool.rows "gifts") = some true := by
  rw [Weave.run_append] at isOrdered ⊢
  have isOrderedBefore : ¬IsOverrun deliveries (weave.run earlier).journal :=
    fun isOverrun => isOrdered (isOverrun.mono ((weave.run earlier).journal_prefix_run between))
  obtain ⟨_, _, underWayBefore, orderlyBefore, _⟩ :=
    orderly.run areNamed underWay isOrderedBefore
  obtain ⟨_, _, underWayThen, _, stays⟩ := orderlyBefore.run areNamed underWayBefore isOrdered
  rw [underWayBefore.activated?_eq] at wasActive
  rw [underWayThen.activated?_eq, stays (Option.some.inj wasActive)]

/-- If a delivery was overrun and all have come to their ends, the gift has ceased to be active, or
two mails were sent. -/
theorem IsOrderly.of_isOverrun
    {schedule : List Nat}
    (areNamed : ∀ around ∈ deliveries, ∀ notice ∈ about? around.body, notice.uuid = uuid)
    (underWay : UnderWay deliveries uuid id weave members gift)
    (orderly : IsOrderly deliveries start weave.journal members gift)
    (wasOrdered : ¬IsOverrun deliveries weave.journal)
    (isOverrun : IsOverrun deliveries (weave.run schedule).journal)
    (isOver : (weave.run schedule).isOver = true) :
    (∃ earlier between later, schedule = earlier ++ between ++ later ∧
        activated? id ((weave.run earlier).pool.rows "gifts") = some true ∧
        activated? id ((weave.run (earlier ++ between)).pool.rows "gifts") = some false) ∨
      2 ≤ sendings (weave.run schedule).journal := by
  -- Up to the first step that overruns a delivery everybody is informed, and what this step shows is
  -- still seen in the end, because what was counted is not forgotten.
  obtain ⟨earlier, index, later, rfl, isOrderedBefore, isOverrunThen⟩ :=
    Weave.exists_first wasOrdered isOverrun
  obtain ⟨_, _, underWayBefore, orderlyBefore, _⟩ :=
    orderly.run areNamed underWay isOrderedBefore
  obtain ⟨_, _, underWayThen, goesOn⟩ := underWayBefore.step areNamed index
  obtain ⟨_, _, underWayLast⟩ := underWay.run areNamed (earlier ++ [index] ++ later)
  rw [Weave.run_append] at isOverrunThen
  rcases (goesOn start orderlyBefore).2 isOrderedBefore isOverrunThen with
    ⟨wasActive, isInactive⟩ | twice
  · refine Or.inl ⟨earlier, [index], later, rfl, ?_, ?_⟩
    · rw [underWayBefore.activated?_eq, wasActive]
    · rw [Weave.run_append]
      exact underWayThen.activated?_eq.trans (congrArg some isInactive)
  · right
    rw [underWayLast.sendings_eq isOver, Weave.run_append, Weave.run_append]
    have isPrefix := (((weave.run earlier).step index).journal_prefix_run later).sublist
    exact twice.trans isPrefix.countP_le

end Runs

/-- Deliveries about one gift may be made at the same time, with their steps in any order. If no
delivery writes the gift after another one, whose notice says that it is active, has written it
since it was looked up, the gift stays active once it is, and when all have come to their ends, one
mail was sent if the gift became active, and none otherwise. If a delivery does so, the gift ceases
to be active, or two mails are sent. -/
theorem activated?_run_and_sendings_by_isOverrun
    (site : Site)
    {deliveries : List (Surroundings World)}
    {uuid : String}
    (areNamed : ∀ around ∈ deliveries, ∀ notice ∈ about? around.body, notice.uuid = uuid)
    {start : Pool}
    {gift : Stored Gift}
    (keyed : Pool.IsKeyed (start.rows "gifts"))
    (isFound : start.found? Gift "subscription_id" uuid = some gift)
    (schedule : List Nat) :
    let after (steps : List Nat) := (site.deliveredAtOnce deliveries start).run steps
    (¬IsOverrun deliveries (after schedule).journal →
        (∀ earlier between later, schedule = earlier ++ between ++ later →
          activated? gift.id ((after earlier).pool.rows "gifts") = some true →
            activated? gift.id ((after (earlier ++ between)).pool.rows "gifts") = some true) ∧
        ((after schedule).isOver = true →
          sendings (after schedule).journal =
              (if gift.data.activated = false ∧
                activated? gift.id ((after schedule).pool.rows "gifts") = some true then 1 else 0) ∧
            sendings (after schedule).journal ≤ 1)) ∧
      (IsOverrun deliveries (after schedule).journal → (after schedule).isOver = true →
        (∃ earlier between later, schedule = earlier ++ between ++ later ∧
            activated? gift.id ((after earlier).pool.rows "gifts") = some true ∧
            activated? gift.id ((after (earlier ++ between)).pool.rows "gifts") = some false) ∨
          2 ≤ sendings (after schedule).journal) := by
  intro after
  have onRecord : IsOnRecord (start.rows "gifts") uuid gift :=
    ⟨keyed, (found?_eq_some_iff start).1 isFound⟩
  obtain ⟨members, underWay, orderly⟩ := exists_underWay_deliveredAtOnce site deliveries onRecord
  refine ⟨fun isOrdered => ⟨?stays, fun isOver => ?counted⟩, fun isOverrun isOver => ?overrun⟩
  case stays =>
    rintro earlier between later rfl wasActive
    refine orderly.activated?_run_append areNamed underWay (fun isOverrun => ?_) wasActive
    refine isOrdered (isOverrun.mono ?_)
    simp only [after, Weave.run_append _ (earlier ++ between)]
    exact Weave.journal_prefix_run _ later
  case counted =>
    obtain ⟨_, _, underWayThen, orderlyThen, _⟩ := orderly.run areNamed underWay isOrdered
    have isMailed := orderlyThen.once.eq_ite
    rw [← underWayThen.activated?_eq, ← underWayThen.sendings_eq isOver] at isMailed
    simp only [Option.some.injEq] at isMailed
    refine ⟨isMailed, ?_⟩
    rw [isMailed]
    split <;> omega
  case overrun => exact orderly.of_isOverrun areNamed underWay not_isOverrun_nil isOverrun isOver

/-- A delivery that looks the gift up after another one, which began earlier, has made it active,
sends no second mail. -/
theorem activated?_run_and_sendings_of_looked_up_later :
    let row : Row :=
      [("activated", Json.bool false), ("giftee_email", Json.string "bo@example.com"),
        ("giftee_name", Json.string "Bo"), ("id", Row.ofUuid (Uuid.drawn 1)),
        ("message", Json.string "Enjoy!"), ("plan_code", Json.string "gift-3-months"),
        ("send_at", Json.string "2024-06-01T09:00:00Z"),
        ("subscription_id", Json.string "sub-1")]
    let gift : Stored Gift :=
      { id := Uuid.drawn 1
        data :=
          { gifterEmail := none, gifterName := none, gifteeEmail := "bo@example.com",
            gifteeName := "Bo", sendAt := Timestamp.ofUnix 1717232400 0, message := "Enjoy!",
            subscriptionId := some "sub-1", activated := false, planCode := "gift-3-months" } }
    let start : Pool := { tables := [("gifts", [row])] }
    let delivery (state date : String) : Surroundings World :=
      { session := none
        body :=
          Text.encode
            ("[[\"ana\"],[\"sub-1\",[\"gift-3-months\"],\"" ++ state ++ "\",\"" ++ date ++ "\"]]")
        answer := fun _ => Except.ok (Answer.status none)
        world := { catalog := Catalog.empty, source := Except.ok Catalog.empty } }
    let active := delivery "active" "2024-06-01T09:00:00Z"
    let site : Site := { now := default }
    let last := (site.deliveredAtOnce [active, active] start).run
      [0, 0, 0, 0, 1, 1, 1, 0, 0, 1, 2, 2, 3, 3, 4, 4]
    (∀ around ∈ [active, active], ∀ notice ∈ about? around.body, notice.uuid = "sub-1") ∧
      Pool.IsKeyed (start.rows "gifts") ∧
      start.found? Gift "subscription_id" "sub-1" = some gift ∧
      ¬IsOverrun [active, active] last.journal ∧ last.isOver = true ∧ sendings last.journal = 1 := by
  intro row gift start delivery active site last
  obtain ⟨isRead, isFound, isWrittenOnce, isOver, isActive⟩ :
      (about? active.body).map SubscriptionNotice.uuid = some "sub-1" ∧
        start.found? Gift "subscription_id" "sub-1" = some gift ∧
        (last.journal.countP fun noted => isWrite noted.2) = 1 ∧ last.isOver = true ∧
        activated? gift.id (last.pool.rows "gifts") = some true := by
    decide +kernel
  have isNamed : ∀ notice ∈ about? active.body, notice.uuid = "sub-1" := by
    intro notice isAbout
    rw [Option.mem_def.1 isAbout] at isRead
    exact Option.some.inj isRead
  have areNamed : ∀ around ∈ [active, active], ∀ notice ∈ about? around.body,
      notice.uuid = "sub-1" :=
    List.forall_mem_cons.2 ⟨isNamed, List.forall_mem_singleton.2 isNamed⟩
  have hasId : row.find? "id" = some (Row.ofUuid (Uuid.drawn 1)) := rfl
  have keyed : Pool.IsKeyed (start.rows "gifts") := Pool.isKeyed_singleton hasId
  have isOrdered : ¬IsOverrun [active, active] last.journal := by
    intro isOverrun
    have writtenTwice := isOverrun.two_le_countP
    omega
  obtain ⟨goesWell, _⟩ :=
    activated?_run_and_sendings_by_isOverrun site areNamed keyed isFound
      [0, 0, 0, 0, 1, 1, 1, 0, 0, 1, 2, 2, 3, 3, 4, 4]
  obtain ⟨_, counted⟩ := goesWell isOrdered
  exact ⟨areNamed, keyed, isFound, isOrdered, isOver,
    (counted isOver).1.trans (if_pos ⟨rfl, isActive⟩)⟩

/-- Two deliveries that both look the gift up before one of them writes it send two mails if both
say that it is active. If one of them says that it is active and the other one gives another date,
the gift becomes active and then ceases to be so. -/
theorem sendings_and_activated?_of_overrun_deliveries :
    let row : Row :=
      [("activated", Json.bool false), ("giftee_email", Json.string "bo@example.com"),
        ("giftee_name", Json.string "Bo"), ("id", Row.ofUuid (Uuid.drawn 1)),
        ("message", Json.string "Enjoy!"), ("plan_code", Json.string "gift-3-months"),
        ("send_at", Json.string "2024-06-01T09:00:00Z"),
        ("subscription_id", Json.string "sub-1")]
    let start : Pool := { tables := [("gifts", [row])] }
    let delivery (state date : String) : Surroundings World :=
      { session := none
        body :=
          Text.encode
            ("[[\"ana\"],[\"sub-1\",[\"gift-3-months\"],\"" ++ state ++ "\",\"" ++ date ++ "\"]]")
        answer := fun _ => Except.ok (Answer.status none)
        world := { catalog := Catalog.empty, source := Except.ok Catalog.empty } }
    let active := delivery "active" "2024-06-01T09:00:00Z"
    let future := delivery "future" "2024-07-01T09:00:00Z"
    let site : Site := { now := default }
    let mailed := (site.deliveredAtOnce [active, active] start).run
      [0, 0, 0, 0, 1, 1, 1, 1, 0, 0, 1, 1, 2, 2, 3, 3, 4, 4, 5, 5]
    let between := (site.deliveredAtOnce [active, future] start).run [0, 0, 0, 0, 1, 1, 1, 1, 0, 0]
    activated? (Uuid.drawn 1) (start.rows "gifts") = some false ∧
      (∀ around ∈ [active, future], (about? around.body).map SubscriptionNotice.uuid =
        some "sub-1") ∧
      mailed.isOver = true ∧ sendings mailed.journal = 2 ∧
      activated? (Uuid.drawn 1) (between.pool.rows "gifts") = some true ∧
      activated? (Uuid.drawn 1) ((between.run [1]).pool.rows "gifts") = some false := by
  intro row start delivery active future site mailed between
  decide +kernel

end Site

end Screencast
