import Mathlib.Algebra.GroupWithZero.Nat
import Screencast.Proofs.Site.Overrun

/-!
# Deliveries that are under way

What holds of the chains of deliveries that run at the same time is kept by every step that one of
them takes. Some of it holds in any case, some only as long as no delivery was overrun, and when one
is, the step shows it.
-/

namespace Screencast

namespace Site

open Pool

/-! ## The chains that are under way -/

/-- One of the chains that are under way, and how far it has come. -/
structure Member where
  strand : Strand World
  standing : Standing

namespace Member

/-- If two chains both write the gift of their deliveries, they are of different ones. -/
def IsApart (first second : Member) : Prop :=
  first.standing.isMain = true → second.standing.isMain = true →
    first.strand.party ≠ second.strand.party

theorem IsApart.symm {first second : Member} (apart : first.IsApart second) :
    second.IsApart first :=
  fun isMain isMainToo => (apart isMainToo isMain).symm

/-- A chain belongs to one of the deliveries and has come so far. -/
structure IsPlaced (deliveries : List (Surroundings World)) (uuid : String) (id : Uuid)
    (member : Member) : Prop where
  delivered : deliveries[member.strand.party]? = some member.strand.around
  stands : Stands uuid id member.strand.around member.standing member.strand.chain

/-- A chain that has found the gift knows it, and one that has not has not looked it up. -/
structure IsInformed (deliveries : List (Surroundings World)) (journal : List (Nat × Issue))
    (isActive : Bool) (member : Member) : Prop where
  knows : ∀ found ∈ member.standing.found?,
    Knows deliveries journal member.strand.party found.data.activated isActive
  fresh : member.standing = Standing.looking →
    ∀ lookup, isLookup lookup = true → (member.strand.party, lookup) ∉ journal

/-- How much is due next of chains. -/
def due (amount : Standing → Nat) (members : List Member) : Nat :=
  (members.map fun member => amount member.standing).sum

theorem due_append (amount : Standing → Nat) (members others : List Member) :
    due amount (members ++ others) = due amount members + due amount others := by
  rw [due, List.map_append, List.sum_append, due, due]

theorem due_cons (amount : Standing → Nat) (member : Member) (others : List Member) :
    due amount (member :: others) = amount member.standing + due amount others := by
  rw [due, List.map_cons, List.sum_cons, due]

/-- Nothing is due next of chains of which nothing is due. -/
theorem due_eq_zero
    {amount : Standing → Nat}
    {members : List Member}
    (nothingDue : ∀ member ∈ members, amount member.standing = 0) :
    due amount members = 0 := by
  induction members with
  | nil => rfl
  | cons member others inductionHypothesis =>
      obtain ⟨first, rest⟩ := List.forall_mem_cons.1 nothingDue
      rw [due_cons, first, inductionHypothesis rest]

end Member

namespace Standing

variable {standing : Standing}

theorem of_isMain_eq_false (isAside : standing.isMain = false) :
    standing.found? = none ∧ standing.activationsDue = 0 := by
  cases standing with
  | looking | announcing | saving => cases isAside
  | mailing | idle => exact ⟨rfl, rfl⟩

theorem isMain_of_mem_found? {found : Stored Gift} (isFound : found ∈ standing.found?) :
    standing.isMain = true := by
  cases standing with
  | looking | announcing | saving => rfl
  | mailing | idle => cases isFound

end Standing

section UnderWay

variable {deliveries : List (Surroundings World)} {uuid : String} {id : Uuid}
  {start gift revised : Stored Gift} {weave : Weave World} {journal : List (Nat × Issue)}
  {pool : Pool} {members before after asides : List Member} {strand : Strand World}
  {standing next : Standing} {stride : Stride World}

/-- What holds of deliveries at the same time in any case: each chain has come so far, the gift is
on record, and the mails that were sent or are due are as many as the times that the gift was
written or is due to be written because it becomes active. -/
structure UnderWay (deliveries : List (Surroundings World)) (uuid : String) (id : Uuid)
    (weave : Weave World) (members : List Member) (gift : Stored Gift) : Prop where
  strands : members.map Member.strand = weave.strands
  placed : ∀ member ∈ members, member.IsPlaced deliveries uuid id
  onRecord : IsOnRecord (weave.pool.rows "gifts") uuid gift
  sameId : gift.id = id
  counted : sendings weave.journal + Member.due Standing.mailsDue members =
    activations deliveries weave.journal + Member.due Standing.activationsDue members

/-- What holds of deliveries at the same time as long as none was overrun: each of them writes the
gift by one chain at most and is informed of it, and the gift becomes active once at most. -/
structure IsOrderly (deliveries : List (Surroundings World)) (start : Stored Gift)
    (journal : List (Nat × Issue)) (members : List Member) (gift : Stored Gift) : Prop where
  apart : members.Pairwise Member.IsApart
  informed : ∀ member ∈ members, member.IsInformed deliveries journal gift.data.activated
  once : IsMailedOnce (some start.data.activated) (some gift.data.activated)
    (activations deliveries journal)

/-! ## What is expected of a step -/

/-- The chain that a step detaches, if there is one: it has come so far, and does not write the
gift. -/
structure AreAsides (uuid : String) (id : Uuid) (strand : Strand World) (stride : Stride World)
    (asides : List Member) : Prop where
  strands : asides.map Member.strand = (stride.aside.map fun chain => { strand with chain }).toList
  stands : ∀ member ∈ asides, Stands uuid id strand.around member.standing member.strand.chain
  noneIsMain : ∀ member ∈ asides, member.standing.isMain = false

theorem areAsides_nil (noAside : stride.aside = none) : AreAsides uuid id strand stride [] := by
  refine ⟨?_, List.forall_mem_nil _, List.forall_mem_nil _⟩
  rw [noAside]
  rfl

/-- A step may detach a chain. -/
theorem areAsides_singleton
    {chain : Chain World}
    (isAside : stride.aside = some chain)
    (stands : Stands uuid id strand.around standing chain)
    (isNotMain : standing.isMain = false) :
    AreAsides uuid id strand stride [⟨{ strand with chain }, standing⟩] := by
  refine ⟨?_, List.forall_mem_singleton.2 stands, List.forall_mem_singleton.2 isNotMain⟩
  rw [isAside]
  rfl

/-- What is expected of a step of a chain in any case. -/
structure Continues (deliveries : List (Surroundings World)) (uuid : String) (id : Uuid)
    (strand : Strand World) (standing : Standing) (stride : Stride World) (next : Standing)
    (asides : List Member) (revised : Stored Gift) : Prop where
  stands : Stands uuid id strand.around next stride.chain
  isMain : next.isMain = true → standing.isMain = true
  areAsides : AreAsides uuid id strand stride asides
  onRecord : IsOnRecord (stride.pool.rows "gifts") uuid revised
  sameId : revised.id = id
  counted : sendings (stride.noted strand.party) + next.mailsDue +
      Member.due Standing.mailsDue asides + standing.activationsDue =
    activations deliveries (stride.noted strand.party) + next.activationsDue + standing.mailsDue

/-- What a step has to do with the gift: it leaves the gift alone, and perhaps finds it, or writes
it as it was found and changed. -/
inductive Touches (strand : Strand World) (gift : Stored Gift) :
    Standing → Stride World → Standing → Stored Gift → Prop
  | sparing {standing next : Standing} {stride : Stride World}
      (writesNone : ∀ issue ∈ stride.issued, isWrite issue = false)
      (finds : ∀ found ∈ next.found?, found ∈ standing.found? ∨
        standing = Standing.looking ∧ found = gift ∧
          ∃ lookup, stride.issued = some lookup ∧ isLookup lookup = true)
      (goesOn : next = Standing.looking → standing = Standing.looking)
      (looksUpNone : next = Standing.looking ∨ standing.isMain = false →
        ∀ issue ∈ stride.issued, isLookup issue = false) :
      Touches strand gift standing stride next gift
  | saving {notice : SubscriptionNotice} {found revised : Stored Gift} {stride : Stride World}
      {write : Issue} (isAbout : about? strand.around.body = some notice)
      (isChanged : changedGift? notice found = some revised)
      (issued : stride.issued = some write)
      (writes : isWrite write = true) :
      Touches strand gift (Standing.saving found revised) stride Standing.idle revised

/-- Whether a delivery says that the gift is active stands in its notice. -/
theorem saysActive_eq
    {notice : SubscriptionNotice}
    (delivered : deliveries[strand.party]? = some strand.around)
    (isAbout : about? strand.around.body = some notice) :
    saysActive deliveries strand.party = decide (notice.state = "active") := by
  rw [saysActive, delivered, Option.bind_some, isAbout]
  rfl

/-- A change that a notice makes of a gift makes it active once at most, exactly if the notice says
so. -/
theorem isMailedOnce_of_changedGift?
    {notice : SubscriptionNotice}
    (isChanged : changedGift? notice gift = some revised) :
    IsMailedOnce (some gift.data.activated) (some revised.data.activated)
        (decide (notice.state = "active")).toNat ∧
      (Standing.saving gift revised).activationsDue = (decide (notice.state = "active")).toNat := by
  rcases changedGift?_cases isChanged with ⟨sendAt, isRescheduled, rfl⟩ | ⟨isActivated, rfl⟩
  · obtain ⟨isFuture, _⟩ := giftChange_eq_reschedule_iff.1 isRescheduled
    rw [isFuture]
    exact ⟨Or.inl ⟨rfl, rfl⟩, if_pos rfl⟩
  · obtain ⟨isActive, wasInactive⟩ := giftChange_eq_activate_iff.1 isActivated
    rw [isActive]
    refine ⟨Or.inr ⟨rfl, congrArg some wasInactive, rfl⟩, if_neg ?_⟩
    exact Bool.eq_false_iff.1 wasInactive

/-- A step that spares the gifts goes on. -/
theorem exists_continues_sparing
    (onRecord : IsOnRecord (pool.rows "gifts") uuid gift)
    (sameId : gift.id = id)
    (isCalm : standing = Standing.looking ∨ standing = Standing.idle)
    (goesOn : next = standing ∨ next = Standing.idle)
    (stands : Stands uuid id strand.around next stride.chain)
    (spares : ∀ aside ∈ stride.aside, SparesGifts aside)
    (same : stride.pool.rows "gifts" = pool.rows "gifts")
    (quiet : ∀ issue ∈ stride.issued,
      isLookup issue = false ∧ isWrite issue = false ∧ isSending issue = false) :
    ∃ asides, Continues deliveries uuid id strand standing stride next asides gift ∧
      Touches strand gift standing stride next gift := by
  have writesNone : ∀ issue ∈ stride.issued, isWrite issue = false :=
    fun issue issued => (quiet issue issued).2.1
  have areAsides : ∃ asides, AreAsides uuid id strand stride asides ∧
      Member.due Standing.mailsDue asides = 0 := by
    cases isAside : stride.aside with
    | none => exact ⟨[], areAsides_nil isAside, rfl⟩
    | some aside =>
        exact ⟨_, areAsides_singleton isAside (Stands.idle (spares aside isAside)) rfl, rfl⟩
  obtain ⟨asides, areAsides, noneDue⟩ := areAsides
  refine ⟨asides, ⟨stands, ?isMain, areAsides, same ▸ onRecord, sameId, ?counted⟩,
    Touches.sparing writesNone ?finds ?goesOn fun _ issue issued => (quiet issue issued).1⟩
  case isMain =>
    rcases goesOn with rfl | rfl
    · exact fun isMain => isMain
    · exact nofun
  case counted =>
    rw [sendings_noted_eq_zero fun issue issued => (quiet issue issued).2.2,
      activations_noted_eq_zero writesNone, noneDue]
    rcases goesOn with rfl | rfl <;> rcases isCalm with rfl | rfl <;> rfl
  case finds =>
    intro found isFound
    rcases goesOn with rfl | rfl <;> rcases isCalm with rfl | rfl <;> cases isFound
  case goesOn =>
    rintro rfl
    rcases goesOn with rfl | same
    · rfl
    · cases same

/-- A step that writes the gift goes on. -/
theorem continues_saving
    {notice : SubscriptionNotice}
    {found : Stored Gift}
    (delivered : deliveries[strand.party]? = some strand.around)
    (onRecord : IsOnRecord (pool.rows "gifts") uuid gift)
    (sameId : gift.id = id)
    (isAbout : about? strand.around.body = some notice)
    (isChanged : changedGift? notice found = some revised)
    (version : IsVersion uuid id revised)
    (stands : Stands uuid id strand.around Standing.idle stride.chain)
    (noAside : stride.aside = none)
    (written : stride.pool = (pool.apply revised.update.statement).2)
    (issued : stride.issued = some (Issue.query revised.update.statement)) :
    Continues deliveries uuid id strand (Standing.saving found revised) stride Standing.idle []
      revised := by
  have writes : isWrite (Issue.query revised.update.statement) = true := writesTo_table_update
  refine ⟨stands, nofun, areAsides_nil noAside, ?_, version.id_eq, ?_⟩
  · rw [written]
    exact onRecord.write (sameId ▸ version)
  · have noMail : sendings [(strand.party, Issue.query revised.update.statement)] = 0 := rfl
    rw [stride.noted_of_issued issued, noMail, activations_singleton writes,
      saysActive_eq delivered isAbout, (isMailedOnce_of_changedGift? isChanged).2]
    exact Nat.zero_add _

/-- A step that finds the gift, or finds none, goes on. -/
theorem continues_finding
    {lookup : Issue}
    (onRecord : IsOnRecord (pool.rows "gifts") uuid gift)
    (sameId : gift.id = id)
    (stands : Stands uuid id strand.around next stride.chain)
    (isDecided : next ≠ Standing.looking)
    (isGift : ∀ found ∈ next.found?, found = gift)
    (nothingDue : next.mailsDue = 0 ∧ next.activationsDue = 0)
    (noAside : stride.aside = none)
    (same : stride.pool.rows "gifts" = pool.rows "gifts")
    (issued : stride.issued = some lookup)
    (looksUp : isLookup lookup = true) :
    Continues deliveries uuid id strand Standing.looking stride next [] gift ∧
      Touches strand gift Standing.looking stride next gift := by
  have writesNone : ∀ issue ∈ stride.issued, isWrite issue = false := by
    rw [issued]
    rintro _ ⟨⟩
    exact isWrite_of_isLookup looksUp
  have sendsNone : ∀ issue ∈ stride.issued, isSending issue = false := by
    rw [issued]
    rintro _ ⟨⟩
    exact isSending_of_isLookup looksUp
  refine ⟨⟨stands, fun _ => rfl, areAsides_nil noAside, same ▸ onRecord, sameId, ?_⟩,
    Touches.sparing writesNone ?finds (fun _ => rfl) ?looksUpNone⟩
  case finds =>
    exact fun found isFound => Or.inr ⟨rfl, isGift found isFound, lookup, issued, looksUp⟩
  case looksUpNone =>
    rintro (isLooking | isAside)
    · exact absurd isLooking isDecided
    · cases isAside
  · rw [sendings_noted_eq_zero sendsNone, activations_noted_eq_zero writesNone, nothingDue.1,
      nothingDue.2]
    rfl

/-- A step that detaches the mail of a gift that is about to become active goes on. -/
theorem continues_announcing
    {found : Stored Gift}
    {mail : Email}
    (onRecord : IsOnRecord (pool.rows "gifts") uuid gift)
    (sameId : gift.id = id)
    (wasInactive : found.data.activated = false)
    (stands :
      Stands uuid id strand.around (Standing.saving found (activatedGift found)) stride.chain)
    (isAside : stride.aside = some (notify mail))
    (same : stride.pool.rows "gifts" = pool.rows "gifts")
    (nothing : stride.issued = none) :
    Continues deliveries uuid id strand (Standing.announcing found) stride
        (Standing.saving found (activatedGift found))
        [⟨{ strand with chain := notify mail }, Standing.mailing⟩] gift ∧
      Touches strand gift (Standing.announcing found) stride
        (Standing.saving found (activatedGift found)) gift := by
  have issuedNone : ∀ issue, issue ∉ stride.issued := by
    rw [nothing]
    exact fun issue => nofun
  have isDue : (Standing.saving found (activatedGift found)).activationsDue = 1 :=
    if_neg (Bool.eq_false_iff.1 wasInactive)
  refine ⟨⟨stands, fun _ => rfl, areAsides_singleton isAside (Stands.mailing mail) rfl,
      same ▸ onRecord, sameId, ?_⟩,
    Touches.sparing (fun issue issued => absurd issued (issuedNone issue))
      (fun _ isFound => Or.inl isFound) nofun
      fun _ issue issued => absurd issued (issuedNone issue)⟩
  rw [stride.noted_of_nothing nothing, isDue]
  rfl

/-- A step that sends the mail goes on. -/
theorem continues_mailing
    {description : TaskDescription}
    (onRecord : IsOnRecord (pool.rows "gifts") uuid gift)
    (sameId : gift.id = id)
    (stands : Stands uuid id strand.around Standing.idle stride.chain)
    (noAside : stride.aside = none)
    (same : stride.pool.rows "gifts" = pool.rows "gifts")
    (issued : stride.issued = some (Issue.task description))
    (sends : isMail description = true) :
    Continues deliveries uuid id strand Standing.mailing stride Standing.idle [] gift ∧
      Touches strand gift Standing.mailing stride Standing.idle gift := by
  have isTask : ∀ issue ∈ stride.issued, issue = Issue.task description := by
    rw [issued]
    rintro _ ⟨⟩
    rfl
  have writesNone : ∀ issue ∈ stride.issued, isWrite issue = false := by
    intro issue issued
    rw [isTask issue issued]
    rfl
  have isSent : sendings [(strand.party, Issue.task description)] = 1 :=
    List.countP_eq_length.2 (List.forall_mem_singleton.2 sends)
  refine ⟨⟨stands, nofun, areAsides_nil noAside, same ▸ onRecord, sameId, ?_⟩,
    Touches.sparing writesNone ?_ nofun fun _ issue issued => ?_⟩
  · rw [activations_noted_eq_zero writesNone, stride.noted_of_issued issued, isSent]
    rfl
  · rintro found ⟨⟩
  · rw [isTask issue issued]
    rfl

/-- A chain that takes a step does what is expected. -/
theorem exists_continues
    (delivered : deliveries[strand.party]? = some strand.around)
    (onRecord : IsOnRecord (pool.rows "gifts") uuid gift)
    (sameId : gift.id = id)
    (strides : Strides uuid id strand.around pool gift standing stride next) :
    ∃ asides revised, Continues deliveries uuid id strand standing stride next asides revised ∧
      Touches strand gift standing stride next revised := by
  cases strides with
  | sparing isCalm goesOn stands spares same quiet =>
      obtain ⟨asides, continues⟩ :=
        exists_continues_sparing onRecord sameId isCalm goesOn stands spares same quiet
      exact ⟨asides, gift, continues⟩
  | finding stands isDecided isGift nothingDue noAside same issued looksUp =>
      exact ⟨[], gift, continues_finding onRecord sameId stands isDecided isGift nothingDue noAside
        same issued looksUp⟩
  | announcing wasInactive stands isAside same nothing =>
      exact ⟨_, gift, continues_announcing onRecord sameId wasInactive stands isAside same nothing⟩
  | saving isAbout isChanged version stands noAside written issued =>
      exact ⟨[], _, continues_saving delivered onRecord sameId isAbout isChanged version stands
        noAside written issued, Touches.saving isAbout isChanged issued writesTo_table_update⟩
  | mailing stands noAside same issued sends =>
      exact ⟨[], gift, continues_mailing onRecord sameId stands noAside same issued sends⟩

/-- What holds of deliveries in any case holds after a step. -/
theorem UnderWay.advance
    (underWay : UnderWay deliveries uuid id weave (before ++ ⟨strand, standing⟩ :: after) gift)
    (continues : Continues deliveries uuid id strand standing stride next asides revised) :
    UnderWay deliveries uuid id
      (weave.advance (before.map Member.strand) strand (after.map Member.strand) stride)
      (before ++ ⟨{ strand with chain := stride.chain }, next⟩ :: (after ++ asides)) revised := by
  obtain ⟨_, placed, _, _, counted⟩ := underWay
  obtain ⟨stands, _, areAsides, onRecord, sameId, countedNow⟩ := continues
  obtain ⟨placedBefore, placedFrom⟩ := List.forall_mem_append.1 placed
  obtain ⟨isPlaced, placedAfter⟩ := List.forall_mem_cons.1 placedFrom
  constructor
  case strands => simp [Weave.advance, areAsides.strands]
  case placed =>
    refine List.forall_mem_append.2 ⟨placedBefore, List.forall_mem_cons.2 ⟨?_,
      List.forall_mem_append.2 ⟨placedAfter, fun member present => ?_⟩⟩⟩
    · exact ⟨isPlaced.delivered, stands⟩
    · have isAside : member.strand ∈
          (stride.aside.map fun chain => ({ strand with chain } : Strand World)).toList :=
        areAsides.strands ▸ List.mem_map.2 ⟨member, present, rfl⟩
      obtain ⟨chain, _, same⟩ := Option.map_eq_some_iff.1 (Option.mem_toList.1 isAside)
      have asideStands := areAsides.stands member present
      rw [← same] at asideStands
      constructor
      · rw [← same]
        exact isPlaced.delivered
      · rw [← same]
        exact asideStands
  case onRecord => exact onRecord
  case sameId => exact sameId
  case counted =>
    have noneDue : Member.due Standing.activationsDue asides = 0 := Member.due_eq_zero
      fun member isAside => (Standing.of_isMain_eq_false (areAsides.noneIsMain member isAside)).2
    simp only [Member.due_append, Member.due_cons] at counted
    simp only [Weave.advance, sendings_append, activations_append, Member.due_append,
      Member.due_cons, noneDue]
    omega

/-! ## Steps of deliveries that are not out of date -/

/-- A chain that does not write the gift need not be informed. -/
theorem Member.isInformed_of_isMain_eq_false
    {member : Member}
    {isActive : Bool}
    (isAside : member.standing.isMain = false) :
    member.IsInformed deliveries journal isActive := by
  refine ⟨fun found isFound => ?_, fun isLooking => ?_⟩
  · cases isAside.symm.trans (Standing.isMain_of_mem_found? isFound)
  · rw [isLooking] at isAside
    cases isAside

/-- Who has not looked the gift up has not done so after a step of another party, or after one that
looks nothing up. -/
theorem fresh_append_noted
    {party other : Nat}
    (fresh : ∀ lookup, isLookup lookup = true → (party, lookup) ∉ journal)
    (looksUpNone : other = party → ∀ issue ∈ stride.issued, isLookup issue = false)
    (lookup : Issue)
    (looksUp : isLookup lookup = true) :
    (party, lookup) ∉ journal ++ stride.noted other := by
  intro present
  rcases List.mem_append.1 present with wasThere | isNew
  · exact fresh lookup looksUp wasThere
  · obtain ⟨issue, issued, same⟩ := Option.map_eq_some_iff.1 (Option.mem_toList.1 isNew)
    cases same
    cases (looksUpNone rfl lookup issued).symm.trans looksUp

/-- What a step does to the information about the gift: the chain itself and those of other parties
stay informed, and the gift becomes active once at most. -/
structure Informs (deliveries : List (Surroundings World)) (journal : List (Nat × Issue))
    (strand : Strand World) (standing : Standing) (gift : Stored Gift) (stride : Stride World)
    (next : Standing) (revised : Stored Gift) : Prop where
  informed : Member.IsInformed deliveries (journal ++ stride.noted strand.party)
    revised.data.activated ⟨{ strand with chain := stride.chain }, next⟩
  others : ∀ member : Member, (standing.isMain = true → strand.party ≠ member.strand.party) →
    member.IsInformed deliveries journal gift.data.activated →
      member.IsInformed deliveries (journal ++ stride.noted strand.party) revised.data.activated
  once : IsMailedOnce (some gift.data.activated) (some revised.data.activated)
    (activations deliveries (stride.noted strand.party))

/-- A step keeps everybody informed unless it writes what is out of date. -/
theorem informs_of_touches
    (delivered : deliveries[strand.party]? = some strand.around)
    (informed : Member.IsInformed deliveries journal gift.data.activated ⟨strand, standing⟩)
    (touches : Touches strand gift standing stride next revised)
    (isOrdered : ¬IsOverrun deliveries (journal ++ stride.noted strand.party)) :
    Informs deliveries journal strand standing gift stride next revised := by
  obtain ⟨knows, fresh⟩ := informed
  cases touches with
  | sparing writesNone finds goesOn looksUpNone =>
      refine ⟨⟨fun found isFound => ?_, fun isLooking => ?_⟩, fun member isOther informed => ?_, ?_⟩
      · rcases finds found isFound with wasFound | ⟨isLooking, rfl, lookup, issued, looksUp⟩
        · exact (knows found wasFound).append_noted writesNone
        · rw [stride.noted_of_issued issued]
          exact Knows.of_isLookup (fresh isLooking) looksUp
      · exact fresh_append_noted (fresh (goesOn isLooking)) fun _ => looksUpNone (Or.inl isLooking)
      · refine ⟨fun found isFound => (informed.knows found isFound).append_noted writesNone,
          fun isLooking => fresh_append_noted (informed.fresh isLooking) fun same => ?_⟩
        cases isMain : standing.isMain with
        | true => exact absurd same (isOther isMain)
        | false => exact looksUpNone (Or.inr isMain)
      · exact Or.inl ⟨activations_noted_eq_zero writesNone deliveries strand.party, rfl⟩
  | @saving notice found _ _ write isAbout isChanged issued writes =>
      -- Nobody else has made the gift active in the meantime, so the change that was decided upon the
      -- gift that was found is the change of the gift on record.
      have isNoted := stride.noted_of_issued issued strand.party
      rw [isNoted, isOverrun_append_singleton, not_or, not_and] at isOrdered
      obtain ⟨once, _⟩ := isMailedOnce_of_changedGift? isChanged
      rw [(knows found rfl).eq_of_not_isOutdated (isOrdered.2 writes),
        ← saysActive_eq delivered isAbout] at once
      refine ⟨Member.isInformed_of_isMain_eq_false rfl, fun member isOther informed => ?_, ?_⟩
      · refine ⟨fun found isFound => ?_, fun isLooking => fresh_append_noted
          (informed.fresh isLooking) fun same => absurd same (isOther rfl)⟩
        rw [isNoted]
        exact (informed.knows found isFound).written (isOther rfl) writes once
      · rwa [isNoted, activations_singleton writes]

/-- A step that writes what is out of date makes an active gift inactive, or is at least the second
one that writes the gift because it becomes active. -/
theorem activated_or_two_le_activations
    (delivered : deliveries[strand.party]? = some strand.around)
    (informed : Member.IsInformed deliveries journal gift.data.activated ⟨strand, standing⟩)
    (touches : Touches strand gift standing stride next revised)
    (wasOrdered : ¬IsOverrun deliveries journal)
    (isOverrun : IsOverrun deliveries (journal ++ stride.noted strand.party)) :
    (gift.data.activated = true ∧ revised.data.activated = false) ∨
      2 ≤ activations deliveries (journal ++ stride.noted strand.party) := by
  cases touches with
  | sparing writesNone => exact absurd ((isOverrun_append_noted writesNone).1 isOverrun) wasOrdered
  | @saving notice found _ _ write isAbout isChanged issued writes =>
      rw [stride.noted_of_issued issued] at isOverrun ⊢
      obtain ⟨_, isOutdated⟩ := (isOverrun_append_singleton.1 isOverrun).resolve_left wasOrdered
      -- The gift was found inactive and is active by now: rescheduling it undoes this, and making it
      -- active does so once more.
      obtain ⟨wasInactive, isActive⟩ := (informed.knows found rfl).isOutdated_iff.1 isOutdated
      have wasActivated := isOutdated.activations_pos
      rw [activations_append, activations_singleton writes, saysActive_eq delivered isAbout]
      rcases (isMailedOnce_of_changedGift? isChanged).1 with ⟨_, same⟩ | ⟨isTold, _, _⟩
      · exact Or.inl ⟨isActive, (Option.some.inj same).trans wasInactive⟩
      · rw [isTold]
        exact Or.inr (by omega)

/-- What holds of deliveries of which none was overrun holds after a step. -/
theorem IsOrderly.advance
    (orderly : IsOrderly deliveries start journal (before ++ ⟨strand, standing⟩ :: after) gift)
    (isMain : next.isMain = true → standing.isMain = true)
    (noneIsMain : ∀ member ∈ asides, member.standing.isMain = false)
    (informs : Informs deliveries journal strand standing gift stride next revised) :
    IsOrderly deliveries start (journal ++ stride.noted strand.party)
      (before ++ ⟨{ strand with chain := stride.chain }, next⟩ :: (after ++ asides)) revised := by
  obtain ⟨apart, informed, once⟩ := orderly
  obtain ⟨informedBefore, informedFrom⟩ := List.forall_mem_append.1 informed
  obtain ⟨_, informedAfter⟩ := List.forall_mem_cons.1 informedFrom
  obtain ⟨apartFrom, othersApart⟩ :=
    List.pairwise_cons.1 ((List.pairwise_middle Member.IsApart.symm).1 apart)
  have stayInformed : ∀ member ∈ before ++ after,
      member.IsInformed deliveries journal gift.data.activated →
        member.IsInformed deliveries (journal ++ stride.noted strand.party)
          revised.data.activated := by
    intro member present informed
    cases isMainToo : member.standing.isMain with
    | true =>
        exact informs.others member (fun isMain => apartFrom member present isMain isMainToo)
          informed
    | false => exact Member.isInformed_of_isMain_eq_false isMainToo
  constructor
  case apart =>
    have apartAsides : ∀ first : Member, ∀ member ∈ asides, first.IsApart member := by
      intro first member present _ isMain
      cases (noneIsMain member present).symm.trans isMain
    refine (List.pairwise_middle Member.IsApart.symm).2 (List.pairwise_cons.2 ⟨?_, ?_⟩)
    · rw [← List.append_assoc]
      refine List.forall_mem_append.2 ⟨fun member present isMainNow => ?_, apartAsides _⟩
      exact apartFrom member present (isMain isMainNow)
    · rw [← List.append_assoc]
      refine List.pairwise_append.2 ⟨othersApart, ?_, fun first _ => apartAsides first⟩
      exact List.pairwise_of_forall_mem_list fun first _ => apartAsides first
  case informed =>
    refine List.forall_mem_append.2 ⟨fun member present => ?_, List.forall_mem_cons.2
      ⟨informs.informed, List.forall_mem_append.2 ⟨fun member present => ?_,
        fun member present => ?_⟩⟩⟩
    · exact stayInformed member (List.mem_append_left _ present) (informedBefore member present)
    · exact stayInformed member (List.mem_append_right _ present) (informedAfter member present)
    · exact Member.isInformed_of_isMain_eq_false (noneIsMain member present)
  case once =>
    rw [activations_append]
    exact once.trans informs.once

end UnderWay

end Site

end Screencast
