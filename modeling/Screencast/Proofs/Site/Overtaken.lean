import Mathlib.Data.List.Nodup
import Screencast.Proofs.Site.Registering

/-!
# Registrations at the same time

Visitors with the same GitHub account may come back at the same time. Each of them is looked up
among the users and, if there is no user yet, is added. No user is there twice exactly as long as
nobody is overtaken between the one and the other.
-/

namespace Screencast

namespace Site

namespace Registering

variable {uid : Int} {journal more : List (Nat × Issue)} {party other : Nat}

/-! ## Being overtaken -/

/-- Somebody was added to the users although another one had been added since the first one was
looked up. -/
def IsOvertaken (uid : Int) (journal : List (Nat × Issue)) : Prop :=
  ∃ party other lookup first second, other ≠ party ∧ isLookup lookup = true ∧
    isAddition uid first = true ∧ isAddition uid second = true ∧
    [(party, lookup), (other, first), (party, second)].Sublist journal

theorem IsOvertaken.append (isOvertaken : IsOvertaken uid journal) :
    IsOvertaken uid (journal ++ more) := by
  obtain ⟨party, other, lookup, first, second, isOther, looksUp, adds, addsToo, noted⟩ := isOvertaken
  exact ⟨party, other, lookup, first, second, isOther, looksUp, adds, addsToo,
    noted.trans (List.sublist_append_left journal more)⟩

/-- If somebody was overtaken, two users were added. -/
theorem IsOvertaken.two_le_additions (isOvertaken : IsOvertaken uid journal) :
    2 ≤ additions uid journal := by
  obtain ⟨party, other, lookup, first, second, _, _, adds, addsToo, noted⟩ := isOvertaken
  have isPair : [(other, first), (party, second)].Sublist journal :=
    List.sublist_of_cons_sublist noted
  refine Nat.le_trans ?_ isPair.countP_le
  simp [adds, addsToo]

/-! ## What a chain knows -/

/-- What holds of a chain that has come so far: it has added nobody unless it is done with users. If
it is about to add the user, there was none when it looked, and whoever was added was added since.
-/
structure IsInformed (uid : Int) (atFirst : Nat) (journal : List (Nat × Issue)) (party : Nat)
    (standing : Standing) : Prop where
  addedNone : standing ≠ Standing.settled →
    ∀ issue, isAddition uid issue = true → (party, issue) ∉ journal
  wasUnknown : standing = Standing.adding → atFirst = 0 ∧ ∃ lookup, isLookup lookup = true ∧
    (party, lookup) ∈ journal ∧ ∀ other issue, isAddition uid issue = true →
      (other, issue) ∈ journal → [(party, lookup), (other, issue)].Sublist journal

variable {atFirst : Nat} {standing next : Standing} {pool : Pool} {stride : Stride World}

namespace IsInformed

theorem settled (uid : Int) (atFirst : Nat) (journal : List (Nat × Issue)) (party : Nat) :
    IsInformed uid atFirst journal party Standing.settled :=
  ⟨fun unsettled => absurd rfl unsettled, nofun⟩

/-- What a chain knows it knows after a step of another one, and after a step of its own that adds
nobody. -/
theorem append_noted
    (informed : IsInformed uid atFirst journal party standing)
    (spares : party = other → ∀ issue ∈ stride.issued, isAddition uid issue = false) :
    IsInformed uid atFirst (journal ++ stride.noted other) party standing where
  addedNone := by
    intro unsettled issue adds noted
    rcases List.mem_append.1 noted with isEarlier | isNow
    · exact informed.addedNone unsettled issue adds isEarlier
    · obtain ⟨isOwn, issued⟩ := Stride.mem_noted_iff.1 isNow
      cases adds.symm.trans (spares isOwn issue issued)
  wasUnknown := by
    intro isAdding
    obtain ⟨noneAtFirst, lookup, looksUp, present, since⟩ := informed.wasUnknown isAdding
    refine ⟨noneAtFirst, lookup, looksUp, List.mem_append_left _ present,
      fun other issue adds noted => ?_⟩
    rcases List.mem_append.1 noted with isEarlier | isNow
    · exact (since other issue adds isEarlier).trans (List.sublist_append_left _ _)
    · exact (List.singleton_sublist.2 present).append (List.singleton_sublist.2 isNow)

/-- A chain knows what it has to after a step of its own. -/
theorem of_strides
    (informed : IsInformed uid atFirst journal party standing)
    (counted : userCount uid pool = atFirst + additions uid journal)
    (strides : Strides uid pool stride standing next) :
    IsInformed uid atFirst (journal ++ stride.noted party) party next := by
  cases strides with
  | calm addsNone => exact informed.append_noted fun _ => addsNone
  | finding | adding => exact settled uid atFirst _ party
  | @missing lookup isUnknown issued looksUp =>
      have noneAtFirst : atFirst = 0 := by omega
      have noneAdded : additions uid (journal ++ stride.noted party) = 0 := by
        rw [additions_append, additions_noted issued, isAddition_of_isLookup looksUp]
        change additions uid journal = 0
        omega
      have addedNobody : ∀ other issue, isAddition uid issue = true →
          (other, issue) ∉ journal ++ stride.noted party :=
        fun other issue adds noted => List.countP_eq_zero.1 noneAdded (other, issue) noted adds
      have isNoted : (party, lookup) ∈ stride.noted party := Stride.mem_noted_iff.2 ⟨rfl, issued⟩
      refine ⟨fun _ => addedNobody party, fun _ => ⟨noneAtFirst, lookup, looksUp,
        List.mem_append_right _ isNoted, fun other issue adds noted => ?_⟩⟩
      exact absurd noted (addedNobody other issue adds)

end IsInformed

/-- When there comes to be a second user with the account, somebody was overtaken. -/
theorem isOvertaken_of_strides
    (informed : IsInformed uid atFirst journal party standing)
    (counted : userCount uid pool = atFirst + additions uid journal)
    (shown : 1 < userCount uid pool → IsOvertaken uid journal)
    (strides : Strides uid pool stride standing next)
    (several : 1 < userCount uid pool + additions uid (stride.noted party)) :
    IsOvertaken uid (journal ++ stride.noted party) := by
  rcases Nat.eq_zero_or_pos (additions uid (stride.noted party)) with addsNone | isAdded
  · rw [addsNone] at several
    exact (shown several).append
  · obtain ⟨⟨_, second⟩, isNow, addsToo⟩ := List.countP_pos_iff.1 isAdded
    obtain ⟨_, issued⟩ := Stride.mem_noted_iff.1 isNow
    cases strides with
    | calm addsNone | finding addsNone => cases addsToo.symm.trans (addsNone second issued)
    | missing _ issuedLookup looksUp =>
        obtain rfl := Option.some.inj (issued.symm.trans issuedLookup)
        cases addsToo.symm.trans (isAddition_of_isLookup looksUp)
    | adding =>
        -- There was nobody when the visitor was looked up, so whoever is there was added since.
        obtain ⟨noneAtFirst, lookup, looksUp, _, since⟩ := informed.wasUnknown rfl
        have isSingle := additions_noted issued uid party
        rw [addsToo] at isSingle
        change _ = 1 at isSingle
        have isAddedBefore : 0 < additions uid journal := by omega
        obtain ⟨⟨other, first⟩, noted, adds⟩ := List.countP_pos_iff.1 isAddedBefore
        have isOther : other ≠ party := by
          rintro rfl
          exact informed.addedNone nofun first adds noted
        exact ⟨party, other, lookup, first, second, isOther, looksUp, adds, addsToo,
          (since other first adds noted).append
            (List.singleton_sublist.2 (Stride.mem_noted_iff.2 ⟨rfl, issued⟩))⟩

/-! ## Registrations that are under way -/

/-- What holds of registrations at the same time: the users with the account are those at first and
those that were added, each chain belongs to another visitor and has come so far, and if there are
several users, somebody was overtaken. -/
structure UnderWay (uid : Int) (atFirst : Nat) (weave : Weave World) : Prop where
  counted : userCount uid weave.pool = atFirst + additions uid weave.journal
  apart : (weave.strands.map Strand.party).Nodup
  placed : ∀ strand ∈ weave.strands, ∃ standing,
    Stands uid strand.around standing strand.chain ∧
      IsInformed uid atFirst weave.journal strand.party standing
  shown : 1 < userCount uid weave.pool → IsOvertaken uid weave.journal

/-- What holds of registrations holds after a step. -/
theorem UnderWay.step
    {weave : Weave World}
    (underWay : UnderWay uid atFirst weave)
    (index : Nat) :
    UnderWay uid atFirst (weave.step index) := by
  rcases weave.step_cases index with same | ⟨before, strand, after, stride, parts, isTaken, taken⟩
  · rw [same]
    exact underWay
  have isThere : strand ∈ weave.strands := parts ▸ List.mem_append_right before List.mem_cons_self
  obtain ⟨standing, stands, informed⟩ := underWay.placed strand isThere
  obtain ⟨next, strides, standsThen, alone, countedThen⟩ := exists_strides stands isTaken
  have counted : userCount uid stride.pool =
      userCount uid weave.pool + additions uid (stride.noted strand.party) :=
    countedThen strand.party
  have strandsThen : (weave.step index).strands =
      before ++ { strand with chain := stride.chain } :: after := by
    rw [taken, Weave.advance, alone]
    exact congrArg (before ++ { strand with chain := stride.chain } :: ·) (List.append_nil after)
  have parties : ((weave.step index).strands.map Strand.party) =
      weave.strands.map Strand.party := by
    simp [strandsThen, parts]
  have apart : ∀ other ∈ before ++ after, other.party ≠ strand.party := by
    have distinct := underWay.apart
    rw [parts, List.map_append, List.map_cons, List.nodup_middle, ← List.map_append,
      List.nodup_cons] at distinct
    exact fun other isOther same => distinct.1 (same ▸ List.mem_map_of_mem isOther)
  refine ⟨?counted, parties ▸ underWay.apart, ?placed, ?shown⟩
  case counted =>
    rw [taken]
    change userCount uid stride.pool =
      atFirst + additions uid (weave.journal ++ stride.noted strand.party)
    rw [counted, additions_append, underWay.counted, Nat.add_assoc]
  case placed =>
    -- The other chains belong to other visitors, so nothing that this one does is asked of them.
    have others : ∀ other ∈ before ++ after, ∃ standing,
        Stands uid other.around standing other.chain ∧
          IsInformed uid atFirst (weave.journal ++ stride.noted strand.party) other.party
            standing := by
      intro other isOther
      have wasThere : other ∈ weave.strands :=
        parts ▸ ((List.sublist_cons_self strand after).append_left before).subset isOther
      obtain ⟨standing, stands, informed⟩ := underWay.placed other wasThere
      exact ⟨standing, stands, informed.append_noted fun same => absurd same (apart other isOther)⟩
    obtain ⟨first, last⟩ := List.forall_mem_append.1 others
    rw [strandsThen, taken]
    exact List.forall_mem_append.2 ⟨first, List.forall_mem_cons.2
      ⟨⟨next, standsThen, informed.of_strides underWay.counted strides⟩, last⟩⟩
  case shown =>
    rw [taken]
    intro several
    exact isOvertaken_of_strides informed underWay.counted underWay.shown strides
      (counted ▸ several)

/-- What holds of registrations holds after any steps. -/
theorem UnderWay.run
    {weave : Weave World}
    (underWay : UnderWay uid atFirst weave)
    (schedule : List Nat) :
    UnderWay uid atFirst (weave.run schedule) := by
  induction schedule generalizing weave with
  | nil => exact underWay
  | cons index rest inductionHypothesis => exact inductionHypothesis (underWay.step index)

/-- A visitor who comes back from GitHub while others do: the site that is asked, what the address
says, and who answers. -/
structure Return where
  site : Site
  code : Option String
  origin : Option String
  around : Surroundings World

/-- The chain of a visitor who comes back. -/
def Return.chain (visitor : Return) : Chain World :=
  visitor.site.dispatch (RequestHead.ofRoute (Route.githubCallback visitor.code visitor.origin))

/-- Whoever has a profile for the visitor says that it has a number. -/
def Return.IsNumbered (visitor : Return) (uid : Int) : Prop :=
  ∀ profile, Collaborator.profile.resolve
    (visitor.around.answer Collaborator.profile.description) = Except.ok profile → profile.id = uid

/-- Visitors come back at the same time. -/
def returnedAtOnce (visitors : List Return) (pool : Pool) : Weave World where
  pool := pool
  strands := visitors.mapIdx fun party visitor =>
    { party, around := visitor.around, chain := visitor.chain }

/-- Visitors with one account who come back at the same time begin to be registered. -/
theorem underWay_returnedAtOnce
    {visitors : List Return}
    (areNumbered : ∀ visitor ∈ visitors, visitor.IsNumbered uid)
    (oneAtMost : userCount uid pool ≤ 1) :
    UnderWay uid (userCount uid pool) (returnedAtOnce visitors pool) where
  counted := rfl
  apart := by
    refine List.pairwise_map.2 (List.pairwise_iff_getElem.2 fun first second _ _ isBefore => ?_)
    simp only [returnedAtOnce, List.getElem_mapIdx]
    exact Nat.ne_of_lt isBefore
  placed := by
    intro strand isThere
    obtain ⟨party, isVisitor, rfl⟩ := List.mem_mapIdx.1 isThere
    have isNumbered := areNumbered _ (List.getElem_mem isVisitor)
    have named : (Route.githubCallback visitors[party].code
      visitors[party].origin).NamesNothingEmpty := trivial
    dsimp only [Return.chain]
    rw [dispatch_ofRoute _ named]
    rcases stands_githubCallback isNumbered visitors[party].code visitors[party].origin with
      isLooking | isSettled
    · exact ⟨_, isLooking, fun _ _ _ => List.not_mem_nil, nofun⟩
    · exact ⟨_, isSettled, IsInformed.settled uid _ _ party⟩
  shown := fun several => absurd several (Nat.not_lt.2 oneAtMost)

/-- However visitors with one GitHub account come back at the same time to a store with at most one
user of the account, there is at most one in the end exactly if nobody was added to the users
although another one had been added since the first one was looked up. -/
theorem userCount_run_le_one_iff
    {visitors : List Return}
    (areNumbered : ∀ visitor ∈ visitors, visitor.IsNumbered uid)
    (oneAtMost : userCount uid pool ≤ 1)
    (schedule : List Nat) :
    let last := (returnedAtOnce visitors pool).run schedule
    userCount uid last.pool ≤ 1 ↔ ¬IsOvertaken uid last.journal := by
  intro last
  have underWay := (underWay_returnedAtOnce areNumbered oneAtMost).run schedule
  constructor
  · intro oneAtLast isOvertaken
    have twoAdded := isOvertaken.two_le_additions
    have counted : userCount uid last.pool = userCount uid pool + additions uid last.journal :=
      underWay.counted
    omega
  · intro noneOvertaken
    by_contra several
    exact noneOvertaken (underWay.shown (Nat.lt_of_not_le several))

/-- A visitor who comes back while the first one is being added, and is looked up after that, is not
added once more. -/
theorem userCount_run_of_looked_up_later :
    let profile : Profile :=
      { id := 7, login := "ana", avatarUrl := "", name := none, email := none }
    let visitor : Return :=
      { site := { now := Timestamp.ofUnix 1717232400 0 }
        code := some "code"
        origin := none
        around :=
          { session := none
            body := []
            answer := fun description =>
              Except.ok (if description.name = "oauth.profile" then Answer.profile profile
                else Answer.token (some "gho"))
            world := { catalog := Catalog.empty, source := Except.ok Catalog.empty } } }
    let last := (returnedAtOnce [visitor, visitor] {}).run [0, 0, 1, 1, 0, 0, 0, 0, 1, 1, 1, 0, 0]
    (∀ other ∈ [visitor, visitor], Return.IsNumbered other 7) ∧ userCount 7 {} ≤ 1 ∧
      last.isOver = true ∧ userCount 7 last.pool = 1 ∧ ¬IsOvertaken 7 last.journal := by
  intro profile visitor last
  have isNumbered : visitor.IsNumbered 7 := by
    rintro _ ⟨⟩
    rfl
  have areNumbered : ∀ other ∈ [visitor, visitor], Return.IsNumbered other 7 :=
    List.forall_mem_cons.2 ⟨isNumbered, List.forall_mem_singleton.2 isNumbered⟩
  have oneAtMost : userCount 7 {} ≤ 1 := by decide
  obtain ⟨isOver, isOne⟩ : last.isOver = true ∧ userCount 7 last.pool = 1 := by decide +kernel
  have isFine := userCount_run_le_one_iff areNumbered oneAtMost
    [0, 0, 1, 1, 0, 0, 0, 0, 1, 1, 1, 0, 0]
  exact ⟨areNumbered, oneAtMost, isOver, isOne, isFine.1 (Nat.le_of_eq isOne)⟩

/-- Two visitors with one GitHub account, of which nobody is a user, are added both if both are
looked up before one of them is added. -/
theorem userCount_run_of_overtaken_visitors :
    let profile : Profile :=
      { id := 7, login := "ana", avatarUrl := "", name := none, email := none }
    let visitor : Return :=
      { site := { now := Timestamp.ofUnix 1717232400 0 }
        code := some "code"
        origin := none
        around :=
          { session := none
            body := []
            answer := fun description =>
              Except.ok (if description.name = "oauth.profile" then Answer.profile profile
                else Answer.token (some "gho"))
            world := { catalog := Catalog.empty, source := Except.ok Catalog.empty } } }
    let last := (returnedAtOnce [visitor, visitor] {}).run
      [0, 0, 1, 1, 0, 1, 0, 0, 0, 1, 1, 1, 0, 0, 1, 1]
    (∀ other ∈ [visitor, visitor], Return.IsNumbered other 7) ∧ userCount 7 {} = 0 ∧
      last.isOver = true ∧ userCount 7 last.pool = 2 := by
  intro profile visitor last
  have isNumbered : visitor.IsNumbered 7 := by
    rintro _ ⟨⟩
    rfl
  have isEmpty : userCount 7 {} = 0 := by decide
  obtain ⟨isOver, areTwo⟩ : last.isOver = true ∧ userCount 7 last.pool = 2 := by decide +kernel
  exact ⟨List.forall_mem_cons.2 ⟨isNumbered, List.forall_mem_singleton.2 isNumbered⟩, isEmpty,
    isOver, areTwo⟩

end Registering

end Site

end Screencast
