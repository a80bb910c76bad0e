import Screencast.Effect.Step
import Screencast.Proofs.Effect.Passage

/-!
# Chains that look at the world once

A chain may look at the world outside several times, but all its looks may lie between the same two
things that it waits for. Whatever changes outside while such a chain waits, it sees one state of
the world.
-/

namespace Screencast

namespace Chain

variable {world result : Type}

/-- A chain does not look at the world. -/
def Unlooking : Chain world → Prop
  | respond _ => True
  | session _ next => ∀ found, (next found).Unlooking
  | body _ next => ∀ bytes, (next bytes).Unlooking
  | query _ _ next => ∀ outcome, (next outcome).Unlooking
  | task _ _ next => ∀ outcome, (next outcome).Unlooking
  | detach aside rest => aside.Unlooking ∧ rest.Unlooking
  | ensure guarded _ => guarded.Unlooking
  | note _ rest => rest.Unlooking
  | fresh next => ∀ id, (next id).Unlooking
  | observe _ => False

/-- A chain looks at the world before it waits for anything, and not any more afterwards. -/
def LooksNow : Chain world → Prop
  | note _ rest => rest.LooksNow
  | fresh next => ∀ id, (next id).LooksNow
  | observe next => ∀ seen, (next seen).LooksNow
  | chain => chain.Unlooking

/-- A chain does not look at the world, or all its looks lie between the same two things that it
waits for. What it detaches does not look at the world. -/
def LooksOnce : Chain world → Prop
  | respond _ => True
  | session _ next => ∀ found, (next found).LooksOnce
  | body _ next => ∀ bytes, (next bytes).LooksOnce
  | query _ _ next => ∀ outcome, (next outcome).LooksOnce
  | task _ _ next => ∀ outcome, (next outcome).LooksOnce
  | detach aside rest => aside.Unlooking ∧ rest.LooksOnce
  | ensure guarded _ => guarded.LooksOnce
  | note _ rest => rest.LooksOnce
  | fresh next => ∀ id, (next id).LooksOnce
  | observe next => ∀ seen, (next seen).LooksNow

/-- A chain that does not look at the world does not look at it later. -/
theorem Unlooking.looksNow
    {chain : Chain world}
    (unlooking : chain.Unlooking) :
    chain.LooksNow := by
  induction chain with
  | note event rest inductionHypothesis => exact inductionHypothesis unlooking
  | fresh next inductionHypothesis => exact fun id => inductionHypothesis id (unlooking id)
  | observe => exact unlooking.elim
  | respond | session | body | query | task | detach | ensure => exact unlooking

/-- A chain that does not look at the world looks at it once at most. -/
theorem Unlooking.looksOnce
    {chain : Chain world}
    (unlooking : chain.Unlooking) :
    chain.LooksOnce := by
  induction chain with
  | respond => trivial
  | session _ _ follow => exact fun found => follow found (unlooking found)
  | body _ _ follow => exact fun bytes => follow bytes (unlooking bytes)
  | query _ _ _ follow => exact fun outcome => follow outcome (unlooking outcome)
  | task _ _ _ follow => exact fun outcome => follow outcome (unlooking outcome)
  | detach _ _ _ restHypothesis => exact ⟨unlooking.1, restHypothesis unlooking.2⟩
  | ensure _ _ inductionHypothesis => exact inductionHypothesis unlooking
  | note _ _ inductionHypothesis => exact inductionHypothesis unlooking
  | fresh _ follow => exact fun id => follow id (unlooking id)
  | observe => exact unlooking.elim

/-- A chain that looks at the world before it waits for anything looks at it once at most. -/
theorem LooksNow.looksOnce
    {chain : Chain world}
    (looks : chain.LooksNow) :
    chain.LooksOnce := by
  induction chain with
  | note event rest inductionHypothesis => exact inductionHypothesis looks
  | fresh next inductionHypothesis => exact fun id => inductionHypothesis id (looks id)
  | observe => exact looks
  | respond | session | body | query | task | detach | ensure =>
      exact Unlooking.looksOnce looks

/-! ## Putting chains together -/

/-- Reporting a failure does not look at the world. -/
theorem unlooking_failOwing
    (owed : List Cleanup)
    (error : ServerError) :
    (failOwing owed error : Chain world).Unlooking := by
  have ending : (clean owed (respond (Terminal.html error.page error.status)) :
      Chain world).Unlooking := by
    induction owed with
    | nil => trivial
    | cons cleanup owed inductionHypothesis => exact inductionHypothesis
  unfold failOwing
  split <;> exact ending

theorem unlooking_fail (error : ServerError) : (fail error : Chain world).Unlooking :=
  unlooking_failOwing [] error

theorem unlooking_send (terminal : Terminal) : (send terminal : Chain world).Unlooking := by
  unfold send
  split <;> trivial

theorem unlooking_logFailure
    (context : String)
    (failure : Option String) :
    (logFailure context failure : Chain world).Unlooking := by
  cases failure <;> trivial

theorem unlooking_writeJson (value : Except String Json) :
    (writeJson value : Chain world).Unlooking := by
  cases value with
  | ok value => trivial
  | error detail => exact unlooking_fail (unwritableJson detail)

/-- A query that may fail does not look at the world if what follows does not. -/
theorem Unlooking.queryOrFail
    {issued : Query result}
    {next : result → Chain world}
    (unlooking : ∀ value, (next value).Unlooking) :
    (queryOrFail issued next).Unlooking := by
  intro outcome
  cases outcome with
  | ok value => exact unlooking value
  | error error => exact unlooking_fail _

/-- A task that may fail does not look at the world if what follows does not. -/
theorem Unlooking.awaitOrFail
    {call : Task world result}
    {publicMessage : String}
    {next : result → Chain world}
    (unlooking : ∀ value, (next value).Unlooking) :
    (awaitOrFail call publicMessage next).Unlooking := by
  intro outcome
  cases outcome with
  | ok value => exact unlooking value
  | error error => exact unlooking_fail _

/-- A task that may fail looks at the world once if what follows does. -/
theorem LooksOnce.awaitOrFail
    {call : Task world result}
    {publicMessage : String}
    {next : result → Chain world}
    (looks : ∀ value, (next value).LooksOnce) :
    (awaitOrFail call publicMessage next).LooksOnce := by
  intro outcome
  cases outcome with
  | ok value => exact looks value
  | error error => exact (unlooking_fail _).looksOnce

/-- The building steps of the rest of a chain come before what is detached, and so do its looks if
it looks at once. -/
theorem LooksNow.continuing
    {aside rest : Chain world}
    (unlooking : aside.Unlooking)
    (looks : rest.LooksNow) :
    (besides.continuing aside rest).LooksNow := by
  induction rest with
  | note event rest inductionHypothesis => exact inductionHypothesis looks
  | fresh next inductionHypothesis => exact fun id => inductionHypothesis id (looks id)
  | observe next inductionHypothesis => exact fun seen => inductionHypothesis seen (looks seen)
  | respond | session | body | query | task | detach | ensure => exact ⟨unlooking, looks⟩

/-- A chain that goes on with a chain that looks at the world once, behind what is detached, looks
at it once. -/
theorem LooksOnce.continuing
    {aside rest : Chain world}
    (unlooking : aside.Unlooking)
    (looks : rest.LooksOnce) :
    (besides.continuing aside rest).LooksOnce := by
  induction rest with
  | note event rest inductionHypothesis => exact inductionHypothesis looks
  | fresh next inductionHypothesis => exact fun id => inductionHypothesis id (looks id)
  | observe next _ => exact fun seen => LooksNow.continuing unlooking (looks seen)
  | respond | session | body | query | task | detach | ensure => exact ⟨unlooking, looks⟩

/-- A chain beside one that does not look at the world looks at it as often as on its own. -/
theorem LooksOnce.besides
    {aside rest : Chain world}
    (unlooking : aside.Unlooking)
    (looks : rest.LooksOnce) :
    (besides aside rest).LooksOnce := by
  induction aside with
  | note event aside inductionHypothesis => exact inductionHypothesis unlooking
  | fresh next inductionHypothesis => exact fun id => inductionHypothesis id (unlooking id)
  | observe => exact unlooking.elim
  | respond | session | body | query | task | detach | ensure =>
      exact LooksOnce.continuing unlooking looks

/-- A chain that detaches another one does not look at the world if neither does. -/
theorem Unlooking.besides
    {aside rest : Chain world}
    (asideUnlooking : aside.Unlooking)
    (restUnlooking : rest.Unlooking) :
    (besides aside rest).Unlooking := by
  have continuing : ∀ aside : Chain world, aside.Unlooking →
      (besides.continuing aside rest).Unlooking := by
    intro aside asideUnlooking
    induction rest with
    | note event rest inductionHypothesis => exact inductionHypothesis restUnlooking
    | fresh next inductionHypothesis => exact fun id => inductionHypothesis id (restUnlooking id)
    | observe => exact restUnlooking.elim
    | respond | session | body | query | task | detach | ensure =>
        exact ⟨asideUnlooking, restUnlooking⟩
  induction aside with
  | note event aside inductionHypothesis => exact inductionHypothesis asideUnlooking
  | fresh next inductionHypothesis => exact fun id => inductionHypothesis id (asideUnlooking id)
  | observe => exact asideUnlooking.elim
  | respond | session | body | query | task | detach | ensure => exact continuing _ asideUnlooking

end Chain

/-! ## What such chains are handed -/

namespace Delivery

variable {world : Type}

/-- Something that a chain has waited for. A drawn identifier and a look at the world are had while
the chain is built. -/
def isAwaited : Delivery world → Bool
  | drawn _ => false
  | seen _ => false
  | _ => true

/-- A look at the world. -/
def isSeen : Delivery world → Bool
  | seen _ => true
  | _ => false

/-- Nothing that was handed over is a look at the world. -/
def AreUnseen (handed : List (Delivery world)) : Prop :=
  ∀ delivery ∈ handed, delivery.isSeen = false

/-- Nothing that was handed over had to be waited for. -/
def AreAtOnce (handed : List (Delivery world)) : Prop :=
  ∀ delivery ∈ handed, delivery.isAwaited = false

end Delivery

namespace Chain

open Delivery

variable {world : Type} {middle last source : Chain world} {handed given : List (Delivery world)}
  {noted told : List Event} {owed opened : List Cleanup}

/-- A chain that does not look at the world does not come to do so. -/
theorem Unlooking.takes
    (unlooking : middle.Unlooking)
    (takes : middle.Takes given told opened last) :
    AreUnseen given ∧ last.Unlooking := by
  cases takes with
  | session _ _ found => exact ⟨List.forall_mem_singleton.2 rfl, unlooking found⟩
  | noSession owed _ error =>
      exact ⟨List.forall_mem_singleton.2 rfl, unlooking_failOwing owed error⟩
  | body _ _ bytes => exact ⟨List.forall_mem_singleton.2 rfl, unlooking bytes⟩
  | noBody owed _ error => exact ⟨List.forall_mem_singleton.2 rfl, unlooking_failOwing owed error⟩
  | query _ _ _ outcome => exact ⟨List.forall_mem_singleton.2 rfl, unlooking outcome⟩
  | task _ _ _ outcome => exact ⟨List.forall_mem_singleton.2 rfl, unlooking outcome⟩
  | detach => exact ⟨List.forall_mem_nil _, unlooking.2⟩
  | ensure => exact ⟨List.forall_mem_nil _, unlooking⟩
  | note => exact ⟨List.forall_mem_nil _, unlooking⟩
  | fresh _ id => exact ⟨List.forall_mem_singleton.2 rfl, unlooking id⟩
  | observe => exact unlooking.elim

/-- A chain that looks at the world at once goes on to do so, or it has looked. -/
theorem LooksNow.takes
    (looks : middle.LooksNow)
    (takes : middle.Takes given told opened last) :
    (AreAtOnce given ∧ last.LooksNow) ∨ (AreUnseen given ∧ last.Unlooking) := by
  cases middle with
  | note event rest =>
      cases takes
      exact Or.inl ⟨List.forall_mem_nil _, looks⟩
  | fresh next =>
      cases takes with
      | fresh _ id => exact Or.inl ⟨List.forall_mem_singleton.2 rfl, looks id⟩
  | observe next =>
      cases takes with
      | observe _ seen => exact Or.inl ⟨List.forall_mem_singleton.2 rfl, looks seen⟩
  | respond | session | body | query | task | detach | ensure =>
      exact Or.inr (Unlooking.takes looks takes)

/-- A chain that looks at the world once has not looked yet, or it looks at the world at once. -/
theorem LooksOnce.takes
    (looks : middle.LooksOnce)
    (takes : middle.Takes given told opened last) :
    (AreUnseen given ∧ last.LooksOnce) ∨ (AreAtOnce given ∧ last.LooksNow) := by
  cases takes with
  | session _ _ found => exact Or.inl ⟨List.forall_mem_singleton.2 rfl, looks found⟩
  | noSession owed _ error =>
      exact Or.inl ⟨List.forall_mem_singleton.2 rfl, (unlooking_failOwing owed error).looksOnce⟩
  | body _ _ bytes => exact Or.inl ⟨List.forall_mem_singleton.2 rfl, looks bytes⟩
  | noBody owed _ error =>
      exact Or.inl ⟨List.forall_mem_singleton.2 rfl, (unlooking_failOwing owed error).looksOnce⟩
  | query _ _ _ outcome => exact Or.inl ⟨List.forall_mem_singleton.2 rfl, looks outcome⟩
  | task _ _ _ outcome => exact Or.inl ⟨List.forall_mem_singleton.2 rfl, looks outcome⟩
  | detach => exact Or.inl ⟨List.forall_mem_nil _, looks.2⟩
  | ensure => exact Or.inl ⟨List.forall_mem_nil _, looks⟩
  | note => exact Or.inl ⟨List.forall_mem_nil _, looks⟩
  | fresh _ id => exact Or.inl ⟨List.forall_mem_singleton.2 rfl, looks id⟩
  | observe _ seen => exact Or.inr ⟨List.forall_mem_singleton.2 rfl, looks seen⟩

/-- All looks of a way so far lie between two things that the chain has waited for, and what is left
of the chain keeps to that. -/
inductive HasLooked : List (Delivery world) → Chain world → Prop
  | notYet {handed : List (Delivery world)} {last : Chain world}
      (unseen : AreUnseen handed)
      (looks : last.LooksOnce) :
      HasLooked handed last
  | now {before during : List (Delivery world)} {last : Chain world}
      (unseen : AreUnseen before)
      (atOnce : AreAtOnce during)
      (looks : last.LooksNow) :
      HasLooked (before ++ during) last
  | done {before during after : List (Delivery world)} {last : Chain world}
      (unseen : AreUnseen before)
      (atOnce : AreAtOnce during)
      (unseenAfter : AreUnseen after)
      (unlooking : last.Unlooking) :
      HasLooked (before ++ (during ++ after)) last

/-- One more step keeps all looks together. -/
theorem HasLooked.takes
    (looked : HasLooked handed middle)
    (takes : middle.Takes given told opened last) :
    HasLooked (handed ++ given) last := by
  cases looked with
  | notYet unseen looks =>
      rcases looks.takes takes with ⟨unseenToo, looks⟩ | ⟨atOnce, looks⟩
      · exact HasLooked.notYet (List.forall_mem_append.2 ⟨unseen, unseenToo⟩) looks
      · exact HasLooked.now unseen atOnce looks
  | now unseen atOnce looks =>
      rw [List.append_assoc]
      rcases looks.takes takes with ⟨atOnceToo, looks⟩ | ⟨unseenAfter, unlooking⟩
      · exact HasLooked.now unseen (List.forall_mem_append.2 ⟨atOnce, atOnceToo⟩) looks
      · exact HasLooked.done unseen atOnce unseenAfter unlooking
  | done unseen atOnce unseenAfter unlooking =>
      rw [List.append_assoc, List.append_assoc]
      obtain ⟨unseenToo, unlooking⟩ := unlooking.takes takes
      have unseenSince := List.forall_mem_append.2 ⟨unseenAfter, unseenToo⟩
      exact HasLooked.done unseen atOnce unseenSince unlooking

/-- On its whole way, a chain that looks at the world once keeps all looks together. -/
theorem LooksOnce.hasLooked
    (looks : source.LooksOnce)
    (way : Passage source handed noted owed last) :
    HasLooked handed last := by
  induction way with
  | start => exact HasLooked.notYet (List.forall_mem_nil _) looks
  | step _ takes inductionHypothesis => exact inductionHypothesis.takes takes

/-- The looks of a way lie in a stretch of it in which nothing is waited for. -/
theorem HasLooked.exists_stretch (looked : HasLooked handed last) :
    ∃ before during after, handed = before ++ (during ++ after) ∧ AreUnseen before ∧
      AreAtOnce during ∧ AreUnseen after := by
  cases looked with
  | notYet unseen _ =>
      exact ⟨handed, [], [], by simp, unseen, List.forall_mem_nil _, List.forall_mem_nil _⟩
  | @now before during _ unseen atOnce _ =>
      exact ⟨before, during, [], by simp, unseen, atOnce, List.forall_mem_nil _⟩
  | @done before during after _ unseen atOnce unseenAfter _ =>
      exact ⟨before, during, after, rfl, unseen, atOnce, unseenAfter⟩

end Chain

/-- What is seen of the world changes only while a chain waits. -/
def Delivery.IsSteady {world part : Type} (view : world → part) (handed : List (Delivery world)) :
    Prop :=
  ∀ before left between right after,
    handed = before ++ seen left :: (between ++ seen right :: after) → AreAtOnce between →
      view left = view right

namespace Chain

open Delivery

/-- A chain that looks at the world once sees one state of what changes only while it waits. -/
theorem LooksOnce.view_eq
    {world part : Type}
    {view : world → part}
    {source last : Chain world}
    {handed : List (Delivery world)}
    {noted : List Event}
    {owed : List Cleanup}
    {left right : world}
    (looks : source.LooksOnce)
    (way : Passage source handed noted owed last)
    (steady : IsSteady view handed)
    (seenLeft : seen left ∈ handed)
    (seenRight : seen right ∈ handed) :
    view left = view right := by
  obtain ⟨before, during, after, rfl, unseen, atOnce, unseenAfter⟩ :=
    (looks.hasLooked way).exists_stretch
  have inStretch : ∀ {outside : world}, seen outside ∈ before ++ (during ++ after) →
      seen outside ∈ during := by
    intro outside present
    rcases List.mem_append.1 present with isBefore | isLater
    · cases (unseen _ isBefore : true = false)
    · rcases List.mem_append.1 isLater with isDuring | isAfter
      · exact isDuring
      · cases (unseenAfter _ isAfter : true = false)
  -- Whichever of the two looks comes first, nothing is waited for between them.
  have inOrder : ∀ {first second : world} {start rest : List (Delivery world)},
      during = start ++ seen first :: rest → seen second ∈ rest → view first = view second := by
    intro first second start rest parts isLater
    obtain ⟨between, ending, rfl⟩ := List.append_of_mem isLater
    refine steady (before ++ start) first between second (ending ++ after) (by simp [parts]) ?_
    intro delivery present
    exact atOnce delivery (by simp [parts, present])
  obtain ⟨start, rest, parts⟩ := List.append_of_mem (inStretch seenLeft)
  have isThere := inStretch seenRight
  rw [parts, List.mem_append, List.mem_cons] at isThere
  rcases isThere with isEarlier | same | isLater
  · obtain ⟨front, between, startParts⟩ := List.append_of_mem isEarlier
    exact (inOrder (by rw [parts, startParts, List.append_assoc]; rfl) (by simp)).symm
  · cases same
    rfl
  · exact inOrder parts isLater

end Chain

end Screencast
