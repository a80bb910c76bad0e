import Mathlib.Data.List.Perm.Basic
import Screencast.Account.Resolve
import Screencast.Effect.Capture
import Screencast.Proofs.Serve.Ensemble

/-!
# Identifiers from a supply

Which identifiers a chain draws depends on what else goes on: they are numbered in the order in
which they are drawn. A supply has the identifiers ready, one for every place of a chain. If they
are filled in, nothing is left to be drawn, and the chain is the same whatever goes on beside it.

What a chain comes to in a captured run, it comes to with identifiers from some supply. A run of its
threads on a server, too, is a run of the chain with identifiers from some supply, step by step.
-/

namespace Screencast

/-! ## Supplies -/

/-- Where to go from a place at which an identifier is drawn or a chain is detached. -/
inductive Turning
  | onwards
  | aside

/-- An identifier for every place of a chain, by the way to the place. -/
structure Supply where
  identifier : List Turning → Uuid

namespace Supply

instance : Inhabited Supply := ⟨⟨fun _ => Uuid.drawn 0⟩⟩

/-- The identifier to be drawn next. -/
def next (supply : Supply) : Uuid := supply.identifier []

/-- What is left of a supply for the rest of the chain. -/
def onwards (supply : Supply) : Supply := ⟨fun way => supply.identifier (Turning.onwards :: way)⟩

/-- What is left of a supply for a chain that is detached. -/
def aside (supply : Supply) : Supply := ⟨fun way => supply.identifier (Turning.aside :: way)⟩

/-- The supply with an identifier to be drawn next, and with supplies for what comes then. -/
def of (id : Uuid) (onwards aside : Supply) : Supply where
  identifier
    | [] => id
    | Turning.onwards :: way => onwards.identifier way
    | Turning.aside :: way => aside.identifier way

variable (id : Uuid) (first second : Supply)

@[simp] theorem next_of : (of id first second).next = id := rfl

@[simp] theorem onwards_of : (of id first second).onwards = first := rfl

@[simp] theorem aside_of : (of id first second).aside = second := rfl

end Supply

variable {state world result other : Type}

namespace Chain

/-- A chain with its identifiers from a supply. Where it would draw one, it looks at the world and
minds nothing of what it sees. -/
def supplied : Chain world → Supply → Chain world
  | respond terminal, _ => respond terminal
  | session owed next, supply => session owed fun found => (next found).supplied supply
  | body owed next, supply => body owed fun bytes => (next bytes).supplied supply
  | query owed issued next, supply =>
    query owed issued fun outcome => (next outcome).supplied supply
  | task owed call next, supply => task owed call fun outcome => (next outcome).supplied supply
  | detach aside rest, supply =>
    detach (aside.supplied supply.aside) (rest.supplied supply.onwards)
  | ensure guarded cleanup, supply => ensure (guarded.supplied supply) cleanup
  | note event rest, supply => note event (rest.supplied supply)
  | fresh next, supply => observe fun _ => (next supply.next).supplied supply.onwards
  | observe next, supply => observe fun seen => (next seen).supplied supply

@[simp] theorem supplied_clean (cleanups : List Cleanup) (rest : Chain world) (supply : Supply) :
    (clean cleanups rest).supplied supply = clean cleanups (rest.supplied supply) := by
  induction cleanups with
  | nil => rfl
  | cons cleanup cleanups inductionHypothesis =>
      exact congrArg (note (Event.cleaned cleanup)) inductionHypothesis

/-- No identifier is drawn to report a failure. -/
@[simp] theorem supplied_failOwing
    (owed : List Cleanup)
    (error : ServerError)
    (supply : Supply) :
    (failOwing owed error : Chain world).supplied supply = failOwing owed error := by
  unfold failOwing
  dsimp only
  split
  · exact congrArg (note _) (supplied_clean owed _ supply)
  · exact supplied_clean owed _ supply

/-- What a chain comes to in a captured run, it comes to with identifiers from some supply. Then
none is drawn, so it makes no difference how many were drawn before. -/
theorem exists_capture_supplied
    (standIn : StandIn state world)
    (chain : Chain world)
    (recording : Recording state)
    (drawn : Nat) :
    ∃ supply, (chain.supplied supply).capture standIn { recording with drawn } =
      ((chain.capture standIn recording).1,
        { (chain.capture standIn recording).2 with drawn }) := by
  induction chain generalizing recording with
  | respond terminal => exact ⟨default, rfl⟩
  | session owed next inductionHypothesis =>
      obtain ⟨supply, same⟩ := inductionHypothesis standIn.session recording
      exact ⟨supply, by simp only [supplied, capture, same]⟩
  | body owed next inductionHypothesis =>
      obtain ⟨supply, same⟩ := inductionHypothesis standIn.body recording
      exact ⟨supply, by simp only [supplied, capture, same]⟩
  | query owed issued next inductionHypothesis =>
      let answered := recording.query standIn issued.statement
      obtain ⟨supply, same⟩ := inductionHypothesis (issued.resolve answered.1) answered.2
      exact ⟨supply, congrArg (Prod.map (Outcome.after _) id) same⟩
  | task owed call next inductionHypothesis =>
      let answered := recording.task standIn call.description
      obtain ⟨supply, same⟩ := inductionHypothesis (call.resolve answered.1) answered.2
      exact ⟨supply, congrArg (Prod.map (Outcome.after _) id) same⟩
  | detach aside rest asideHypothesis restHypothesis =>
      obtain ⟨first, sameAside⟩ := asideHypothesis recording
      obtain ⟨second, sameRest⟩ := restHypothesis (aside.capture standIn recording).2
      refine ⟨Supply.of (Uuid.drawn 0) second first, ?_⟩
      simp only [supplied, capture, Supply.aside_of, Supply.onwards_of, sameAside, sameRest]
  | ensure guarded cleanup inductionHypothesis =>
      obtain ⟨supply, same⟩ := inductionHypothesis recording
      refine ⟨supply, ?_⟩
      simp only [supplied, capture, same]
      rfl
  | note event rest inductionHypothesis => exact inductionHypothesis (recording.note event)
  | fresh next inductionHypothesis =>
      obtain ⟨supply, same⟩ := inductionHypothesis recording.draw.1 recording.draw.2
      refine ⟨Supply.of recording.draw.1 supply supply, ?_⟩
      simp only [supplied, capture, Supply.next_of, Supply.onwards_of]
      exact same
  | observe next inductionHypothesis =>
      exact inductionHypothesis (standIn.world recording.state) recording

end Chain

/-- The rest of a chain with its identifiers from a supply. -/
def Rest.supplied (rest : Rest world result) (supply : Supply) : Rest world result where
  next value := (rest.next value).supplied supply
  owed := rest.owed

namespace Step

/-- A step draws no identifiers: the whole supply is left for what follows. -/
def DrawsNone (step : Step world result) : Prop :=
  ∀ rest supply, (step.run rest).supplied supply = step.run (rest.supplied supply)

theorem DrawsNone.pure (value : result) : (Step.pure value : Step world result).DrawsNone :=
  fun _ _ => rfl

/-- Steps one after another draw no identifiers if none of them does. -/
theorem DrawsNone.andThen
    {step : Step world result}
    {follow : result → Step world other}
    (drawsNone : step.DrawsNone)
    (followDrawsNone : ∀ value, (follow value).DrawsNone) :
    (step.andThen follow).DrawsNone := by
  intro rest supply
  refine (drawsNone _ supply).trans (congrArg step.run ?_)
  unfold Rest.supplied
  congr 1
  exact funext fun value => followDrawsNone value rest supply

theorem DrawsNone.map
    {step : Step world result}
    (drawsNone : step.DrawsNone)
    (change : result → other) :
    (step.map change).DrawsNone :=
  fun _ supply => drawsNone _ supply

/-- A query draws no identifiers, nor does the error page if it fails. -/
theorem DrawsNone.queryOrFail (issued : Query result) :
    (Step.queryOrFail issued : Step world result).DrawsNone := by
  intro rest supply
  change Chain.query rest.owed issued _ = Chain.query rest.owed issued _
  congr 1
  funext outcome
  cases outcome with
  | ok value => rfl
  | error failure => exact Chain.supplied_failOwing rest.owed (ServerError.ofQuery failure) supply

end Step

namespace Session

theorem drawsNone_resolveTeamManager (userId : Uuid) :
    (resolveTeamManager userId : Step world (Option (Stored User))).DrawsNone := by
  refine Step.DrawsNone.andThen (Step.DrawsNone.queryOrFail _) fun membership => ?_
  cases membership with
  | none => exact Step.DrawsNone.pure none
  | some membership => exact Step.DrawsNone.queryOrFail _

/-- No identifiers are drawn to look up a session. -/
theorem drawsNone_resolve (token : Uuid) :
    (resolve token : Step world (Option Session)).DrawsNone := by
  refine Step.DrawsNone.andThen (Step.DrawsNone.queryOrFail _) fun signIn => ?_
  cases signIn with
  | none => exact Step.DrawsNone.pure none
  | some signIn =>
      refine Step.DrawsNone.andThen (Step.DrawsNone.queryOrFail _) fun user => ?_
      cases user with
      | none => exact Step.DrawsNone.pure none
      | some user => exact (drawsNone_resolveTeamManager user.id).map _

end Session

namespace Serve

/-! ## Threads -/

/-- A stage of a chain with its identifiers from a supply. -/
def Stage.supplied : Stage world → Supply → Stage world
  | idle, _ => idle
  | waiting, _ => waiting
  | connected, _ => connected
  | answered rows, _ => answered rows
  | settled outcome next, supply => settled outcome fun given => (next given).supplied supply

/-- A thread with its identifiers from a supply. -/
def Thread.supplied (thread : Thread world) (supply : Supply) : Thread world :=
  { thread with chain := thread.chain.supplied supply, stage := thread.stage.supplied supply }

/-- What a step leads to, with identifiers from a supply for the thread itself and from another one
for a thread that is detached. -/
def Progress.supplied (own aside : Supply) : Progress world → Progress world
  | moved thread => moved (thread.supplied own)
  | split started rest => split (started.supplied aside) (rest.supplied own)
  | yielded thread => yielded (thread.supplied own)
  | asleep due thread => asleep due (thread.supplied own)
  | stuck => stuck
  | finished response => finished response

/-- The threads that a step leaves are one and those that it has detached, one at most. -/
theorem Progress.threads_supplied
    {progress : Progress world}
    {thread : Thread world}
    {asides : List (Thread world)}
    (left : progress.threads = thread :: asides)
    (own aside : Supply) :
    (progress.supplied own aside).threads =
        thread.supplied own :: asides.map (Thread.supplied · aside) ∧
      asides.length ≤ 1 := by
  cases progress with
  | moved | yielded | asleep | split =>
      obtain ⟨rfl, rfl⟩ := List.cons.inj left
      exact ⟨rfl, by simp⟩
  | stuck | finished => cases left

variable {setup : Setup world}

/-- No identifiers are drawn to resolve a session. -/
def Setup.DrawsNone (setup : Setup world) : Prop := ∀ token, (setup.resolver token).DrawsNone

/-- A thread asks for a connection in the same way with identifiers from a supply. -/
theorem Thread.acquire_supplied
    (thread : Thread world)
    (shared : Shared world)
    (failed : QueryError → Chain world)
    (own aside : Supply)
    (drawn : Nat) :
    (thread.supplied own).acquire { shared with drawn } (fun error => (failed error).supplied own) =
      ((thread.acquire shared failed).1.supplied own aside,
        { (thread.acquire shared failed).2 with drawn }) := by
  have injected : ({ shared with drawn } : Shared world).injectPlanned =
      { shared.injectPlanned with drawn } := by
    unfold Shared.injectPlanned
    dsimp only
    split <;> rfl
  unfold acquire
  rw [injected]
  dsimp only [Shared.note]
  generalize shared.injectPlanned.pool.request = requested
  obtain ⟨acquisition, pool⟩ := requested
  cases acquisition with
  | granted | faulted => rfl
  | mustWait =>
      dsimp only
      split <;> rfl

/-- A thread waits for a task in the same way with identifiers from a supply. -/
theorem Thread.await_supplied
    (setup : Setup world)
    (thread : Thread world)
    (shared : Shared world)
    (call : Task world result)
    (next : Except TaskError result → Chain world)
    (own aside : Supply)
    (drawn : Nat) :
    Thread.await setup (thread.supplied own) { shared with drawn } call
        (fun outcome => (next outcome).supplied own) =
      ((thread.await setup shared call next).1.supplied own aside,
        { (thread.await setup shared call next).2 with drawn }) := by
  unfold await
  dsimp only [supplied]
  generalize (if thread.scope.cancelled.any (· ≤ shared.clock) = true then
    (Completion.never, shared.world) else call.perform shared.world) = performed
  generalize performed.1.settle call.late setup.taskTimeoutMillis
    (thread.scope.cancelled.map (· - shared.clock)) = settled
  cases settled with
  | none => rfl
  | some settled =>
      dsimp only
      split <;> rfl

/-- A thread takes its step also with identifiers from a supply, whatever supplies are left for it
and for a thread that it detaches. To send its response it needs none. -/
theorem Thread.exists_step_supplied
    (drawsNone : setup.DrawsNone)
    (thread : Thread world)
    (shared : Shared world)
    (own aside : Supply) :
    ∃ supply, (∀ response, (thread.step setup shared).1 = Progress.finished response →
        supply = own) ∧
      ∀ drawn, (thread.supplied supply).step setup { shared with drawn } =
        ((thread.step setup shared).1.supplied own aside,
          { (thread.step setup shared).2 with drawn }) := by
  obtain ⟨chain, scope, stage, cleanups⟩ := thread
  cases chain with
  | fresh next =>
      refine ⟨Supply.of (Uuid.drawn (shared.drawn + 1)) own own, fun _ finished => ?_,
        fun drawn => rfl⟩
      cases finished
  | detach started rest =>
      refine ⟨Supply.of (Uuid.drawn 0) own aside, fun _ finished => ?_, fun drawn => rfl⟩
      cases finished
  | ensure | note | observe => exact ⟨own, fun _ _ => rfl, fun drawn => rfl⟩
  | respond terminal =>
      refine ⟨own, fun _ _ => rfl, fun drawn => ?_⟩
      simp [step, close, supplied, Chain.supplied, Progress.supplied]
  | session owed next =>
      refine ⟨own, fun _ _ => rfl, fun drawn => ?_⟩
      cases given : scope.token with
      | none => simp [step, supplied, Chain.supplied, given, goOn, Progress.supplied, Stage.supplied]
      | some token =>
          have resolved := drawsNone token { next, owed } own
          simp [step, supplied, Chain.supplied, given, goOn, Progress.supplied, Stage.supplied,
            resolved, Rest.supplied]
  | body owed next =>
      refine ⟨own, fun _ _ => rfl, fun drawn => ?_⟩
      cases given : scope.body <;>
        simp [step, supplied, Chain.supplied, given, goOn, Progress.supplied, Stage.supplied]
  | query owed issued next =>
      refine ⟨own, fun _ _ => rfl, fun drawn => ?_⟩
      cases stage with
      | connected | answered | settled => rfl
      | idle =>
          cases rejected : issued.rejection with
          | some error =>
              simp [step, supplied, Chain.supplied, rejected, goOn, Progress.supplied,
                Stage.supplied]
          | none =>
              have acquired := acquire_supplied
                ⟨Chain.query owed issued next, scope, Stage.idle, cleanups⟩ shared
                (fun error => next (Except.error error)) own aside drawn
              simpa [step, rejected, supplied, Chain.supplied, Stage.supplied] using acquired
      | waiting =>
          cases available : shared.pool.isAvailable <;>
            simp [step, supplied, Chain.supplied, available, goOn, Progress.supplied,
              Stage.supplied]
  | task owed call next =>
      refine ⟨own, fun _ _ => rfl, fun drawn => ?_⟩
      cases stage with
      | settled => rfl
      | _ =>
          exact await_supplied setup ⟨Chain.task owed call next, scope, _, cleanups⟩ shared call
            next own aside drawn

/-! ## Ensembles -/

namespace Member

/-- A thread with its identifiers filled in: the chain that it was started with has them from a
supply, and what is left of the chain has them from what is left of it. -/
structure IsFilled (member : Member world) (supply : Supply) (filled : Member world) : Prop where
  source : ∃ begun, filled.source = member.source.supplied begun
  thread : filled.thread = member.thread.supplied supply
  response : filled.response = member.response

variable {member filled : Member world} {supply : Supply}

theorem IsFilled.starting (thread : Thread world) (supply : Supply) :
    (starting thread).IsFilled supply (starting (thread.supplied supply)) :=
  ⟨⟨supply, rfl⟩, rfl, rfl⟩

/-- A thread with its identifiers filled in waits for a connection like the thread itself. -/
theorem IsFilled.mustWait_eq
    (isFilled : member.IsFilled supply filled)
    (shared : Shared world)
    (drawn : Nat) :
    filled.mustWait { shared with drawn } = member.mustWait shared := by
  unfold mustWait
  rw [isFilled.thread]
  cases stage : member.thread.stage <;> simp [Thread.supplied, Stage.supplied, stage]

end Member

namespace Ensemble

/-- An ensemble with its identifiers filled in, for each thread from what is left of its supply.
Nothing else that the threads share is different. -/
structure IsFilled (supplies : List (Member world × Supply)) (shared : Shared world)
    (drawn : Nat) (filled : Ensemble world) : Prop where
  shared : filled.shared = { shared with drawn }
  members : List.Forall₂ (fun entry filled => entry.1.IsFilled entry.2 filled) supplies
    filled.members

variable {ensemble after : Ensemble world}

/-- Every thread is there with its identifiers filled in. -/
theorem IsFilled.exists_mem
    {shared : Shared world}
    {drawn : Nat}
    {filled : Ensemble world}
    {member : Member world}
    {left : Supply}
    (isFilled : IsFilled (ensemble.members.map (·, left)) shared drawn filled)
    (present : member ∈ ensemble.members) :
    ∃ other ∈ filled.members, member.IsFilled left other := by
  have areFilled := List.forall₂_map_left_iff.1 isFilled.members
  obtain ⟨index, isIndex, rfl⟩ := List.mem_iff_getElem.1 present
  have isThere : index < filled.members.length := areFilled.length_eq ▸ isIndex
  exact ⟨filled.members[index], List.getElem_mem isThere, areFilled.get isIndex isThere⟩

/-- With their identifiers filled in, all threads have sent their responses if they have without. -/
theorem IsFilled.isOver
    {shared : Shared world}
    {drawn : Nat}
    {filled : Ensemble world}
    {left : Supply}
    (isFilled : IsFilled (ensemble.members.map (·, left)) shared drawn filled)
    (isOver : ensemble.IsOver) :
    filled.IsOver := by
  have areFilled := List.forall₂_map_left_iff.1 isFilled.members
  intro member present
  obtain ⟨index, isIndex, rfl⟩ := List.mem_iff_getElem.1 present
  have isThere : index < ensemble.members.length := areFilled.length_eq ▸ isIndex
  have same : filled.members[index].response = ensemble.members[index].response :=
    (areFilled.get isThere isIndex).response
  exact same ▸ isOver _ (List.getElem_mem isThere)

/-- Supplies for threads that are named in one order are supplies for them in another one. -/
theorem exists_supplies_of_perm
    {members : List (Member world)}
    {supplies : List (Member world × Supply)}
    (same : members.Perm (supplies.map Prod.fst)) :
    ∃ others : List (Member world × Supply),
      others.map Prod.fst = members ∧ others.Perm supplies := by
  have named : List.Forall₂ (fun member entry => member = Prod.fst entry)
      (supplies.map Prod.fst) supplies := by
    rw [List.forall₂_map_left_iff, List.forall₂_same]
    exact fun _ _ => rfl
  obtain ⟨others, areNamed, perm⟩ := List.perm_comp_forall₂ same named
  have areThose : List.Forall₂ (· = ·) members (others.map Prod.fst) :=
    List.forall₂_map_right_iff.2 areNamed
  rw [List.forall₂_eq_eq_eq] at areThose
  exact ⟨others, areThose.symm, perm⟩

/-- Threads that detached one at most have one supply for all that they detached. -/
theorem exists_aside
    {asides : List (Thread world)}
    {supplies : List (Member world × Supply)}
    (areNamed : supplies.map Prod.fst = asides.map Member.starting)
    (atMostOne : asides.length ≤ 1) :
    ∃ aside, supplies = asides.map fun thread => (Member.starting thread, aside) := by
  cases asides with
  | nil => exact ⟨default, List.map_eq_nil_iff.1 areNamed⟩
  | cons thread rest =>
      obtain rfl : rest = [] := List.eq_nil_of_length_eq_zero (by simpa using atMostOne)
      obtain ⟨⟨_, aside⟩, rfl, rfl⟩ := List.map_eq_singleton_iff.1 areNamed
      exact ⟨aside, rfl⟩

/-- Whatever supplies are left for a thread and the others after its step, there are supplies before
it with which the thread takes the same step. -/
theorem exists_before
    {member : Member world}
    {others : List (Member world)}
    {stay : List (Member world × Supply)}
    (drawsNone : setup.DrawsNone)
    (isOne : ensemble.members.Perm (member :: others))
    (areOthers : stay.map Prod.fst = others)
    (own aside : Supply) :
    ∃ before : List (Member world × Supply), before.map Prod.fst = ensemble.members ∧
      ∀ drawn filled, IsFilled before ensemble.shared drawn filled →
        ∃ first behind supply, filled.members.Perm (first :: behind) ∧
          (∀ response, (member.thread.step setup ensemble.shared).1 =
            Progress.finished response → supply = own) ∧
          member.IsFilled supply first ∧
          List.Forall₂ (fun entry filled => entry.1.IsFilled entry.2 filled) stay behind ∧
          first.mustWait filled.shared = member.mustWait ensemble.shared ∧
          first.thread.step setup filled.shared =
            ((member.thread.step setup ensemble.shared).1.supplied own aside,
              { (member.thread.step setup ensemble.shared).2 with drawn }) := by
  obtain ⟨supply, isLast, steps⟩ :=
    member.thread.exists_step_supplied drawsNone ensemble.shared own aside
  have areAll : ensemble.members.Perm (((member, supply) :: stay).map Prod.fst) := by
    rw [List.map_cons, areOthers]
    exact isOne
  obtain ⟨before, areBefore, perm⟩ := exists_supplies_of_perm areAll
  refine ⟨before, areBefore, fun drawn filled isFilled => ?_⟩
  obtain ⟨members, areFilled, same⟩ := List.perm_comp_forall₂ perm.symm isFilled.members
  cases areFilled with
  | @cons _ first _ behind isFirst areBehind =>
      refine ⟨first, behind, supply, same.symm, isLast, isFirst, areBehind, ?_, ?_⟩
      · rw [isFilled.shared]
        exact isFirst.mustWait_eq ensemble.shared drawn
      · rw [isFilled.shared, isFirst.thread]
        exact steps drawn

/-- Whatever supplies are left after a move, there are supplies before it with which the same move
leads to them. -/
theorem Move.exists_filled
    {supplies : List (Member world × Supply)}
    (drawsNone : setup.DrawsNone)
    (move : Move setup ensemble after)
    (areLeft : supplies.map Prod.fst = after.members) :
    ∃ before : List (Member world × Supply), before.map Prod.fst = ensemble.members ∧
      ∀ drawn filled, IsFilled before ensemble.shared drawn filled →
        ∃ next, Move setup filled next ∧ IsFilled supplies after.shared drawn next := by
  cases move with
  | @goesOn member others thread asides isOne isOpen mayGo left =>
      obtain ⟨⟨_, own⟩, rest, rfl, rfl, restLeft⟩ := List.map_eq_cons_iff.1 areLeft
      obtain ⟨started, stay, rfl, areStarted, areOthers⟩ := List.map_eq_append_iff.1 restLeft
      obtain ⟨aside, rfl⟩ :=
        exists_aside areStarted (Progress.threads_supplied left own own).2
      obtain ⟨before, areBefore, steps⟩ := exists_before drawsNone isOne areOthers own aside
      refine ⟨before, areBefore, fun drawn filled isFilled => ?_⟩
      obtain ⟨first, behind, supply, isFirst, _, firstFilled, areBehind, sameWait, step⟩ :=
        steps drawn filled isFilled
      have leaves : (first.thread.step setup filled.shared).1.threads =
          thread.supplied own :: asides.map (Thread.supplied · aside) := by
        rw [step]
        exact (Progress.threads_supplied left own aside).1
      refine ⟨_, Move.goesOn isFirst (firstFilled.response.trans isOpen) (sameWait.trans mayGo)
        leaves, by rw [step], ?_⟩
      refine List.Forall₂.cons ⟨firstFilled.source, rfl, firstFilled.response⟩
        (List.rel_append ?_ areBehind)
      rw [List.map_map, List.forall₂_map_left_iff, List.forall₂_map_right_iff, List.forall₂_same]
      exact fun thread _ => Member.IsFilled.starting thread aside
  | @ends member others response isOne isOpen mayGo finished =>
      obtain ⟨⟨_, own⟩, stay, rfl, rfl, areOthers⟩ := List.map_eq_cons_iff.1 areLeft
      obtain ⟨before, areBefore, steps⟩ := exists_before drawsNone isOne areOthers own own
      refine ⟨before, areBefore, fun drawn filled isFilled => ?_⟩
      obtain ⟨first, behind, supply, isFirst, isLast, firstFilled, areBehind, sameWait, step⟩ :=
        steps drawn filled isFilled
      obtain rfl := isLast response finished
      have sends : (first.thread.step setup filled.shared).1 = Progress.finished response := by
        rw [step, finished]
        rfl
      refine ⟨_, Move.ends isFirst (firstFilled.response.trans isOpen) (sameWait.trans mayGo) sends,
        by rw [step], ?_⟩
      exact List.Forall₂.cons ⟨firstFilled.source, firstFilled.thread, rfl⟩ areBehind

/-- Whatever supplies are left after a run, it is a run of the chain with its identifiers from a
supply, and leads to them. -/
theorem Run.exists_filled
    {chain : Chain world}
    {scope : Scope}
    {shared : Shared world}
    {count : Nat}
    {supplies : List (Member world × Supply)}
    (drawsNone : setup.DrawsNone)
    (run : Run setup (starting shared { chain, scope }) count ensemble)
    (areLeft : supplies.map Prod.fst = ensemble.members) :
    ∃ supply filled,
      Run setup (starting shared { chain := chain.supplied supply, scope }) count filled ∧
        IsFilled supplies ensemble.shared shared.drawn filled := by
  induction run generalizing supplies with
  | refl =>
      obtain ⟨⟨_, supply⟩, rfl, rfl⟩ := List.map_eq_singleton_iff.1 areLeft
      refine ⟨supply, _, Run.refl, rfl, List.Forall₂.cons ?_ List.Forall₂.nil⟩
      exact Member.IsFilled.starting { chain, scope } supply
  | move run move inductionHypothesis =>
      obtain ⟨before, areBefore, moves⟩ := move.exists_filled drawsNone areLeft
      obtain ⟨supply, filled, run, isFilled⟩ := inductionHypothesis areBefore
      obtain ⟨next, move, isFilled⟩ := moves _ filled isFilled
      exact ⟨supply, next, run.move move, isFilled⟩
  | passes run passes inductionHypothesis =>
      obtain ⟨supply, filled, run, isFilled⟩ := inductionHypothesis areLeft
      obtain ⟨clock, journal, rfl⟩ := passes
      have passes : filled.shared.Passes { filled.shared with clock, journal } :=
        ⟨clock, journal, rfl⟩
      refine ⟨supply, _, run.passes passes, ?_, isFilled.members⟩
      rw [isFilled.shared]

/-- A run is one of the chain with its identifiers from a supply, of which the same is left for
every thread. -/
theorem Run.exists_filled_from
    {chain : Chain world}
    {scope : Scope}
    {shared : Shared world}
    {count : Nat}
    (drawsNone : setup.DrawsNone)
    (run : Run setup (starting shared { chain, scope }) count ensemble)
    (left : Supply) :
    ∃ supply filled,
      Run setup (starting shared { chain := chain.supplied supply, scope }) count filled ∧
        IsFilled (ensemble.members.map (·, left)) ensemble.shared shared.drawn filled :=
  run.exists_filled drawsNone (by simp [Function.comp_def])

end Ensemble

end Serve

end Screencast
