import Screencast.Proofs.Effect.OnTables
import Screencast.Proofs.Effect.Within

/-!
# Chains that run at the same time

Several chains share the tables of a pool. One of them takes a step at a time, in any order, and a
chain that is detached is one more of them. A query is a single step. Every query and every task is
noted down with the party that issued it.
-/

namespace Screencast

variable {world : Type}

/-- Something that a chain issues. -/
inductive Issue
  | query (statement : Statement)
  | task (description : TaskDescription)

/-- What a step makes of a chain: the chain that goes on, the chain that was detached, if there is
one, the pool, the number of identifiers drawn, and what was issued, if something was. -/
structure Stride (world : Type) where
  chain : Chain world
  aside : Option (Chain world) := none
  pool : Pool
  drawn : Nat
  issued : Option Issue := none

/-- What a step of a party issued, as it is noted down. -/
def Stride.noted (stride : Stride world) (party : Nat) : List (Nat × Issue) :=
  (stride.issued.map fun issue => (party, issue)).toList

/-- What a step issued is noted down. -/
theorem Stride.noted_of_issued
    {stride : Stride world}
    {issue : Issue}
    (issued : stride.issued = some issue)
    (party : Nat) :
    stride.noted party = [(party, issue)] := by
  rw [noted, issued]
  rfl

/-- Of a step that issued nothing, nothing is noted down. -/
theorem Stride.noted_of_nothing
    {stride : Stride world}
    (nothing : stride.issued = none)
    (party : Nat) :
    stride.noted party = [] := by
  rw [noted, nothing]
  rfl

/-- What is noted down of a step is what it issued, with the party. -/
theorem Stride.mem_noted_iff
    {stride : Stride world}
    {party other : Nat}
    {issue : Issue} :
    (party, issue) ∈ stride.noted other ↔ party = other ∧ issue ∈ stride.issued := by
  simp only [noted, Option.mem_toList, Option.mem_def, Option.map_eq_some_iff, Prod.mk.injEq]
  constructor
  · rintro ⟨_, issued, rfl, rfl⟩
    exact ⟨rfl, issued⟩
  · rintro ⟨rfl, issued⟩
    exact ⟨issue, issued, rfl, rfl⟩

/-- Take the first step of a chain, unless it has come to its terminal. -/
def Surroundings.stride? (around : Surroundings world) (pool : Pool) (drawn : Nat) :
    Chain world → Option (Stride world)
  | Chain.respond _ => none
  | Chain.session _ next => some { chain := next around.session, pool, drawn }
  | Chain.body _ next => some { chain := next around.body, pool, drawn }
  | Chain.query _ issued next =>
    some
      { chain := next (pool.ask issued)
        pool := (pool.apply issued.statement).2
        drawn
        issued := some (Issue.query issued.statement) }
  | Chain.task _ call next =>
    some
      { chain := next (call.resolve (around.answer call.description))
        pool
        drawn
        issued := some (Issue.task call.description) }
  | Chain.detach aside rest => some { chain := rest, aside := some aside, pool, drawn }
  | Chain.ensure guarded cleanup =>
    match around.stride? pool drawn guarded with
    | some stride => some { stride with chain := Chain.ensure stride.chain cleanup }
    | none => some { chain := guarded, pool, drawn }
  | Chain.note _ rest => some { chain := rest, pool, drawn }
  | Chain.fresh next =>
    some { chain := next (Uuid.drawn (drawn + 1)), pool, drawn := drawn + 1 }
  | Chain.observe next => some { chain := next around.world, pool, drawn }

/-- What a step of a chain within a kind of statements and tasks does is of the kind, and so is what
is left of the chain. -/
structure Stride.IsWithin (statements : Statement → Prop) (tasks : TaskDescription → Prop)
    (pool : Pool) (stride : Stride world) : Prop where
  chain : stride.chain.IsWithin statements tasks
  aside : ∀ aside ∈ stride.aside, aside.IsWithin statements tasks
  query : ∀ statement, stride.issued = some (Issue.query statement) →
    statements statement ∧ stride.pool = (pool.apply statement).2
  task : ∀ description, stride.issued = some (Issue.task description) →
    tasks description ∧ stride.pool = pool
  nothing : stride.issued = none → stride.pool = pool

/-- A chain within a kind of statements and tasks stays within it. -/
theorem Chain.IsWithin.stride
    {statements : Statement → Prop}
    {tasks : TaskDescription → Prop}
    {chain : Chain world}
    {around : Surroundings world}
    {pool : Pool}
    {drawn : Nat}
    {stride : Stride world}
    (within : chain.IsWithin statements tasks)
    (taken : around.stride? pool drawn chain = some stride) :
    stride.IsWithin statements tasks pool := by
  induction within generalizing stride with
  | respond => cases taken
  | session _ follow =>
      cases taken
      exact ⟨follow _, nofun, nofun, nofun, fun _ => rfl⟩
  | body _ follow =>
      cases taken
      exact ⟨follow _, nofun, nofun, nofun, fun _ => rfl⟩
  | query _ isOfKind follow =>
      cases taken
      refine ⟨follow _, nofun, ?_, nofun, nofun⟩
      rintro statement ⟨⟩
      exact ⟨isOfKind, rfl⟩
  | task _ isOfKind follow =>
      cases taken
      refine ⟨follow _, nofun, nofun, ?_, nofun⟩
      rintro description ⟨⟩
      exact ⟨isOfKind, rfl⟩
  | detach first second =>
      cases taken
      refine ⟨second, ?_, nofun, nofun, fun _ => rfl⟩
      rintro aside ⟨⟩
      exact first
  | ensure cleanup within inductionHypothesis =>
      unfold Surroundings.stride? at taken
      split at taken
      next inner isTaken =>
        cases taken
        obtain ⟨chain, aside, query, task, nothing⟩ := inductionHypothesis isTaken
        exact ⟨Chain.IsWithin.ensure cleanup chain, aside, query, task, nothing⟩
      next =>
        cases taken
        exact ⟨within, nofun, nofun, nofun, fun _ => rfl⟩
  | note _ within =>
      cases taken
      exact ⟨within, nofun, nofun, nofun, fun _ => rfl⟩
  | fresh follow =>
      cases taken
      exact ⟨follow _, nofun, nofun, nofun, fun _ => rfl⟩
  | observe follow =>
      cases taken
      exact ⟨follow _, nofun, nofun, nofun, fun _ => rfl⟩

/-- A chain that is under way for one of several parties. -/
structure Strand (world : Type) where
  party : Nat
  around : Surroundings world
  chain : Chain world

/-- Whether a strand has come to its terminal. -/
def Strand.isOver (strand : Strand world) : Bool :=
  match strand.chain with
  | Chain.respond _ => true
  | _ => false

/-- Chains that are under way at the same time, the pool that they share, the number of identifiers
drawn, and what was issued by which party. -/
structure Weave (world : Type) where
  pool : Pool
  strands : List (Strand world)
  drawn : Nat := 0
  journal : List (Nat × Issue) := []

namespace Weave

/-- The chain of each party is about to begin. -/
def start (pool : Pool) (parties : List (Surroundings world)) (chain : Chain world) :
    Weave world where
  pool := pool
  strands := parties.mapIdx fun party around => { party, around, chain }

/-- A strand has taken a step between others. -/
def advance (weave : Weave world) (before : List (Strand world)) (strand : Strand world)
    (after : List (Strand world)) (stride : Stride world) : Weave world where
  pool := stride.pool
  strands :=
    before ++ { strand with chain := stride.chain } ::
      (after ++ (stride.aside.map fun chain => { strand with chain }).toList)
  drawn := stride.drawn
  journal := weave.journal ++ stride.noted strand.party

/-- Let the strand at a position take a step, if there is one that has not come to its terminal. -/
def step (weave : Weave world) (index : Nat) : Weave world :=
  match weave.strands.drop index with
  | [] => weave
  | strand :: after =>
    match strand.around.stride? weave.pool weave.drawn strand.chain with
    | none => weave
    | some stride => weave.advance (weave.strands.take index) strand after stride

/-- Let strands take steps one after another. -/
def run (weave : Weave world) (schedule : List Nat) : Weave world := schedule.foldl step weave

/-- Whether all strands have come to their terminals. -/
def isOver (weave : Weave world) : Bool := weave.strands.all Strand.isOver

/-- A step does nothing, or is one of a strand among the others. -/
theorem step_cases (weave : Weave world) (index : Nat) :
    weave.step index = weave ∨
      ∃ before strand after stride, weave.strands = before ++ strand :: after ∧
        strand.around.stride? weave.pool weave.drawn strand.chain = some stride ∧
        weave.step index = weave.advance before strand after stride := by
  unfold step
  split
  next => exact Or.inl rfl
  next strand after isThere =>
    have parts : weave.strands = weave.strands.take index ++ strand :: after := by
      rw [← isThere, List.take_append_drop]
    split
    next => exact Or.inl rfl
    next stride isTaken => exact Or.inr ⟨_, strand, after, stride, parts, isTaken, rfl⟩

theorem journal_prefix_step (weave : Weave world) (index : Nat) :
    weave.journal <+: (weave.step index).journal := by
  rcases weave.step_cases index with same | ⟨before, strand, after, stride, _, _, taken⟩
  · exact same.symm ▸ List.prefix_rfl
  · rw [taken]
    exact List.prefix_append _ _

theorem run_cons (weave : Weave world) (index : Nat) (rest : List Nat) :
    weave.run (index :: rest) = (weave.step index).run rest := rfl

theorem run_append (weave : Weave world) (earlier later : List Nat) :
    weave.run (earlier ++ later) = (weave.run earlier).run later :=
  List.foldl_append

theorem journal_prefix_run (weave : Weave world) (schedule : List Nat) :
    weave.journal <+: (weave.run schedule).journal := by
  induction schedule generalizing weave with
  | nil => exact List.prefix_rfl
  | cons index rest inductionHypothesis =>
      exact (weave.journal_prefix_step index).trans (inductionHypothesis (weave.step index))

/-- What comes to be noted down during a run comes to be so with one of its steps. -/
theorem exists_first
    {holds : List (Nat × Issue) → Prop}
    {weave : Weave world}
    {schedule : List Nat}
    (notYet : ¬holds weave.journal)
    (inTheEnd : holds (weave.run schedule).journal) :
    ∃ earlier index later, schedule = earlier ++ [index] ++ later ∧
      ¬holds (weave.run earlier).journal ∧ holds (weave.run (earlier ++ [index])).journal := by
  induction schedule generalizing weave with
  | nil => exact absurd inTheEnd notYet
  | cons index rest inductionHypothesis =>
      by_cases atOnce : holds (weave.step index).journal
      · exact ⟨[], index, rest, rfl, notYet, atOnce⟩
      · obtain ⟨earlier, first, later, rfl, notBefore, comesAbout⟩ :=
          inductionHypothesis atOnce inTheEnd
        exact ⟨index :: earlier, first, later, rfl, notBefore, comesAbout⟩

end Weave

end Screencast
