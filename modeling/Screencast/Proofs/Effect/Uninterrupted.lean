import Screencast.Proofs.Effect.Interleaved

/-!
# Chains that go on without a break

If one party goes on alone, and every chain that it detaches is run to its end before the other one
goes on, the steps lead to where a captured run ends: the same statements and tasks were issued, and
the same pool is left. So chains that are under way at the same time can all come to their terminals.
-/

namespace Screencast

variable {world : Type}

namespace Issue

/-- The statement of a query. -/
def statement? : Issue → Option Statement
  | query statement => some statement
  | task _ => none

/-- The description of a task. -/
def description? : Issue → Option TaskDescription
  | query _ => none
  | task description => some description

end Issue

/-- The statements that were noted down. -/
def statementsOf (journal : List (Nat × Issue)) : List Statement :=
  journal.filterMap fun noted => noted.2.statement?

/-- The tasks that were noted down. -/
def tasksOf (journal : List (Nat × Issue)) : List TaskDescription :=
  journal.filterMap fun noted => noted.2.description?

theorem statementsOf_append (journal more : List (Nat × Issue)) :
    statementsOf (journal ++ more) = statementsOf journal ++ statementsOf more :=
  List.filterMap_append

theorem tasksOf_append (journal more : List (Nat × Issue)) :
    tasksOf (journal ++ more) = tasksOf journal ++ tasksOf more :=
  List.filterMap_append

/-- A chain with cleanups that are done after it, the first one first. -/
def Chain.enclosed (chain : Chain world) : List Cleanup → Chain world
  | [] => chain
  | cleanup :: rest => (Chain.ensure chain cleanup).enclosed rest

/-- A chain takes a step also with cleanups that are done after it. -/
theorem Surroundings.stride?_enclosed
    {around : Surroundings world}
    {pool : Pool}
    {drawn : Nat}
    {chain : Chain world}
    {stride : Stride world}
    (taken : around.stride? pool drawn chain = some stride)
    (cleanups : List Cleanup) :
    around.stride? pool drawn (chain.enclosed cleanups) =
      some { stride with chain := stride.chain.enclosed cleanups } := by
  induction cleanups generalizing chain stride with
  | nil => exact taken
  | cons cleanup rest inductionHypothesis =>
      have takenWithin : around.stride? pool drawn (Chain.ensure chain cleanup) =
          some { stride with chain := Chain.ensure stride.chain cleanup } := by
        rw [Surroundings.stride?, taken]
      exact inductionHypothesis takenWithin

namespace Weave

variable {weave : Weave world} {before after : List (Strand world)} {strand : Strand world}
  {stride : Stride world} {party : Nat} {around : Surroundings world} {chain : Chain world}
  {cleanups : List Cleanup} {captured : Outcome × Recording (Pool × Unit)}

theorem step_length
    (parts : weave.strands = before ++ strand :: after)
    (taken : strand.around.stride? weave.pool weave.drawn strand.chain = some stride) :
    weave.step before.length = weave.advance before strand after stride := by
  simp [step, parts, taken]

/-- One of the strands can go on to where a captured run ends, with the strands that come up on the
way. -/
def Ends (weave : Weave world) (before : List (Strand world)) (party : Nat)
    (around : Surroundings world) (after : List (Strand world))
    (captured : Outcome × Recording (Pool × Unit)) : Prop :=
  ∃ schedule asides,
    (weave.run schedule).strands =
        before ++ ⟨party, around, Chain.respond captured.1.terminal⟩ :: (after ++ asides) ∧
      (∀ strand ∈ asides, strand.isOver = true) ∧
      (weave.run schedule).pool = captured.2.state.1 ∧
      (weave.run schedule).drawn = captured.2.drawn ∧
      statementsOf (weave.run schedule).journal =
        statementsOf weave.journal ++ captured.1.allQueries ∧
      tasksOf (weave.run schedule).journal = tasksOf weave.journal ++ captured.1.allTasks

/-- Who has taken a step that detached nothing can go on from there. -/
theorem Ends.of_stride
    (left : Outcome × Recording (Pool × Unit))
    (parts : weave.strands = before ++ ⟨party, around, chain.enclosed cleanups⟩ :: after)
    (taken : around.stride? weave.pool weave.drawn chain = some stride)
    (noAside : stride.aside = none)
    (ends : ∀ between : Weave world,
      between.strands = before ++ ⟨party, around, stride.chain.enclosed cleanups⟩ :: after →
        between.pool = stride.pool → between.drawn = stride.drawn →
          between.Ends before party around after left)
    (sameTerminal : captured.1.terminal = left.1.terminal)
    (sameRecording : captured.2 = left.2)
    (queries : captured.1.allQueries = statementsOf (stride.noted party) ++ left.1.allQueries)
    (tasks : captured.1.allTasks = tasksOf (stride.noted party) ++ left.1.allTasks) :
    weave.Ends before party around after captured := by
  have isTaken := step_length parts (Surroundings.stride?_enclosed taken cleanups)
  have strands : (weave.step before.length).strands =
      before ++ ⟨party, around, stride.chain.enclosed cleanups⟩ :: after := by
    simp [isTaken, advance, noAside]
  obtain ⟨schedule, asides, strandsThen, areOver, pool, drawn, statements, tasksThen⟩ :=
    ends (weave.step before.length) strands (isTaken ▸ rfl) (isTaken ▸ rfl)
  have journal : (weave.step before.length).journal = weave.journal ++ stride.noted party := by
    rw [isTaken]
    rfl
  rw [Ends, sameTerminal, sameRecording]
  refine ⟨before.length :: schedule, asides, strandsThen, areOver, pool, drawn, ?_, ?_⟩
  · rw [run_cons, queries, statements, journal, statementsOf_append, List.append_assoc]
  · rw [run_cons, tasks, tasksThen, journal, tasksOf_append, List.append_assoc]

/-- A chain that has come to its terminal does the cleanups. -/
theorem ends_respond
    {terminal : Terminal}
    {recording : Recording (Pool × Unit)}
    (parts : weave.strands =
      before ++ ⟨party, around, (Chain.respond terminal).enclosed cleanups⟩ :: after)
    (samePool : weave.pool = recording.state.1)
    (sameDrawn : weave.drawn = recording.drawn) :
    weave.Ends before party around after ({ terminal, trace := [] }, recording) := by
  induction cleanups generalizing weave with
  | nil =>
      refine ⟨[], [], ?_, List.forall_mem_nil _, samePool, sameDrawn, ?_, ?_⟩
      · rw [List.append_nil]
        exact parts
      · exact (List.append_nil _).symm
      · exact (List.append_nil _).symm
  | cons cleanup rest inductionHypothesis =>
      have isEnclosed : weave.strands =
          before ++ ⟨party, around,
            (Chain.ensure (Chain.respond terminal) cleanup).enclosed rest⟩ :: after := parts
      refine Ends.of_stride _ isEnclosed rfl rfl (fun between partsThen pool drawn => ?_)
        rfl rfl rfl rfl
      exact inductionHypothesis partsThen (pool.trans samePool) (drawn.trans sameDrawn)

/-- A chain that detaches another one can go on to its end after the other one. -/
theorem Ends.of_detach
    {aside rest : Chain world}
    {first second : Outcome × Recording (Pool × Unit)}
    (parts : weave.strands =
      before ++ ⟨party, around, (Chain.detach aside rest).enclosed cleanups⟩ :: after)
    (asideEnds : ∀ (between : Weave world) (others : List (Strand world)),
      between.strands = others ++ ⟨party, around, aside⟩ :: [] → between.pool = weave.pool →
        between.drawn = weave.drawn → between.Ends others party around [] first)
    (restEnds : ∀ (between : Weave world) (others : List (Strand world)),
      between.strands = before ++ ⟨party, around, rest.enclosed cleanups⟩ :: others →
        between.pool = first.2.state.1 → between.drawn = first.2.drawn →
          between.Ends before party around others second) :
    weave.Ends before party around after
      (second.1.after (Resolved.detached first.1.terminal first.1.trace), second.2) := by
  have isTaken := step_length parts (Surroundings.stride?_enclosed rfl cleanups)
  have strands : (weave.step before.length).strands =
      (before ++ ⟨party, around, rest.enclosed cleanups⟩ :: after) ++
        ⟨party, around, aside⟩ :: [] := by
    simp [isTaken, advance]
  have journal : (weave.step before.length).journal = weave.journal := by
    rw [isTaken]
    exact List.append_nil _
  obtain ⟨schedule, asides, strandsThen, areOver, pool, drawn, statements, tasks⟩ :=
    asideEnds (weave.step before.length) _ strands (isTaken ▸ rfl) (isTaken ▸ rfl)
  rw [List.append_assoc, List.cons_append] at strandsThen
  obtain ⟨scheduleThen, more, strandsLast, moreAreOver, poolLast, drawnLast, statementsLast,
    tasksLast⟩ := restEnds _ _ strandsThen pool drawn
  refine ⟨before.length :: (schedule ++ scheduleThen),
    ⟨party, around, Chain.respond first.1.terminal⟩ :: asides ++ more, ?_, ?_, ?_, ?_, ?_, ?_⟩
  · rw [run_cons, run_append, strandsLast]
    simp [Outcome.after]
  · exact List.forall_mem_append.2 ⟨List.forall_mem_cons.2 ⟨rfl, areOver⟩, moreAreOver⟩
  · rw [run_cons, run_append, poolLast]
  · rw [run_cons, run_append, drawnLast]
  · rw [run_cons, run_append, statementsLast, statements, journal, List.append_assoc]
    rfl
  · rw [run_cons, run_append, tasksLast, tasks, journal, List.append_assoc]
    rfl

/-- Any strand can go on to where a captured run of its chain ends. -/
theorem ends_capture
    {recording : Recording (Pool × Unit)}
    (parts : weave.strands = before ++ ⟨party, around, chain.enclosed cleanups⟩ :: after)
    (samePool : weave.pool = recording.state.1)
    (sameDrawn : weave.drawn = recording.drawn) :
    weave.Ends before party around after (chain.capture around.standIn recording) := by
  -- Below a cleanup the chain is the same with one more cleanup around it, so the induction is for
  -- any cleanups.
  induction chain generalizing weave before after cleanups recording with
  | respond terminal => exact ends_respond parts samePool sameDrawn
  | session owed next inductionHypothesis =>
      refine Ends.of_stride _ parts rfl rfl (fun between partsThen pool drawn => ?_) rfl rfl rfl rfl
      exact inductionHypothesis around.session partsThen (pool.trans samePool)
        (drawn.trans sameDrawn)
  | body owed next inductionHypothesis =>
      refine Ends.of_stride _ parts rfl rfl (fun between partsThen pool drawn => ?_) rfl rfl rfl rfl
      exact inductionHypothesis around.body partsThen (pool.trans samePool) (drawn.trans sameDrawn)
  | query owed issued next inductionHypothesis =>
      let answered := recording.query around.standIn issued.statement
      have isAnswered : answered.1 = Except.ok (weave.pool.apply issued.statement).1 := by
        rw [samePool]
        rfl
      have poolThen : answered.2.state.1 = (weave.pool.apply issued.statement).2 := by
        rw [samePool]
        rfl
      refine Ends.of_stride ((next (issued.resolve answered.1)).capture around.standIn answered.2)
        parts rfl rfl (fun between partsThen pool drawn => ?_) rfl rfl rfl rfl
      rw [isAnswered]
      exact inductionHypothesis _ partsThen (pool.trans poolThen.symm) (drawn.trans sameDrawn)
  | task owed call next inductionHypothesis =>
      let answered := recording.task around.standIn call.description
      refine Ends.of_stride ((next (call.resolve answered.1)).capture around.standIn answered.2)
        parts rfl rfl (fun between partsThen pool drawn => ?_) rfl rfl rfl rfl
      exact inductionHypothesis _ partsThen (pool.trans samePool) (drawn.trans sameDrawn)
  | detach aside rest asideHypothesis restHypothesis =>
      refine Ends.of_detach parts (fun between others partsThen pool drawn => ?_)
        fun between others partsThen pool drawn => ?_
      · have isEnclosed : between.strands =
            others ++ ⟨party, around, aside.enclosed []⟩ :: [] := partsThen
        exact asideHypothesis isEnclosed (pool.trans samePool) (drawn.trans sameDrawn)
      · exact restHypothesis partsThen pool drawn
  | ensure guarded cleanup inductionHypothesis =>
      have isEnclosed : weave.strands =
          before ++ ⟨party, around, guarded.enclosed (cleanup :: cleanups)⟩ :: after := parts
      obtain ⟨schedule, asides, strands, areOver, pool, drawn, statements, tasks⟩ :=
        inductionHypothesis isEnclosed samePool sameDrawn
      refine ⟨schedule, asides, strands, areOver, pool, drawn, ?_, ?_⟩
      · rw [statements, Outcome.allQueries, Outcome.allQueries, Chain.capture,
          Resolved.queriesOfAll_append_cleanup]
      · rw [tasks, Outcome.allTasks, Outcome.allTasks, Chain.capture,
          Resolved.tasksOfAll_append_cleanup]
  | note event rest inductionHypothesis =>
      refine Ends.of_stride _ parts rfl rfl (fun between partsThen pool drawn => ?_) rfl rfl rfl rfl
      exact inductionHypothesis partsThen (pool.trans samePool) (drawn.trans sameDrawn)
  | fresh next inductionHypothesis =>
      rw [Chain.capture, Recording.draw, ← sameDrawn]
      refine Ends.of_stride _ parts rfl rfl (fun between partsThen pool drawn => ?_) rfl rfl rfl rfl
      exact inductionHypothesis _ partsThen (pool.trans samePool) drawn
  | observe next inductionHypothesis =>
      refine Ends.of_stride _ parts rfl rfl (fun between partsThen pool drawn => ?_) rfl rfl rfl rfl
      exact inductionHypothesis _ partsThen (pool.trans samePool) (drawn.trans sameDrawn)

/-- Strands that are waiting between others that have come to their terminals can all go on to
theirs. -/
theorem exists_run_isOver_of_waiting
    {waiting : List (Strand world)}
    (parts : weave.strands = before ++ (waiting ++ after))
    (beforeOver : ∀ strand ∈ before, strand.isOver = true)
    (afterOver : ∀ strand ∈ after, strand.isOver = true) :
    ∃ schedule, (weave.run schedule).isOver = true := by
  induction waiting generalizing weave before after with
  | nil =>
      refine ⟨[], List.all_eq_true.2 fun strand present => ?_⟩
      change strand ∈ weave.strands at present
      rw [parts] at present
      exact (List.mem_append.1 present).elim (beforeOver strand) (afterOver strand)
  | cons strand rest inductionHypothesis =>
      have isThere : weave.strands = before ++
          ⟨strand.party, strand.around, strand.chain.enclosed []⟩ :: (rest ++ after) := parts
      let recording : Recording (Pool × Unit) :=
        { state := (weave.pool, ()), drawn := weave.drawn }
      have ends : weave.Ends before strand.party strand.around (rest ++ after)
          (strand.chain.capture strand.around.standIn recording) := ends_capture isThere rfl rfl
      obtain ⟨schedule, asides, strands, asidesOver, _⟩ := ends
      rw [List.append_assoc, ← List.singleton_append, ← List.append_assoc before] at strands
      obtain ⟨scheduleThen, isOver⟩ := inductionHypothesis strands
        (List.forall_mem_append.2 ⟨beforeOver, List.forall_mem_singleton.2 rfl⟩)
        (List.forall_mem_append.2 ⟨afterOver, asidesOver⟩)
      exact ⟨schedule ++ scheduleThen, (run_append _ _ _).symm ▸ isOver⟩

theorem exists_run_isOver (weave : Weave world) :
    ∃ schedule, (weave.run schedule).isOver = true := by
  have parts : weave.strands = [] ++ (weave.strands ++ []) := by simp
  exact exists_run_isOver_of_waiting parts (List.forall_mem_nil _) (List.forall_mem_nil _)

end Weave

end Screencast
