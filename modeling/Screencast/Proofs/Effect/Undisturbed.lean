import Screencast.Proofs.Effect.Uninterrupted
import Screencast.Proofs.Store.Commuting

/-!
# Chains that do not disturb each other

What a chain issues can be foreseen from the tables as they are at first, if nothing that is done
before one of its queries changes the answer. Chains that are foreseen and spare each other may run
at the same time, with their steps in any order: each of them comes to its terminal, and the
statements of all of them were run in some order.
-/

namespace Screencast

variable {world : Type}

open Statement

/-! ## Foresight -/

/-- If all queries are answered from the tables as they are at the start, a chain issues these
statements and comes to this terminal. A statement spares those that come after it, and what a
detached chain issues and what is left are apart. -/
inductive Chain.Foresees (around : Surroundings world) (holds : Pool → Prop) (start : Pool) :
    Chain world → List Statement → Terminal → Prop
  | respond (terminal : Terminal) : Foresees around holds start (respond terminal) [] terminal
  | session {owed : List Cleanup} {next : Option Session → Chain world} {due : List Statement}
      {terminal : Terminal}
      (follows : Foresees around holds start (next around.session) due terminal) :
      Foresees around holds start (session owed next) due terminal
  | body {owed : List Cleanup} {next : Bytes → Chain world} {due : List Statement}
      {terminal : Terminal} (follows : Foresees around holds start (next around.body) due terminal) :
      Foresees around holds start (body owed next) due terminal
  | query {result : Type} {owed : List Cleanup} {issued : Query result}
      {next : Except QueryError result → Chain world} {due : List Statement} {terminal : Terminal}
      (spares : ∀ later ∈ due, Spares holds issued.statement later)
      (follows : Foresees around holds start (next (start.ask issued)) due terminal) :
      Foresees around holds start (query owed issued next) (issued.statement :: due) terminal
  | task {result : Type} {owed : List Cleanup} {call : Task world result}
      {next : Except TaskError result → Chain world} {due : List Statement} {terminal : Terminal}
      (follows : Foresees around holds start
        (next (call.resolve (around.answer call.description))) due terminal) :
      Foresees around holds start (task owed call next) due terminal
  | detach {aside rest : Chain world} {first second : List Statement} {ending terminal : Terminal}
      (apart : ∀ one ∈ first, ∀ other ∈ second, AreApart holds one other)
      (foresees : Foresees around holds start aside first ending)
      (follows : Foresees around holds start rest second terminal) :
      Foresees around holds start (detach aside rest) (first ++ second) terminal
  | ensure {guarded : Chain world} {cleanup : Cleanup} {due : List Statement} {terminal : Terminal}
      (follows : Foresees around holds start guarded due terminal) :
      Foresees around holds start (ensure guarded cleanup) due terminal
  | note {event : Event} {rest : Chain world} {due : List Statement} {terminal : Terminal}
      (follows : Foresees around holds start rest due terminal) :
      Foresees around holds start (note event rest) due terminal
  | observe {next : world → Chain world} {due : List Statement} {terminal : Terminal}
      (follows : Foresees around holds start (next around.world) due terminal) :
      Foresees around holds start (observe next) due terminal

/-- If all queries are answered from the tables as they are at the start, a chain issues these
statements and comes to some terminal. -/
def Chain.Issues (around : Surroundings world) (holds : Pool → Prop) (start : Pool)
    (chain : Chain world) (due : List Statement) : Prop :=
  ∃ terminal, chain.Foresees around holds start due terminal

namespace Chain.Issues

variable {around : Surroundings world} {holds : Pool → Prop} {start : Pool} {owed : List Cleanup}
  {result : Type} {aside rest : Chain world} {due first second : List Statement}

theorem respond (terminal : Terminal) : (Chain.respond terminal).Issues around holds start [] :=
  ⟨terminal, Foresees.respond terminal⟩

theorem body
    {next : Bytes → Chain world}
    (follows : (next around.body).Issues around holds start due) :
    (Chain.body owed next).Issues around holds start due := by
  obtain ⟨terminal, follows⟩ := follows
  exact ⟨terminal, Foresees.body follows⟩

/-- A query issues its statement. -/
theorem query
    {issued : Query result}
    {next : Except QueryError result → Chain world}
    (spares : ∀ later ∈ due, Spares holds issued.statement later)
    (follows : (next (start.ask issued)).Issues around holds start due) :
    (Chain.query owed issued next).Issues around holds start (issued.statement :: due) := by
  obtain ⟨terminal, follows⟩ := follows
  exact ⟨terminal, Foresees.query spares follows⟩

/-- A task issues no statement. -/
theorem task
    {call : Task world result}
    {next : Except TaskError result → Chain world}
    (follows : (next (call.resolve (around.answer call.description))).Issues around holds start due) :
    (Chain.task owed call next).Issues around holds start due := by
  obtain ⟨terminal, follows⟩ := follows
  exact ⟨terminal, Foresees.task follows⟩

/-- A chain that detaches another one issues the statements of both. -/
theorem detach
    (apart : ∀ one ∈ first, ∀ other ∈ second, AreApart holds one other)
    (foresees : aside.Issues around holds start first)
    (follows : rest.Issues around holds start second) :
    (Chain.detach aside rest).Issues around holds start (first ++ second) := by
  obtain ⟨_, foresees⟩ := foresees
  obtain ⟨terminal, follows⟩ := follows
  exact ⟨terminal, Foresees.detach apart foresees follows⟩

theorem note
    {event : Event}
    (follows : rest.Issues around holds start due) :
    (Chain.note event rest).Issues around holds start due := by
  obtain ⟨terminal, follows⟩ := follows
  exact ⟨terminal, Foresees.note follows⟩

theorem observe
    {next : world → Chain world}
    (follows : (next around.world).Issues around holds start due) :
    (Chain.observe next).Issues around holds start due := by
  obtain ⟨terminal, follows⟩ := follows
  exact ⟨terminal, Foresees.observe follows⟩

theorem fail (error : ServerError) :
    (Chain.fail error : Chain world).Issues around holds start [] := by
  unfold Chain.fail Chain.failOwing
  split
  · exact note (respond _)
  · exact respond _

theorem logFailure (context : String) (failure : Option String) :
    (Chain.logFailure context failure : Chain world).Issues around holds start [] := by
  cases failure with
  | none => exact respond _
  | some message => exact note (respond _)

end Chain.Issues

/-- A condition holds of a pool and is kept by the statements that are due, and these have the
answers that they had at the start. -/
structure Pool.Expects (holds : Pool → Prop) (start pool : Pool) (due : List Statement) : Prop where
  held : holds pool
  keeps : ∀ statement ∈ due, statement.Keeps holds
  answers : ∀ statement ∈ due, (pool.apply statement).1 = (start.apply statement).1

namespace Pool.Expects

variable {holds : Pool → Prop} {start pool : Pool} {due more done : List Statement}
  {statement : Statement}

/-- What is expected of statements is expected of some of them. -/
theorem mono
    (expects : Expects holds start pool due)
    (among : ∀ statement ∈ more, statement ∈ due) :
    Expects holds start pool more where
  held := expects.held
  keeps := fun statement present => expects.keeps statement (among statement present)
  answers := fun statement present => expects.answers statement (among statement present)

/-- Everything is as expected after a statement that spares those that are due. -/
theorem apply
    (expects : Expects holds start pool due)
    (keeps : statement.Keeps holds)
    (spares : ∀ later ∈ due, Spares holds statement later) :
    Expects holds start (pool.apply statement).2 due where
  held := keeps pool expects.held
  keeps := expects.keeps
  answers := fun later isLater =>
    (spares later isLater pool expects.held).trans (expects.answers later isLater)

/-- Everything is as expected after statements that spare those that are due. -/
theorem applyAll
    (expects : Expects holds start pool due)
    (keeps : ∀ earlier ∈ done, earlier.Keeps holds)
    (spares : ∀ earlier ∈ done, ∀ later ∈ due, Spares holds earlier later) :
    Expects holds start (pool.applyAll done) due := by
  induction done generalizing pool with
  | nil => exact expects
  | cons statement rest inductionHypothesis =>
      obtain ⟨keepsFirst, keepsRest⟩ := List.forall_mem_cons.1 keeps
      obtain ⟨sparesFirst, sparesRest⟩ := List.forall_mem_cons.1 spares
      exact inductionHypothesis (expects.apply keepsFirst sparesFirst) keepsRest sparesRest

/-- A query has the answer that it had at the start. -/
theorem ask_eq
    {result : Type}
    {issued : Query result}
    (expects : Expects holds start pool due)
    (present : issued.statement ∈ due) :
    pool.ask issued = start.ask issued :=
  congrArg (fun rows => issued.resolve (Except.ok rows)) (expects.answers _ present)

end Pool.Expects

/-! ## A run without a break -/

namespace Chain.Foresees

open Pool

variable {around : Surroundings world} {holds : Pool → Prop} {start pool : Pool}
  {chain : Chain world} {due : List Statement} {terminal : Terminal}

/-- A captured run of a chain comes to the terminal that was foreseen, after the statements that
were. -/
theorem capture
    (foresees : chain.Foresees around holds start due terminal)
    {recording : Recording (Pool × Unit)}
    (expects : Expects holds start recording.state.1 due) :
    (chain.capture around.standIn recording).1.terminal = terminal ∧
      (chain.capture around.standIn recording).2.state.1 = recording.state.1.applyAll due := by
  induction foresees generalizing recording with
  | respond => exact ⟨rfl, rfl⟩
  | session _ inductionHypothesis => exact inductionHypothesis expects
  | body _ inductionHypothesis => exact inductionHypothesis expects
  | @query _ _ issued _ due _ spares _ inductionHypothesis =>
      have keeps : issued.statement.Keeps holds := expects.keeps _ List.mem_cons_self
      have expectsThen : Expects holds start (recording.state.1.apply issued.statement).2 due :=
        (expects.mono fun _ => List.mem_cons_of_mem _).apply keeps spares
      have asked := expects.ask_eq List.mem_cons_self
      simp only [Chain.capture, Surroundings.standIn, Recording.query_onTables]
      rw [← Pool.ask, asked]
      exact inductionHypothesis expectsThen
  | task _ inductionHypothesis => exact inductionHypothesis expects
  | @detach aside rest first second _ _ apart _ _ asideHypothesis restHypothesis =>
      obtain ⟨_, left⟩ := asideHypothesis (expects.mono fun _ => List.mem_append_left second)
      have keepsFirst : ∀ statement ∈ first, statement.Keeps holds :=
        fun statement present => expects.keeps statement (List.mem_append_left second present)
      have expectsThen := (expects.mono fun _ => List.mem_append_right first).applyAll keepsFirst
        fun one isFirst other isSecond => (apart one isFirst other isSecond).spares
      rw [← left] at expectsThen
      obtain ⟨ending, leftThen⟩ := restHypothesis expectsThen
      refine ⟨ending, ?_⟩
      rw [applyAll_append, ← left]
      exact leftThen
  | ensure _ inductionHypothesis => exact inductionHypothesis expects
  | note _ inductionHypothesis => exact inductionHypothesis expects
  | observe _ inductionHypothesis => exact inductionHypothesis expects

end Chain.Foresees

/-! ## One step -/

/-- What a step of a chain that was foreseen can be: nothing is asked, or the first statement that is
due, or a chain is detached. What is left is foreseen in each case. -/
inductive Stride.IsForeseen (around : Surroundings world) (holds : Pool → Prop) (start pool : Pool) :
    List Statement → Terminal → Stride world → Prop
  | quiet {chain : Chain world} {due : List Statement} {terminal : Terminal} {drawn : Nat}
      {issued : Option Issue} (foresees : chain.Foresees around holds start due terminal) :
      IsForeseen around holds start pool due terminal { chain, pool, drawn, issued }
  | asks {chain : Chain world} {statement : Statement} {due : List Statement} {terminal : Terminal}
      {drawn : Nat} {issued : Option Issue} (spares : ∀ later ∈ due, Spares holds statement later)
      (foresees : chain.Foresees around holds start due terminal) :
      IsForeseen around holds start pool (statement :: due) terminal
        { chain, pool := (pool.apply statement).2, drawn, issued }
  | detaches {chain aside : Chain world} {first second : List Statement} {ending terminal : Terminal}
      {drawn : Nat} {issued : Option Issue}
      (apart : ∀ one ∈ first, ∀ other ∈ second, AreApart holds one other)
      (foresees : aside.Foresees around holds start first ending)
      (follows : chain.Foresees around holds start second terminal) :
      IsForeseen around holds start pool (first ++ second) terminal
        { chain, aside := some aside, pool, drawn, issued }

/-- A step of a chain that was foreseen leaves what is foreseen. -/
theorem Chain.Foresees.stride
    {around : Surroundings world}
    {holds : Pool → Prop}
    {start pool : Pool}
    {chain : Chain world}
    {due : List Statement}
    {terminal : Terminal}
    {drawn : Nat}
    {stride : Stride world}
    (foresees : chain.Foresees around holds start due terminal)
    (expects : Pool.Expects holds start pool due)
    (taken : around.stride? pool drawn chain = some stride) :
    stride.IsForeseen around holds start pool due terminal := by
  induction foresees generalizing stride with
  | respond => cases taken
  | session follows | body follows | task follows | note follows | observe follows =>
      cases taken
      exact Stride.IsForeseen.quiet follows
  | query spares follows =>
      cases taken
      rw [expects.ask_eq List.mem_cons_self]
      exact Stride.IsForeseen.asks spares follows
  | detach apart foresees follows =>
      cases taken
      exact Stride.IsForeseen.detaches apart foresees follows
  | ensure follows inductionHypothesis =>
      unfold Surroundings.stride? at taken
      split at taken
      next inner isTaken =>
        cases taken
        cases inductionHypothesis expects isTaken with
        | quiet foresees => exact Stride.IsForeseen.quiet (Foresees.ensure foresees)
        | asks spares foresees => exact Stride.IsForeseen.asks spares (Foresees.ensure foresees)
        | detaches apart foresees follows =>
            exact Stride.IsForeseen.detaches apart foresees (Foresees.ensure follows)
      next =>
        cases taken
        exact Stride.IsForeseen.quiet follows

/-! ## All interleavings -/

/-- A strand with the statements that are due and the terminal that it comes to. -/
structure Prospect (world : Type) where
  strand : Strand world
  due : List Statement
  terminal : Terminal

namespace Prospect

/-- What is due of two prospects is apart. -/
def AreApart (holds : Pool → Prop) (first second : Prospect world) : Prop :=
  ∀ one ∈ first.due, ∀ other ∈ second.due, Statement.AreApart holds one other

variable {holds : Pool → Prop} {first second other : Prospect world}

theorem AreApart.symm (apart : first.AreApart holds second) : second.AreApart holds first :=
  fun one isSecond other isFirst => (apart other isFirst one isSecond).symm

theorem AreApart.mono
    (apart : first.AreApart holds second)
    (among : ∀ statement ∈ other.due, statement ∈ first.due) :
    other.AreApart holds second :=
  fun one present => apart one (among one present)

/-- What a step makes of a prospect: the prospect that is left of it, the prospects of what was
detached, and the statements that were run, which spare the others. -/
structure Continues (holds : Pool → Prop) (start pool : Pool) (prospect : Prospect world)
    (stride : Stride world) (left : Prospect world) (asides : List (Prospect world))
    (more : List Statement) : Prop where
  strand : left.strand = { prospect.strand with chain := stride.chain }
  terminal : left.terminal = prospect.terminal
  aside : asides.map Prospect.strand =
    (stride.aside.map fun chain => { prospect.strand with chain }).toList
  foresees : ∀ one ∈ left :: asides,
    one.strand.chain.Foresees one.strand.around holds start one.due one.terminal
  apart : (left :: asides).Pairwise (Prospect.AreApart holds)
  pool_eq : stride.pool = pool.applyAll more
  due : (more ++ (left :: asides).flatMap Prospect.due).Perm prospect.due
  spares : ∀ earlier ∈ more, ∀ later ∈ (left :: asides).flatMap Prospect.due,
    Spares holds earlier later

/-- A prospect whose chain takes a step continues. -/
theorem exists_continues
    {start pool : Pool}
    {prospect : Prospect world}
    {stride : Stride world}
    (foreseen : stride.IsForeseen prospect.strand.around holds start pool prospect.due
      prospect.terminal) :
    ∃ left asides more, prospect.Continues holds start pool stride left asides more := by
  obtain ⟨⟨party, around, _⟩, awaited, ending⟩ := prospect
  cases foreseen with
  | @quiet chain _ _ _ _ foresees =>
      refine ⟨⟨⟨party, around, chain⟩, awaited, ending⟩, [], [], rfl, rfl, rfl,
        List.forall_mem_singleton.2 foresees, List.pairwise_singleton _ _, rfl, ?_,
        List.forall_mem_nil _⟩
      simp
  | @asks chain statement rest _ _ _ spares foresees =>
      refine ⟨⟨⟨party, around, chain⟩, rest, ending⟩, [], [statement], rfl, rfl, rfl,
        List.forall_mem_singleton.2 foresees, List.pairwise_singleton _ _, rfl, ?_,
        List.forall_mem_singleton.2 ?_⟩
      · simp
      · simpa using spares
  | @detaches chain aside first second asideEnding _ _ _ apart foresees follows =>
      refine ⟨⟨⟨party, around, chain⟩, second, ending⟩,
        [⟨⟨party, around, aside⟩, first, asideEnding⟩], [], rfl, rfl, rfl,
        List.forall_mem_cons.2 ⟨follows, List.forall_mem_singleton.2 foresees⟩,
        List.pairwise_pair.2 fun one isSecond other isFirst =>
          (apart other isFirst one isSecond).symm, rfl, ?_, List.forall_mem_nil _⟩
      simpa using List.perm_append_comm

end Prospect

/-- All strands are foreseen and apart from each other, and what was done so far left everything as
it is expected. -/
structure Weave.IsForeseen (holds : Pool → Prop) (start : Pool) (weave : Weave world)
    (prospects : List (Prospect world)) (done : List Statement) : Prop where
  strands : weave.strands = prospects.map Prospect.strand
  foreseen : ∀ prospect ∈ prospects,
    prospect.strand.chain.Foresees prospect.strand.around holds start prospect.due prospect.terminal
  apart : prospects.Pairwise (Prospect.AreApart holds)
  expects : Pool.Expects holds start weave.pool (prospects.flatMap Prospect.due)
  pool_eq : weave.pool = start.applyAll done

namespace Weave.IsForeseen

variable {holds : Pool → Prop} {start : Pool} {weave : Weave world}
  {prospects before after asides : List (Prospect world)} {prospect left one : Prospect world}
  {done more : List Statement} {stride : Stride world}

/-- A prospect is apart from the others among which it is. -/
theorem apart_of_mem
    (apart : (before ++ prospect :: after).Pairwise (Prospect.AreApart holds))
    (present : one ∈ before ++ after) :
    prospect.AreApart holds one := by
  obtain ⟨_, apartThere, across⟩ := List.pairwise_append.1 apart
  rcases List.mem_append.1 present with isBefore | isAfter
  · exact (across one isBefore prospect List.mem_cons_self).symm
  · exact (List.pairwise_cons.1 apartThere).1 one isAfter

/-- Who is among prospects of which one was replaced is another one, or what replaced the one. -/
theorem mem_replace (present : one ∈ before ++ left :: (after ++ asides)) :
    one ∈ before ++ after ∨ one ∈ left :: asides := by
  simp only [List.mem_append, List.mem_cons] at present ⊢
  rcases present with isBefore | isLeft | isAfter | isAside
  · exact Or.inl (Or.inl isBefore)
  · exact Or.inr (Or.inl isLeft)
  · exact Or.inl (Or.inr isAfter)
  · exact Or.inr (Or.inr isAside)

/-- What is due after a prospect was replaced is, together with what was done, what was due before.
-/
theorem perm_replace
    (due : (more ++ (left :: asides).flatMap Prospect.due).Perm prospect.due) :
    (more ++ (before ++ left :: (after ++ asides)).flatMap Prospect.due).Perm
      ((before ++ prospect :: after).flatMap Prospect.due) := by
  simp only [List.flatMap_append, List.flatMap_cons] at due ⊢
  refine (List.perm_append_comm_assoc _ _ _).trans (List.Perm.append_left _ ?_)
  refine ((List.perm_append_comm.append_left left.due).append_left more).trans ?_
  rw [← List.append_assoc, ← List.append_assoc, List.append_assoc more]
  exact due.append_right _

/-- What replaces a prospect among others is apart from them as the prospect was. -/
theorem apart_replace
    (apart : (before ++ prospect :: after).Pairwise (Prospect.AreApart holds))
    (among : ∀ one ∈ left :: asides, ∀ statement ∈ one.due, statement ∈ prospect.due)
    (leftApart : (left :: asides).Pairwise (Prospect.AreApart holds)) :
    (before ++ left :: (after ++ asides)).Pairwise (Prospect.AreApart holds) := by
  have fromLeft : ∀ one ∈ left :: asides, ∀ other ∈ before ++ after, one.AreApart holds other :=
    fun one isLeft other present => (apart_of_mem apart present).mono (among one isLeft)
  obtain ⟨apartBefore, apartThere, across⟩ := List.pairwise_append.1 apart
  obtain ⟨_, apartAfter⟩ := List.pairwise_cons.1 apartThere
  obtain ⟨fromFirst, apartAsides⟩ := List.pairwise_cons.1 leftApart
  refine List.pairwise_append.2 ⟨apartBefore, List.pairwise_cons.2 ⟨?_, ?_⟩, ?_⟩
  · intro one present
    rcases List.mem_append.1 present with isAfter | isAside
    · exact fromLeft left List.mem_cons_self one (List.mem_append_right before isAfter)
    · exact fromFirst one isAside
  · refine List.pairwise_append.2 ⟨apartAfter, apartAsides, fun one isAfter aside isAside => ?_⟩
    exact (fromLeft aside (List.mem_cons_of_mem left isAside) one
      (List.mem_append_right before isAfter)).symm
  · intro one isBefore other present
    have placed : other ∈ [] ++ left :: (after ++ asides) := present
    rcases mem_replace placed with isAfter | isLeft
    · exact across one isBefore other (List.mem_cons_of_mem prospect isAfter)
    · exact (fromLeft other isLeft one (List.mem_append_left after isBefore)).symm

/-- If a prospect among others continues, everything is foreseen still. -/
theorem advance
    (foreseen : weave.IsForeseen holds start (before ++ prospect :: after) done)
    (continues : prospect.Continues holds start weave.pool stride left asides more) :
    (weave.advance (before.map Prospect.strand) prospect.strand (after.map Prospect.strand)
      stride).IsForeseen holds start (before ++ left :: (after ++ asides)) (done ++ more) := by
  have moreAmong : ∀ statement ∈ more, statement ∈ prospect.due :=
    fun statement present => continues.due.mem_iff.1 (List.mem_append_left _ present)
  have leftAmong : ∀ one ∈ left :: asides, ∀ statement ∈ one.due, statement ∈ prospect.due :=
    fun one isLeft statement present =>
      continues.due.mem_iff.1 (List.mem_append_right _ (List.mem_flatMap.2 ⟨one, isLeft, present⟩))
  constructor
  case strands =>
    simp only [Weave.advance, List.map_append, List.map_cons, continues.strand, continues.aside]
  case foreseen =>
    intro one present
    rcases mem_replace present with isOther | isLeft
    · refine foreseen.foreseen one (List.mem_append.2 ((List.mem_append.1 isOther).imp_right ?_))
      exact List.mem_cons_of_mem prospect
    · exact continues.foresees one isLeft
  case apart => exact apart_replace foreseen.apart leftAmong continues.apart
  case expects =>
    have perm : (more ++ (before ++ left :: (after ++ asides)).flatMap Prospect.due).Perm
        ((before ++ prospect :: after).flatMap Prospect.due) := perm_replace continues.due
    have among : ∀ statement ∈ (before ++ left :: (after ++ asides)).flatMap Prospect.due,
        statement ∈ (before ++ prospect :: after).flatMap Prospect.due :=
      fun statement present => perm.mem_iff.1 (List.mem_append_right _ present)
    have keeps : ∀ statement ∈ more, statement.Keeps holds := fun statement present =>
      foreseen.expects.keeps statement (perm.mem_iff.1 (List.mem_append_left _ present))
    change Pool.Expects holds start stride.pool _
    rw [continues.pool_eq]
    refine (foreseen.expects.mono among).applyAll keeps fun earlier isDone later isDue => ?_
    obtain ⟨one, present, isDueThere⟩ := List.mem_flatMap.1 isDue
    rcases mem_replace present with isOther | isLeft
    · exact (apart_of_mem foreseen.apart isOther earlier (moreAmong earlier isDone) later
        isDueThere).spares
    · exact continues.spares earlier isDone later (List.mem_flatMap.2 ⟨one, isLeft, isDueThere⟩)
  case pool_eq =>
    rw [Pool.applyAll_append, ← foreseen.pool_eq]
    exact continues.pool_eq

/-- After a step everything is foreseen still, what was done and what is due are together the same,
and whoever comes to a terminal comes to the same. -/
theorem step
    (foreseen : weave.IsForeseen holds start prospects done)
    (index : Nat) :
    ∃ prospectsThen doneThen, (weave.step index).IsForeseen holds start prospectsThen doneThen ∧
      (doneThen ++ prospectsThen.flatMap Prospect.due).Perm
        (done ++ prospects.flatMap Prospect.due) ∧
      prospects.map Prospect.terminal <+: prospectsThen.map Prospect.terminal := by
  rcases weave.step_cases index with same | ⟨_, strand, _, stride, parts, isTaken, taken⟩
  · rw [same]
    exact ⟨prospects, done, foreseen, List.Perm.refl _, List.prefix_rfl⟩
  · obtain ⟨before, others, rfl, rfl, isOthers⟩ :=
      List.map_eq_append_iff.1 (foreseen.strands.symm.trans parts)
    obtain ⟨prospect, after, rfl, rfl, rfl⟩ := List.map_eq_cons_iff.1 isOthers
    have isThere : prospect ∈ before ++ prospect :: after :=
      List.mem_append_right before List.mem_cons_self
    have expects : Pool.Expects holds start weave.pool prospect.due :=
      foreseen.expects.mono fun statement isDue => List.mem_flatMap.2 ⟨prospect, isThere, isDue⟩
    obtain ⟨left, asides, more, continues⟩ :=
      Prospect.exists_continues ((foreseen.foreseen prospect isThere).stride expects isTaken)
    rw [taken]
    refine ⟨_, _, foreseen.advance continues, ?_, ?_⟩
    · rw [List.append_assoc]
      exact (perm_replace continues.due).append_left done
    · refine ⟨asides.map Prospect.terminal, ?_⟩
      simp only [List.map_append, List.map_cons, continues.terminal, List.append_assoc,
        List.cons_append]

/-- After a run everything is foreseen still, what was done and what is due are together the same,
and whoever comes to a terminal comes to the same. -/
theorem run
    (foreseen : weave.IsForeseen holds start prospects done)
    (schedule : List Nat) :
    ∃ prospectsThen doneThen, (weave.run schedule).IsForeseen holds start prospectsThen doneThen ∧
      (doneThen ++ prospectsThen.flatMap Prospect.due).Perm
        (done ++ prospects.flatMap Prospect.due) ∧
      prospects.map Prospect.terminal <+: prospectsThen.map Prospect.terminal := by
  induction schedule generalizing weave prospects done with
  | nil => exact ⟨prospects, done, foreseen, List.Perm.refl _, List.prefix_rfl⟩
  | cons index rest inductionHypothesis =>
      obtain ⟨_, _, foreseenNow, permNow, terminalsNow⟩ := foreseen.step index
      obtain ⟨last, doneLast, foreseenLast, permLast, terminalsLast⟩ :=
        inductionHypothesis foreseenNow
      exact ⟨last, doneLast, foreseenLast, permLast.trans permNow, terminalsNow.trans terminalsLast⟩

/-- A chain that has come to its terminal has come to the one that was foreseen, and nothing is due
of it. -/
theorem of_isOver
    (foreseen : weave.IsForeseen holds start prospects done)
    (isOver : weave.isOver = true)
    (present : prospect ∈ prospects) :
    prospect.strand.chain = Chain.respond prospect.terminal ∧ prospect.due = [] := by
  have isThere : prospect.strand ∈ weave.strands :=
    foreseen.strands ▸ List.mem_map_of_mem present
  have strandIsOver : prospect.strand.isOver = true := List.all_eq_true.1 isOver _ isThere
  obtain ⟨⟨party, around, chain⟩, due, terminal⟩ := prospect
  have foresees : chain.Foresees around holds start due terminal := foreseen.foreseen _ present
  cases foresees with
  | respond => exact ⟨rfl, rfl⟩
  | _ => cases strandIsOver

end Weave.IsForeseen

namespace Weave

variable {holds : Pool → Prop} {start : Pool} {chain : Chain world}

/-- What is foreseen of parties that are about to begin is foreseen of their strands. -/
theorem exists_isForeseen_start
    {parties : List (Surroundings world)}
    {due : Surroundings world → List Statement}
    {terminal : Surroundings world → Terminal}
    (foresees : ∀ around ∈ parties,
      chain.Foresees around holds start (due around) (terminal around))
    (apart : parties.Pairwise fun first second =>
      ∀ one ∈ due first, ∀ other ∈ due second, AreApart holds one other)
    (keeps : ∀ statement ∈ parties.flatMap due, statement.Keeps holds)
    (held : holds start) :
    ∃ prospects, (Weave.start start parties chain).IsForeseen holds start prospects [] ∧
      prospects.flatMap Prospect.due = parties.flatMap due ∧
      prospects.map Prospect.terminal = parties.map terminal := by
  let prospect : Surroundings world × Nat → Prospect world := fun (around, party) =>
    { strand := { party, around, chain }, due := due around, terminal := terminal around }
  have areParties : parties.zipIdx.map Prod.fst = parties := List.zipIdx_map_fst 0 parties
  have allDue : (parties.zipIdx.map prospect).flatMap Prospect.due = parties.flatMap due := by
    rw [List.flatMap_map]
    exact (List.flatMap_map Prod.fst due _).symm.trans (congrArg (List.flatMap due) areParties)
  refine ⟨parties.zipIdx.map prospect, ?_, allDue, ?_⟩
  · constructor
    case strands =>
      rw [Weave.start, List.mapIdx_eq_zipIdx_map, List.map_map]
      rfl
    case foreseen =>
      intro one present
      obtain ⟨⟨around, party⟩, isThere, rfl⟩ := List.mem_map.1 present
      exact foresees around (areParties ▸ List.mem_map_of_mem isThere)
    case apart =>
      rw [List.pairwise_map]
      rw [← areParties, List.pairwise_map] at apart
      exact apart
    case expects =>
      rw [allDue]
      exact ⟨held, keeps, fun _ _ => rfl⟩
    case pool_eq => rfl
  · have ofParties : Prospect.terminal ∘ prospect = terminal ∘ Prod.fst := rfl
    rw [List.map_map, ofParties, ← List.map_map, areParties]

/-- Parties of which everything is foreseen, and whose statements are apart from each other, may go
on at the same time: when all have come to their terminals, the statements of all of them were run
in some order, and each party has come to the terminal that was foreseen. -/
theorem exists_perm_of_foresees
    {parties : List (Surroundings world)}
    {due : Surroundings world → List Statement}
    {terminal : Surroundings world → Terminal}
    (foresees : ∀ around ∈ parties,
      chain.Foresees around holds start (due around) (terminal around))
    (apart : parties.Pairwise fun first second =>
      ∀ one ∈ due first, ∀ other ∈ due second, AreApart holds one other)
    (keeps : ∀ statement ∈ parties.flatMap due, statement.Keeps holds)
    (held : holds start)
    {schedule : List Nat}
    (isOver : ((Weave.start start parties chain).run schedule).isOver = true) :
    let last := (Weave.start start parties chain).run schedule
    (∃ done, done.Perm (parties.flatMap due) ∧ last.pool = start.applyAll done) ∧
      (parties.map fun around => Chain.respond (terminal around)) <+:
        last.strands.map Strand.chain := by
  intro last
  obtain ⟨prospects, foreseen, allDue, terminals⟩ :=
    exists_isForeseen_start foresees apart keeps held
  obtain ⟨prospectsThen, done, foreseenThen, perm, isPrefix⟩ := foreseen.run schedule
  have nothingDue : prospectsThen.flatMap Prospect.due = [] :=
    List.flatMap_eq_nil_iff.2 fun prospect present => (foreseenThen.of_isOver isOver present).2
  refine ⟨⟨done, ?_, foreseenThen.pool_eq⟩, ?_⟩
  · rwa [nothingDue, List.append_nil, List.nil_append, allDue] at perm
  · have chains : last.strands.map Strand.chain =
        (prospectsThen.map Prospect.terminal).map Chain.respond := by
      rw [foreseenThen.strands, List.map_map, List.map_map]
      exact List.map_congr_left fun prospect present => (foreseenThen.of_isOver isOver present).1
    rw [terminals] at isPrefix
    rw [chains]
    simpa [List.map_map, Function.comp_def] using isPrefix.map Chain.respond

end Weave

end Screencast
