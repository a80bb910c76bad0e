import Screencast.Proofs.Account.Resolve
import Screencast.Proofs.Effect.Passage
import Screencast.Proofs.Effect.OnTables

/-!
# Chains that stay apart

A captured run shows which tables a chain reads and which ones it writes. A chain that is detached
stays apart from what goes on beside it if neither of them writes a table that the other one uses.
Then it does not matter in which order their steps are taken.
-/

namespace Screencast

/-- What a chain does with a table that others may use at the same time. -/
inductive Access
  | reads (table : String)
  | writes (table : String)
  deriving DecidableEq, Repr

namespace Access

/-- The table that is accessed. -/
def table : Access → String
  | reads table => table
  | writes table => table

/-- Whether an access changes what others find. -/
def changes : Access → Bool
  | reads _ => false
  | writes _ => true

/-- Two accesses clash if they are to the same table and one of them changes it. -/
def Clashes (first second : Access) : Prop :=
  first.table = second.table ∧ (first.changes || second.changes) = true

instance (first second : Access) : Decidable (first.Clashes second) :=
  inferInstanceAs (Decidable (_ ∧ _))

theorem Clashes.symm
    {first second : Access}
    (clashes : first.Clashes second) :
    second.Clashes first :=
  ⟨clashes.1.symm, by rw [Bool.or_comm]; exact clashes.2⟩

/-- No two accesses of these lists clash. -/
def AreApart (first second : List Access) : Prop :=
  ∀ access ∈ first, ∀ other ∈ second, ¬access.Clashes other

instance (first second : List Access) : Decidable (AreApart first second) :=
  inferInstanceAs (Decidable (∀ access ∈ first, ∀ other ∈ second, ¬access.Clashes other))

namespace AreApart

variable {first second fewer others : List Access}

theorem symm (apart : AreApart first second) : AreApart second first :=
  fun access present other isOther clashes => apart other isOther access present clashes.symm

/-- Fewer accesses stay apart. -/
theorem mono
    (apart : AreApart first second)
    (subset : fewer ⊆ first)
    (otherSubset : others ⊆ second) :
    AreApart fewer others :=
  fun access present other isOther =>
    apart access (subset present) other (otherSubset isOther)

theorem writes_not_mem
    {access : Access}
    (apart : AreApart first second)
    (uses : access ∈ second) :
    writes access.table ∉ first :=
  fun written => apart (writes access.table) written access uses ⟨rfl, rfl⟩

end AreApart

end Access

/-- The access of a statement to its table. -/
def Statement.access (statement : Statement) : Access :=
  if statement.isSelect then Access.reads statement.table else Access.writes statement.table

@[simp] theorem Statement.table_access (statement : Statement) :
    statement.access.table = statement.table := by
  unfold access
  split <;> rfl

/-- A statement that writes to a table has the access of a writer. -/
theorem Statement.access_of_writesTo
    {statement : Statement}
    {table : String}
    (writes : statement.writesTo table = true) :
    statement.access = Access.writes table := by
  cases statement with
  | select => cases writes
  | insert | update => exact congrArg Access.writes (of_decide_eq_true writes)

namespace Chain

variable {state stub world : Type}

/-- What a chain and all that it detaches access in a captured run. The session is read from its
tables. -/
def accesses (standIn : StandIn state world) : Chain world → Recording state → List Access
  | respond _, _ => []
  | session _ next, recording =>
    Session.tables.map Access.reads ++ (next standIn.session).accesses standIn recording
  | body _ next, recording => (next standIn.body).accesses standIn recording
  | query _ issued next, recording =>
    let (rows, recording) := recording.query standIn issued.statement
    issued.statement.access :: (next (issued.resolve rows)).accesses standIn recording
  | task _ call next, recording =>
    let (answer, recording) := recording.task standIn call.description
    (next (call.resolve answer)).accesses standIn recording
  | detach aside rest, recording =>
    aside.accesses standIn recording ++
      rest.accesses standIn (aside.capture standIn recording).2
  | ensure guarded _, recording => guarded.accesses standIn recording
  | note event rest, recording => rest.accesses standIn (recording.note event)
  | fresh next, recording =>
    let (id, recording) := recording.draw
    (next id).accesses standIn recording
  | observe next, recording =>
    (next (standIn.world recording.state)).accesses standIn recording

/-- In a captured run, every chain that is detached stays apart from what goes on beside it. -/
def KeepsApart (standIn : StandIn state world) : Chain world → Recording state → Prop
  | respond _, _ => True
  | session _ next, recording => (next standIn.session).KeepsApart standIn recording
  | body _ next, recording => (next standIn.body).KeepsApart standIn recording
  | query _ issued next, recording =>
    let (rows, recording) := recording.query standIn issued.statement
    (next (issued.resolve rows)).KeepsApart standIn recording
  | task _ call next, recording =>
    let (answer, recording) := recording.task standIn call.description
    (next (call.resolve answer)).KeepsApart standIn recording
  | detach aside rest, recording =>
    let between := (aside.capture standIn recording).2
    Access.AreApart (aside.accesses standIn recording) (rest.accesses standIn between) ∧
      aside.KeepsApart standIn recording ∧ rest.KeepsApart standIn between
  | ensure guarded _, recording => guarded.KeepsApart standIn recording
  | note event rest, recording => rest.KeepsApart standIn (recording.note event)
  | fresh next, recording =>
    let (id, recording) := recording.draw
    (next id).KeepsApart standIn recording
  | observe next, recording =>
    (next (standIn.world recording.state)).KeepsApart standIn recording

/-! ## What a captured run leaves alone -/

variable {session : Option Session} {body : Bytes}
  {answer : TaskDescription → stub → Except TaskError Answer × stub} {look : stub → world}

/-- A captured run leaves the tables alone that it does not write. -/
theorem rows_capture_of_not_writes
    {table : String}
    (chain : Chain world)
    (recording : Recording (Pool × stub))
    (spared : Access.writes table ∉
      chain.accesses (StandIn.onTables session body answer look) recording) :
    (chain.capture (StandIn.onTables session body answer look) recording).2.state.1.rows table =
      recording.state.1.rows table := by
  induction chain generalizing recording with
  | respond terminal => rfl
  | session owed next inductionHypothesis =>
      exact inductionHypothesis _ recording (mt (List.mem_append_right _) spared)
  | body owed next inductionHypothesis => exact inductionHypothesis _ recording spared
  | query owed issued next inductionHypothesis =>
      refine (inductionHypothesis _ _ (mt (List.mem_cons_of_mem _) spared)).trans ?_
      refine Pool.rows_apply_of_not_writesTo ?_ recording.state.1
      rw [Bool.eq_false_iff]
      exact fun writes =>
        spared (Statement.access_of_writesTo writes ▸ List.mem_cons_self)
  | task owed call next inductionHypothesis => exact inductionHypothesis _ _ spared
  | detach aside rest asideHypothesis restHypothesis =>
      exact (restHypothesis _ (mt (List.mem_append_right _) spared)).trans
        (asideHypothesis recording (mt (List.mem_append_left _) spared))
  | ensure guarded cleanup inductionHypothesis => exact inductionHypothesis recording spared
  | note event rest inductionHypothesis =>
      exact inductionHypothesis (recording.note event) spared
  | fresh next inductionHypothesis => exact inductionHypothesis _ _ spared
  | observe next inductionHypothesis => exact inductionHypothesis _ recording spared

end Chain

end Screencast
