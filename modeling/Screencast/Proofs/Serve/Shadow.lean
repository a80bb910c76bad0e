import Mathlib.Algebra.GroupWithZero.Nat
import Screencast.Proofs.Effect.Rehearsal
import Screencast.Proofs.Serve.Ensemble
import Screencast.Proofs.Serve.Quiet

/-!
# Threads that follow a rehearsal

Every thread of an ensemble has a point of the rehearsal at which it is, with tables of its own. The
tables that all threads share agree with them as far as the thread is concerned: nobody else changes
what it still accesses. So the thread is handed what the rehearsal foretells, whenever it takes its
next step.
-/

namespace Screencast

namespace Serve

open Http

variable {stub world : Type}

/-- A thread, the point of the rehearsal at which it is, what it has been handed so far, and how
many selections it has come to in order to look up the session there. -/
structure Shadow (stub world : Type) where
  member : Member world
  point : Point stub world
  handed : List (Delivery world)
  used : Nat := 0

namespace Shadow

/-- What will have become of the chain of a thread. -/
def account (rehearsal : Rehearsal stub world) (shadow : Shadow stub world) : Account world where
  source := shadow.member.source
  handed := shadow.handed ++ shadow.point.handed rehearsal
  terminal := shadow.point.terminal rehearsal

/-- What will have become of the chain of a thread and of those that will be detached. -/
def accounts (rehearsal : Rehearsal stub world) (shadow : Shadow stub world) :
    List (Account world) :=
  shadow.account rehearsal :: shadow.point.offspring rehearsal

/-- How much a thread leaves to be done until it has sent its response, and until all that it will
have detached has done so. -/
def rank (rehearsal : Rehearsal stub world) (shadow : Shadow stub world) : Nat :=
  match shadow.member.response with
  | some _ => 0
  | none =>
    -- A step of the rehearsal is worth more than all stages of a query.
    4 * (shadow.point.stepCount rehearsal - shadow.used) + shadow.member.thread.stage.rank

/-- A thread is at its point of the rehearsal, the rest of the rehearsal foretells what it will be
handed, and the shared tables are those of the point wherever the thread will access them. -/
structure IsFaithful (rehearsal : Rehearsal stub world) (files : StaticFiles)
    (shared : Shared world) (shadow : Shadow stub world) : Prop where
  token : shadow.member.thread.scope.token = rehearsal.token
  uncancelled : shadow.member.thread.scope.cancelled = none
  isAt : shadow.member.thread.IsAt rehearsal.session shadow.point.pool shadow.used
    shadow.point.chain
  way : ∃ noted, shadow.member.source.Passage shadow.handed noted
    shadow.member.thread.cleanups shadow.point.chain
  foretold : shadow.point.IsForetold rehearsal shadow.member.thread.scope.body
  keepsApart : shadow.point.KeepsApart rehearsal
  rows : ∀ access ∈ shadow.point.accesses rehearsal,
    shared.pool.rows access.table = shadow.point.pool.rows access.table
  response : ∀ response, shadow.member.response = some response →
    ∃ terminal, shadow.point.chain = Chain.respond terminal ∧
      response = (Response.ofTerminal files terminal).1

/-- As far as these threads are concerned, a table will come to have the given rows: it will if one
of them still writes it, and it has them otherwise. -/
def HeadsFor (rehearsal : Rehearsal stub world) (shadows : List (Shadow stub world))
    (shared : Shared world) (table : String) (rows : List Row) : Prop :=
  (∀ shadow ∈ shadows, Access.writes table ∈ shadow.point.accesses rehearsal →
    (shadow.point.left rehearsal).rows table = rows) ∧
  ((∀ shadow ∈ shadows, Access.writes table ∉ shadow.point.accesses rehearsal) →
    shared.pool.rows table = rows)

/-- A step of a thread leaves it and what it detaches at points of the rehearsal from which the same
can be told as before, and it changes only what the thread was to change. Less is left to be
done. -/
structure Advances (rehearsal : Rehearsal stub world) (files : StaticFiles)
    (shadow : Shadow stub world) (before : Shared world) (arriving : List (Shadow stub world))
    (after : Shared world) : Prop where
  faithful : ∀ next ∈ arriving, next.IsFaithful rehearsal files after
  subset : ∀ next ∈ arriving, next.point.accesses rehearsal ⊆ shadow.point.accesses rehearsal
  apart : arriving.Pairwise fun first second =>
    Access.AreApart (first.point.accesses rehearsal) (second.point.accesses rehearsal)
  accounts : (arriving.flatMap (accounts rehearsal)).Perm (shadow.accounts rehearsal)
  rows : ∀ table, Access.writes table ∉ shadow.point.accesses rehearsal →
    after.pool.rows table = before.pool.rows table
  headsFor : ∀ table, Access.writes table ∈ shadow.point.accesses rehearsal →
    HeadsFor rehearsal arriving after table ((shadow.point.left rehearsal).rows table)
  rank : (arriving.map (rank rehearsal)).sum < shadow.rank rehearsal

variable {rehearsal : Rehearsal stub world} {files : StaticFiles} {shadow next : Shadow stub world}
  {before after : Shared world}

/-! ## One thread that goes on -/

/-- A thread that goes on alone advances if it stays faithful, and the tables that it was to write
are as at its new point. -/
theorem advances_singleton
    (faithful : next.IsFaithful rehearsal files after)
    (subset : next.point.accesses rehearsal ⊆ shadow.point.accesses rehearsal)
    (accounts : next.accounts rehearsal = shadow.accounts rehearsal)
    (left : next.point.left rehearsal = shadow.point.left rehearsal)
    (rows : ∀ table, Access.writes table ∉ shadow.point.accesses rehearsal →
      after.pool.rows table = before.pool.rows table)
    (agree : ∀ table, Access.writes table ∈ shadow.point.accesses rehearsal →
      after.pool.rows table = next.point.pool.rows table)
    (rank : next.rank rehearsal < shadow.rank rehearsal) :
    shadow.Advances rehearsal files before [next] after where
  faithful := List.forall_mem_singleton.2 faithful
  subset := List.forall_mem_singleton.2 subset
  apart := List.pairwise_singleton _ _
  accounts := by simp [accounts]
  rows := rows
  headsFor := by
    refine fun table writes => ⟨List.forall_mem_singleton.2 fun _ => by rw [left], ?_⟩
    intro writesNoMore
    rw [agree table writes, ← left]
    exact (Point.rows_left_of_not_writes (writesNoMore next List.mem_cons_self)).symm
  rank := by simpa using rank

/-- A thread that takes a step of the rehearsal advances, if the shared tables go on to agree with
those of the rehearsal. -/
theorem advances_of_leadsTo
    {given : List (Delivery world)}
    {told : List Event}
    {opened : List Cleanup}
    {first : List Access}
    {count : Nat}
    {point : Point stub world}
    {thread : Thread world}
    (faithful : shadow.IsFaithful rehearsal files before)
    (isOpen : shadow.member.response = none)
    (leads : shadow.point.LeadsTo rehearsal given told opened first count point)
    (isLess : shadow.used < count)
    (scope : thread.scope = shadow.member.thread.scope)
    (cleanups : thread.cleanups = opened ++ shadow.member.thread.cleanups)
    (isAhead : thread.ahead = point.chain)
    (foretold : point.IsForetold rehearsal shadow.member.thread.scope.body)
    (rows : ∀ table, Access.writes table ∉ first →
      after.pool.rows table = before.pool.rows table)
    (sameRows : ∀ table, before.pool.rows table = shadow.point.pool.rows table →
      after.pool.rows table = point.pool.rows table) :
    shadow.Advances rehearsal files before
      [{ member := { shadow.member with thread }, point, handed := shadow.handed ++ given }]
      after := by
  have accesses := leads.accesses
  have subset : point.accesses rehearsal ⊆ shadow.point.accesses rehearsal := by
    rw [accesses]
    exact List.subset_append_right _ _
  have isFirst {access : Access} (absent : access ∉ shadow.point.accesses rehearsal) :
      access ∉ first := by
    rw [accesses] at absent
    exact mt (List.mem_append_left _) absent
  obtain ⟨noted, way⟩ := faithful.way
  apply advances_singleton
  case faithful =>
    constructor
    case token => exact (congrArg Scope.token scope).trans faithful.token
    case uncancelled => exact (congrArg Scope.cancelled scope).trans faithful.uncancelled
    case isAt => exact Thread.IsAt.here isAhead rfl
    case way =>
      refine ⟨noted ++ told, ?_⟩
      dsimp only
      rw [cleanups]
      exact way.step leads.takes
    case foretold => exact scope ▸ foretold
    case keepsApart => exact leads.keepsApart ▸ faithful.keepsApart
    case rows =>
      exact fun access present => sameRows access.table (faithful.rows access (subset present))
    case response =>
      intro response isOver
      rw [isOpen] at isOver
      cases isOver
  case subset => exact subset
  case accounts =>
    simp only [accounts, account, leads.handed, leads.terminal, leads.offspring, List.append_assoc]
  case left => exact leads.left.symm
  case rows => exact fun table absent => rows table (isFirst absent)
  case agree => exact fun table writes => sameRows table (faithful.rows _ writes)
  case rank =>
    have atMost := thread.stage.rank_pos_and_le.2
    have atLeast := shadow.member.thread.stage.rank_pos_and_le.1
    simp only [rank, isOpen, leads.stepCount]
    omega

/-- A thread that stays at its point advances if nothing changes but connections. -/
theorem advances_of_stays
    {thread : Thread world}
    {response : Option Response}
    {used : Nat}
    (faithful : shadow.IsFaithful rehearsal files before)
    (scope : thread.scope = shadow.member.thread.scope)
    (cleanups : thread.cleanups = shadow.member.thread.cleanups)
    (isAt : thread.IsAt rehearsal.session shadow.point.pool used shadow.point.chain)
    (stays : before.Stays after)
    (isResponse : ∀ sent, response = some sent →
      ∃ terminal, shadow.point.chain = Chain.respond terminal ∧
        sent = (Response.ofTerminal files terminal).1)
    (isLess :
      rank rehearsal { shadow with member := { shadow.member with thread, response }, used } <
        shadow.rank rehearsal) :
    shadow.Advances rehearsal files before
      [{ shadow with member := { shadow.member with thread, response }, used }] after := by
  have sameRows (table : String) : after.pool.rows table = before.pool.rows table :=
    stays.rows table
  obtain ⟨noted, way⟩ := faithful.way
  apply advances_singleton
  case faithful =>
    constructor
    case token => exact (congrArg Scope.token scope).trans faithful.token
    case uncancelled => exact (congrArg Scope.cancelled scope).trans faithful.uncancelled
    case isAt => exact isAt
    case way => exact ⟨noted, cleanups ▸ way⟩
    case foretold => exact scope ▸ faithful.foretold
    case keepsApart => exact faithful.keepsApart
    case rows =>
      exact fun access present => (sameRows access.table).trans (faithful.rows access present)
    case response => exact isResponse
  case subset => exact List.Subset.refl _
  case accounts => rfl
  case left => rfl
  case rows => exact fun table _ => sameRows table
  case agree => exact fun table writes => (sameRows table).trans (faithful.rows _ writes)
  case rank => exact isLess

/-! ## A thread that detaches a chain -/

section Detach

/-- A thread that goes on beside the chain that it has detached. -/
def beside (rehearsal : Rehearsal stub world) (member : Member world) (aside rest : Chain world)
    (recording : Recording (Pool × stub)) (handed : List (Delivery world)) : Shadow stub world where
  member := { member with thread := { member.thread with chain := rest, stage := Stage.idle } }
  point := Point.beside rehearsal { chain := aside, recording } rest
  handed := handed

/-- The thread of the chain that was detached. -/
def detached (member : Member world) (aside : Chain world) (recording : Recording (Pool × stub)) :
    Shadow stub world where
  member := Member.starting { chain := aside, scope := member.thread.scope.detached }
  point := { chain := aside, recording }
  handed := []

variable {member : Member world} {aside rest : Chain world} {recording : Recording (Pool × stub)}
  {handed : List (Delivery world)}

/-- A thread goes on to be faithful beside the chain that it has detached: what the chain will have
done by then in the rehearsal makes no difference to the thread. -/
theorem IsFaithful.beside
    (faithful : IsFaithful rehearsal files before
      { member, point := { chain := Chain.detach aside rest, recording }, handed })
    (isOpen : member.response = none) :
    (beside rehearsal member aside rest recording handed).IsFaithful rehearsal files before := by
  obtain ⟨apart, _, restApart⟩ := faithful.keepsApart
  obtain ⟨noted, way⟩ := faithful.way
  have further := way.step (Chain.Takes.detach aside rest)
  rw [List.append_nil, List.append_nil] at further
  constructor
  case token => exact faithful.token
  case uncancelled => exact faithful.uncancelled
  case isAt => exact Thread.IsAt.here (Thread.ahead_of_isIdle rfl) rfl
  case way => exact ⟨noted, further⟩
  case foretold => exact faithful.foretold.2
  case keepsApart => exact restApart
  case rows =>
    intro access present
    rw [faithful.rows access (List.mem_append_right _ present)]
    have asideSpares := apart.writes_not_mem present
    exact (aside.rows_capture_of_not_writes recording asideSpares).symm
  case response => exact fun response isOver => absurd (isOpen.symm.trans isOver) nofun

/-- The thread of the chain that was detached is faithful. -/
theorem IsFaithful.detached
    (faithful : IsFaithful rehearsal files before
      { member, point := { chain := Chain.detach aside rest, recording }, handed }) :
    (detached member aside recording).IsFaithful rehearsal files before where
  token := faithful.token
  uncancelled := rfl
  isAt := Thread.IsAt.here (Thread.ahead_of_isIdle rfl) rfl
  way := ⟨[], Chain.Passage.start⟩
  foretold := faithful.foretold.1
  keepsApart := faithful.keepsApart.2.1
  rows := fun access present => faithful.rows access (List.mem_append_left _ present)
  response := fun _ isOver => absurd isOver nofun

/-- A thread that detaches a chain advances, and so does the thread of the detached chain. -/
theorem advances_of_detach
    (faithful : IsFaithful rehearsal files before
      { member, point := { chain := Chain.detach aside rest, recording }, handed })
    (isOpen : member.response = none)
    (isIdle : member.thread.stage = Stage.idle) :
    Advances rehearsal files
      { member, point := { chain := Chain.detach aside rest, recording }, handed } before
      [beside rehearsal member aside rest recording handed, detached member aside recording]
      before := by
  let asidePoint : Point stub world := { chain := aside, recording }
  let restPoint := asidePoint.beside rehearsal rest
  have apart : Access.AreApart (asidePoint.accesses rehearsal) (restPoint.accesses rehearsal) :=
    faithful.keepsApart.1
  constructor
  case faithful =>
    exact List.forall_mem_cons.2
      ⟨faithful.beside isOpen, List.forall_mem_singleton.2 faithful.detached⟩
  case subset =>
    exact List.forall_mem_cons.2 ⟨List.subset_append_right _ _,
      List.forall_mem_singleton.2 (List.subset_append_left _ _)⟩
  case apart =>
    exact List.Pairwise.cons (List.forall_mem_singleton.2 apart.symm) (List.pairwise_singleton _ _)
  case accounts =>
    let asideAccounts :=
      aside.account rehearsal.standIn recording :: asidePoint.offspring rehearsal
    have together : (restPoint.offspring rehearsal ++ (asideAccounts ++ [])).Perm
        (asideAccounts ++ restPoint.offspring rehearsal) := by
      rw [List.append_nil]
      exact List.perm_append_comm
    exact together.cons _
  case rows => exact fun _ _ => rfl
  case headsFor =>
    intro table writes
    refine ⟨?_, fun noneWrites => ?_⟩
    · refine List.forall_mem_cons.2
        ⟨fun _ => rfl, List.forall_mem_singleton.2 fun asideWrites => ?_⟩
      have restSpares := apart.symm.writes_not_mem asideWrites
      exact (Point.rows_left_of_not_writes restSpares).symm
    · obtain ⟨restSpares, asideSpares⟩ := List.forall_mem_cons.1 noneWrites
      rcases List.mem_append.1 writes with asideWrites | restWrites
      · exact absurd asideWrites (asideSpares _ List.mem_cons_self)
      · exact absurd restWrites restSpares
  case rank =>
    simp only [List.map_cons, List.map_nil, List.sum_cons, List.sum_nil, rank, isOpen, isIdle,
      beside, detached, Member.starting, Stage.rank, Point.stepCount_detach]
    omega

end Detach

end Shadow

end Serve

end Screencast
