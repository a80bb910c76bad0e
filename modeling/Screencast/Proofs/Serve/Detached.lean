import Mathlib.Data.List.Perm.Basic
import Screencast.Proofs.Serve.Steps

/-!
# Detached chains on a server and in a rehearsal

The threads of a request are handed what the rehearsal foretells, in whatever order they take their
steps. When all of them have sent their responses, the tables are those that the rehearsal left.
-/

namespace Screencast

namespace Serve

open Http

variable {stub world : Type}

/-- A thread follows an account: it was started with the chain of the account, it has been handed a
part of what the account tells, and it has come to what is left of its chain then. When it has sent
its response, it has been handed everything, and the response is for the terminal of the account. -/
structure Member.Follows (session : Option Session) (files : StaticFiles)
    (member : Member world) (account : Account world) : Prop where
  source : member.source = account.source
  way : ∃ handed rest noted point pool used,
    account.handed = handed ++ rest ∧
      member.source.Passage handed noted member.thread.cleanups point ∧
        member.thread.IsAt session pool used point ∧ (member.response ≠ none → rest = [])
  response : ∀ response, member.response = some response →
    response = (Response.ofTerminal files account.terminal).1

/-- A thread that is faithful to a rehearsal follows the account of its chain. -/
theorem Shadow.IsFaithful.follows
    {rehearsal : Rehearsal stub world}
    {files : StaticFiles}
    {shared : Shared world}
    {shadow : Shadow stub world}
    (faithful : shadow.IsFaithful rehearsal files shared) :
    shadow.member.Follows rehearsal.session files (shadow.account rehearsal) := by
  obtain ⟨noted, way⟩ := faithful.way
  constructor
  case source => rfl
  case way =>
    refine ⟨shadow.handed, shadow.point.handed rehearsal, noted, shadow.point.chain,
      shadow.point.pool, shadow.used, rfl, way, faithful.isAt, fun isOver => ?_⟩
    obtain ⟨response, sent⟩ := Option.ne_none_iff_exists'.1 isOver
    obtain ⟨terminal, atEnd, _⟩ := faithful.response response sent
    unfold Point.handed
    rw [atEnd]
    rfl
  case response =>
    intro response sent
    obtain ⟨terminal, atEnd, rfl⟩ := faithful.response response sent
    unfold account Point.terminal
    rw [atEnd]
    rfl

namespace Ensemble

/-- An ensemble is under way from a point of a rehearsal: all its threads are at points of it, and
stay apart from each other; together they will give the accounts and leave the tables that the
rehearsal foretold at first. -/
structure UnderWay (rehearsal : Rehearsal stub world) (setup : Setup world)
    (start : Point stub world) (ensemble : Ensemble world) (shadows : List (Shadow stub world)) :
    Prop where
  members : ensemble.members.Perm (shadows.map Shadow.member)
  quiet : ensemble.shared.IsQuiet rehearsal.mayBe
  faithful : ∀ shadow ∈ shadows, shadow.IsFaithful rehearsal setup.files ensemble.shared
  apart : shadows.Pairwise fun first second =>
    Access.AreApart (first.point.accesses rehearsal) (second.point.accesses rehearsal)
  accounts : (shadows.flatMap (Shadow.accounts rehearsal)).Perm
    (start.chain.account rehearsal.standIn start.recording :: start.offspring rehearsal)
  headsFor : ∀ table,
    Shadow.HeadsFor rehearsal shadows ensemble.shared table ((start.left rehearsal).rows table)

namespace UnderWay

variable {rehearsal : Rehearsal stub world} {setup : Setup world} {start : Point stub world}
  {ensemble after : Ensemble world} {shadow : Shadow stub world}
  {shadows others arriving : List (Shadow stub world)}

/-- It does not matter in which order the threads are named. -/
theorem perm
    (underWay : UnderWay rehearsal setup start ensemble shadows)
    (same : shadows.Perm others) :
    UnderWay rehearsal setup start ensemble others where
  members := underWay.members.trans (same.map Shadow.member)
  quiet := underWay.quiet
  faithful := fun shadow present => underWay.faithful shadow (same.mem_iff.2 present)
  apart := (same.pairwise_iff Access.AreApart.symm).1 underWay.apart
  accounts := (same.flatMap_right (Shadow.accounts rehearsal)).symm.trans underWay.accounts
  headsFor := by
    intro table
    obtain ⟨writers, settled⟩ := underWay.headsFor table
    exact ⟨fun shadow present => writers shadow (same.mem_iff.2 present),
      fun spared => settled fun shadow present => spared shadow (same.mem_iff.1 present)⟩

/-- A thread that takes a step has a shadow. -/
theorem exists_shadow
    {member : Member world}
    {rest : List (Member world)}
    (underWay : UnderWay rehearsal setup start ensemble shadows)
    (isOne : ensemble.members.Perm (member :: rest)) :
    ∃ shadow others, shadows.Perm (shadow :: others) ∧
      shadow.member = member ∧ rest.Perm (others.map Shadow.member) := by
  have together := underWay.members.symm.trans isOne
  obtain ⟨shadow, present, rfl⟩ := List.mem_map.1 (together.mem_iff.2 List.mem_cons_self)
  obtain ⟨before, after, rfl⟩ := List.append_of_mem present
  have toFront : (before ++ shadow :: after).Perm (shadow :: (before ++ after)) :=
    List.perm_middle
  refine ⟨shadow, before ++ after, toFront, rfl, ?_⟩
  exact (together.symm.trans (toFront.map Shadow.member)).cons_inv

/-- Threads may take the place of one that advances to them. -/
theorem replace
    {members : List (Member world)}
    {shared : Shared world}
    (underWay : UnderWay rehearsal setup start ensemble (shadow :: others))
    (advances : shadow.Advances rehearsal setup.files ensemble.shared arriving shared)
    (quiet : shared.IsQuiet rehearsal.mayBe)
    (perm : members.Perm ((arriving ++ others).map Shadow.member)) :
    UnderWay rehearsal setup start { shared, members } (arriving ++ others) := by
  obtain ⟨apartOthers, othersApart⟩ := List.pairwise_cons.1 underWay.apart
  constructor
  case members => exact perm
  case quiet => exact quiet
  case faithful =>
    intro next present
    rcases List.mem_append.1 present with arrived | stayed
    · exact advances.faithful next arrived
    · have faithful := underWay.faithful next (List.mem_cons_of_mem _ stayed)
      have apart := apartOthers next stayed
      exact
        { faithful with
          rows := fun access accessed =>
            (advances.rows access.table (apart.writes_not_mem accessed)).trans
              (faithful.rows access accessed) }
  case apart =>
    refine List.pairwise_append.2 ⟨advances.apart, othersApart, fun next arrived other stayed => ?_⟩
    exact (apartOthers other stayed).mono (advances.subset next arrived) (List.Subset.refl _)
  case accounts =>
    have before := underWay.accounts
    rw [List.flatMap_cons] at before
    rw [List.flatMap_append]
    exact (advances.accounts.append_right _).trans before
  case headsFor =>
    intro table
    obtain ⟨writers, settled⟩ := underWay.headsFor table
    by_cases writes : Access.writes table ∈ shadow.point.accesses rehearsal
    · -- Nobody else writes the table, and it heads for what the thread was to make of it.
      obtain ⟨arrivingWriters, arrivingSettled⟩ := advances.headsFor table writes
      rw [writers shadow List.mem_cons_self writes] at arrivingWriters arrivingSettled
      refine ⟨fun next present nextWrites => ?_, fun spared => ?_⟩
      · rcases List.mem_append.1 present with arrived | stayed
        · exact arrivingWriters next arrived nextWrites
        · exact absurd writes ((apartOthers next stayed).writes_not_mem nextWrites)
      · exact arrivingSettled fun next arrived => spared next (List.mem_append_left _ arrived)
    · rw [Shadow.HeadsFor, advances.rows table writes]
      refine ⟨fun next present nextWrites => ?_, fun spared => settled ?_⟩
      · rcases List.mem_append.1 present with arrived | stayed
        · exact absurd (advances.subset next arrived nextWrites) writes
        · exact writers next (List.mem_cons_of_mem _ stayed) nextWrites
      · exact List.forall_mem_cons.2
          ⟨writes, fun next stayed => spared next (List.mem_append_right _ stayed)⟩

/-- Less is left to be done when threads have taken the place of one that advances to them. -/
theorem sum_rank_lt
    {shared : Shared world}
    (advances : shadow.Advances rehearsal setup.files ensemble.shared arriving shared)
    (toFront : shadows.Perm (shadow :: others)) :
    ((arriving ++ others).map (Shadow.rank rehearsal)).sum <
      (shadows.map (Shadow.rank rehearsal)).sum := by
  have isLess := advances.rank
  rw [(toFront.map (Shadow.rank rehearsal)).sum_nat, List.map_append, List.sum_append,
    List.map_cons, List.sum_cons]
  omega

/-- Every move keeps an ensemble under way, and leaves less to be done. -/
theorem of_move
    (underWay : UnderWay rehearsal setup start ensemble shadows)
    (balanced : ensemble.IsBalanced)
    (resolver : setup.resolver = Session.resolve)
    (noLimit : setup.taskTimeoutMillis = none)
    (move : Move setup ensemble after) :
    ∃ next, UnderWay rehearsal setup start after next ∧
      (next.map (Shadow.rank rehearsal)).sum < (shadows.map (Shadow.rank rehearsal)).sum := by
  cases move with
  | @goesOn member others thread asides isOne isOpen mayGo left =>
      obtain ⟨shadow, rest, toFront, rfl, stay⟩ := underWay.exists_shadow isOne
      have underWay := underWay.perm toFront
      have orderly := balanced.orderly _ (isOne.mem_iff.2 List.mem_cons_self)
      have faithful := underWay.faithful shadow List.mem_cons_self
      cases faithful.steps underWay.quiet isOpen mayGo orderly resolver noLimit with
      | goesOn leaves arrive advances quiet =>
          obtain ⟨rfl, rfl⟩ := List.cons.inj (left.symm.trans leaves)
          refine ⟨_, underWay.replace advances quiet ?_, sum_rank_lt advances toFront⟩
          rw [List.map_append, arrive]
          exact stay.append_left _
      | ends finished sends advances quiet =>
          rw [finished] at left
          cases left
  | @ends member others response isOne isOpen mayGo finished =>
      obtain ⟨shadow, rest, toFront, rfl, stay⟩ := underWay.exists_shadow isOne
      have underWay := underWay.perm toFront
      have orderly := balanced.orderly _ (isOne.mem_iff.2 List.mem_cons_self)
      have faithful := underWay.faithful shadow List.mem_cons_self
      cases faithful.steps underWay.quiet isOpen mayGo orderly resolver noLimit with
      | goesOn leaves arrive advances quiet =>
          rw [finished] at leaves
          cases leaves
      | ends ended sends advances quiet =>
          obtain rfl := Progress.finished.inj (finished.symm.trans ended)
          refine ⟨_, underWay.replace advances quiet ?_, sum_rank_lt advances toFront⟩
          rw [List.singleton_append, List.map_cons, sends]
          exact stay.cons _

/-- No thread of an ensemble that is under way comes to a halt. -/
theorem ne_stuck
    {member : Member world}
    (underWay : UnderWay rehearsal setup start ensemble shadows)
    (balanced : ensemble.IsBalanced)
    (resolver : setup.resolver = Session.resolve)
    (noLimit : setup.taskTimeoutMillis = none)
    (present : member ∈ ensemble.members)
    (isOpen : member.response = none)
    (mayGo : member.mustWait ensemble.shared = false) :
    (member.thread.step setup ensemble.shared).1 ≠ Progress.stuck := by
  intro isStuck
  obtain ⟨shadow, isShadow, rfl⟩ := List.mem_map.1 (underWay.members.mem_iff.1 present)
  have faithful := underWay.faithful shadow isShadow
  have orderly := balanced.orderly _ present
  cases faithful.steps underWay.quiet isOpen mayGo orderly resolver noLimit with
  | goesOn leaves =>
      rw [isStuck] at leaves
      cases leaves
  | ends finished =>
      rw [isStuck] at finished
      cases finished

/-- When an ensemble is over, its threads have come to the ends of what was foretold for them, and
nothing is left to be detached. -/
theorem point_of_isOver
    (underWay : UnderWay rehearsal setup start ensemble shadows)
    (isOver : ensemble.IsOver)
    (present : shadow ∈ shadows) :
    ∃ terminal, shadow.point.chain = Chain.respond terminal ∧
      shadow.member.response = some (Response.ofTerminal setup.files terminal).1 := by
  have isMember := underWay.members.mem_iff.2 (List.mem_map_of_mem present)
  obtain ⟨response, sent⟩ := Option.ne_none_iff_exists'.1 (isOver _ isMember)
  obtain ⟨terminal, atEnd, rfl⟩ := (underWay.faithful shadow present).response response sent
  exact ⟨terminal, atEnd, sent⟩

/-- When an ensemble is over, the tables are those that the rehearsal left. -/
theorem rows_of_isOver
    (underWay : UnderWay rehearsal setup start ensemble shadows)
    (isOver : ensemble.IsOver)
    (table : String) :
    ensemble.shared.pool.rows table = (start.left rehearsal).rows table := by
  refine (underWay.headsFor table).2 fun shadow present => ?_
  obtain ⟨terminal, atEnd, _⟩ := underWay.point_of_isOver isOver present
  unfold Point.accesses
  rw [atEnd]
  exact List.not_mem_nil

/-- At first, a thread is alone with its rehearsal. -/
theorem starting
    {chain : Chain world}
    {scope : Scope}
    {recording : Recording (Pool × stub)}
    {shared : Shared world}
    (token : scope.token = rehearsal.token)
    (uncancelled : scope.cancelled = none)
    (foretold : chain.IsForetold rehearsal.standIn rehearsal.token rehearsal.mayBe scope.body
      recording)
    (apart : chain.KeepsApart rehearsal.standIn recording)
    (rows : ∀ table, shared.pool.rows table = recording.state.1.rows table)
    (quiet : shared.IsQuiet rehearsal.mayBe) :
    UnderWay rehearsal setup { chain, recording } (Ensemble.starting shared { chain, scope })
      [{ member := Member.starting { chain, scope }, point := { chain, recording }
         handed := [] }] := by
  constructor
  case members => exact List.Perm.refl _
  case quiet => exact quiet
  case faithful =>
    refine List.forall_mem_singleton.2 ?_
    constructor
    case token => exact token
    case uncancelled => exact uncancelled
    case isAt => exact Thread.IsAt.here (Thread.ahead_of_isIdle rfl) rfl
    case way => exact ⟨[], Chain.Passage.start⟩
    case foretold => exact foretold
    case keepsApart => exact apart
    case rows => exact fun access _ => rows access.table
    case response => exact fun response isOver => absurd isOver nofun
  case apart => exact List.pairwise_singleton _ _
  case accounts =>
    rw [List.flatMap_singleton]
    exact List.Perm.refl _
  case headsFor =>
    refine fun table => ⟨List.forall_mem_singleton.2 fun _ => rfl, fun spared => ?_⟩
    have untouched := Point.rows_left_of_not_writes (spared _ List.mem_cons_self)
    exact (rows table).trans untouched.symm

/-- An ensemble stays under way while time passes. -/
theorem of_passes
    {shared : Shared world}
    (underWay : UnderWay rehearsal setup start ensemble shadows)
    (passes : ensemble.shared.Passes shared) :
    UnderWay rehearsal setup start { ensemble with shared } shadows := by
  obtain ⟨clock, journal, rfl⟩ := passes
  have quiet := underWay.quiet
  constructor
  case members => exact underWay.members
  case quiet => exact ⟨quiet.faults, quiet.planned, quiet.patient, quiet.world⟩
  case faithful =>
    intro shadow present
    have faithful := underWay.faithful shadow present
    exact { faithful with rows := faithful.rows }
  case apart => exact underWay.apart
  case accounts => exact underWay.accounts
  case headsFor => exact underWay.headsFor

/-- An ensemble that has come somewhere in so many moves is still under way, and as much has been
done as there were moves. -/
theorem of_run
    {begin : Ensemble world}
    {count : Nat}
    (underWay : UnderWay rehearsal setup start begin shadows)
    (balanced : begin.IsBalanced)
    (resolver : setup.resolver = Session.resolve)
    (noLimit : setup.taskTimeoutMillis = none)
    (run : Run setup begin count ensemble) :
    ∃ next, UnderWay rehearsal setup start ensemble next ∧
      count + (next.map (Shadow.rank rehearsal)).sum ≤
        (shadows.map (Shadow.rank rehearsal)).sum := by
  induction run with
  | refl => exact ⟨shadows, underWay, Nat.le_of_eq (Nat.zero_add _)⟩
  | move run move inductionHypothesis =>
      obtain ⟨next, underWay, done⟩ := inductionHypothesis
      obtain ⟨last, underWay, isLess⟩ :=
        underWay.of_move (balanced.of_run run) resolver noLimit move
      exact ⟨last, underWay, by omega⟩
  | passes run passes inductionHypothesis =>
      obtain ⟨next, underWay, done⟩ := inductionHypothesis
      exact ⟨next, underWay.of_passes passes, done⟩

end UnderWay

/-! ## What is seen of a run -/

/-- An ensemble agrees with a rehearsal: its threads follow accounts of the rehearsal, each of them
another one. When all threads have sent their responses, all accounts have been followed, and the
tables are those that the rehearsal left. -/
structure Agrees (rehearsal : Rehearsal stub world) (files : StaticFiles) (start : Point stub world)
    (ensemble : Ensemble world) : Prop where
  accounts : ∃ begun later,
    (begun ++ later).Perm
        (start.chain.account rehearsal.standIn start.recording :: start.offspring rehearsal) ∧
      List.Forall₂ (Member.Follows rehearsal.session files) ensemble.members begun ∧
        (ensemble.IsOver → later = [])
  rows : ensemble.IsOver → ∀ table,
    ensemble.shared.pool.rows table = (start.left rehearsal).rows table

/-- When all threads have sent their responses, each account is followed by one of them. -/
theorem Agrees.exists_follows
    {rehearsal : Rehearsal stub world}
    {files : StaticFiles}
    {start : Point stub world}
    {ensemble : Ensemble world}
    {account : Account world}
    (agrees : ensemble.Agrees rehearsal files start)
    (isOver : ensemble.IsOver)
    (isAccount : account ∈
      start.chain.account rehearsal.standIn start.recording :: start.offspring rehearsal) :
    ∃ member ∈ ensemble.members, member.Follows rehearsal.session files account := by
  obtain ⟨begun, later, together, follow, allBegun⟩ := agrees.accounts
  rw [allBegun isOver, List.append_nil] at together
  obtain ⟨index, isIndex, rfl⟩ := List.mem_iff_getElem.1 (together.mem_iff.2 isAccount)
  have isMember : index < ensemble.members.length := follow.length_eq ▸ isIndex
  exact ⟨ensemble.members[index], List.getElem_mem isMember, follow.get isMember isIndex⟩

/-- As long as an ensemble is under way, it agrees with its rehearsal. -/
theorem UnderWay.agrees
    {rehearsal : Rehearsal stub world}
    {setup : Setup world}
    {start : Point stub world}
    {ensemble : Ensemble world}
    {shadows : List (Shadow stub world)}
    (underWay : UnderWay rehearsal setup start ensemble shadows) :
    ensemble.Agrees rehearsal setup.files start := by
  have follow : List.Forall₂ (Member.Follows rehearsal.session setup.files)
      (shadows.map Shadow.member) (shadows.map (Shadow.account rehearsal)) := by
    rw [List.forall₂_map_left_iff, List.forall₂_map_right_iff, List.forall₂_same]
    exact fun shadow present => (underWay.faithful shadow present).follows
  obtain ⟨begun, follows, same⟩ := List.perm_comp_forall₂ underWay.members follow
  constructor
  case accounts =>
    let later := shadows.flatMap fun shadow => shadow.point.offspring rehearsal
    refine ⟨begun, later, ?_, follows, fun isOver => ?_⟩
    · have together := shadows.map_append_flatMap_perm (Shadow.account rehearsal) fun shadow =>
        shadow.point.offspring rehearsal
      exact ((same.append_right later).trans together).trans underWay.accounts
    · refine List.flatMap_eq_nil_iff.2 fun shadow present => ?_
      obtain ⟨terminal, atEnd, _⟩ := underWay.point_of_isOver isOver present
      unfold Point.offspring
      rw [atEnd]
      rfl
  case rows => exact fun isOver table => underWay.rows_of_isOver isOver table

end Ensemble

end Serve

end Screencast
