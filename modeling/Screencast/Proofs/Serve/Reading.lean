import Screencast.Proofs.Effect.Finds
import Screencast.Proofs.Serve.Agreement

/-!
# Requests that only read

A chain that looks up the visitor, asks for rows and looks at the world outside, and then answers,
is followed by a server to its response. What it comes to and how many steps that takes is a
predicate with one rule for each kind of step, so that the proofs about a page never open the
server.
-/

namespace Screencast

namespace Chain

variable {world : Type} {pool : Pool} {visitor : Option Session} {seen : world}

/-- With a visitor, on the tables of a pool and in sight of a world, a chain reads what it needs and
comes to a terminal, for which a server takes at most so many steps. -/
inductive Reads (pool : Pool) (visitor : Option Session) (seen : world) :
    Nat → Chain world → Terminal → Prop
  | respond (most : Nat) (terminal : Terminal) :
      Reads pool visitor seen (most + 1) (respond terminal) terminal
  | session {most : Nat} {owed : List Cleanup} {next : Option Session → Chain world}
      {terminal : Terminal}
      (reads : Reads pool visitor seen most (next visitor) terminal) :
      Reads pool visitor seen (most + 13) (session owed next) terminal
  | query {result : Type} {most : Nat} {owed : List Cleanup} {issued : Query result}
      {next : Except QueryError result → Chain world} {value : result} {terminal : Terminal}
      (accepted : issued.rejection = none)
      (isSelect : issued.statement.isSelect = true)
      (found : pool.ask issued = Except.ok value)
      (reads : Reads pool visitor seen most (next (Except.ok value)) terminal) :
      Reads pool visitor seen (most + 3) (query owed issued next) terminal
  | observe {most : Nat} {next : world → Chain world} {terminal : Terminal}
      (reads : Reads pool visitor seen most (next seen) terminal) :
      Reads pool visitor seen (most + 1) (observe next) terminal

/-- A chain that reads what it needs has no failure to log. -/
theorem Reads.traced
    {most : Nat}
    {chain : Chain world}
    {terminal : Terminal}
    (reads : Reads pool visitor seen most chain terminal) :
    Reads pool visitor seen most chain.traced terminal := by
  induction reads with
  | respond most terminal => exact Reads.respond most terminal
  | session _ inductionHypothesis => exact Reads.session inductionHypothesis
  | query accepted isSelect found _ inductionHypothesis =>
      exact Reads.query accepted isSelect found inductionHypothesis
  | observe _ inductionHypothesis => exact Reads.observe inductionHypothesis

end Chain

namespace Serve

namespace System

variable {world : Type} {setup : Setup world} {line : RequestLine} {scope : Scope}
  {cleanups : List Cleanup} {shared : Shared world} {pool : Pool} {visitor : Option Session}

/-- A selection is answered in three steps, and leaves the rows alone. -/
theorem leadsWithin_ask
    {result : Type}
    {issued : Query result}
    (ready : shared.IsReady)
    (accepted : issued.rejection = none)
    (isSelect : issued.statement.isSelect = true)
    (owed : List Cleanup)
    (next : Except QueryError result → Chain world) :
    ∃ after,
      LeadsWithin setup
          (alone line after { chain := next (shared.pool.ask issued), scope, cleanups }) 3
          (alone line shared { chain := Chain.query owed issued next, scope, cleanups }) ∧
        shared.Follows after shared.pool.rows := by
  obtain ⟨after, within, follows⟩ := leadsWithin_query ready accepted
  rw [funext (Pool.rows_apply_of_isSelect isSelect shared.pool)] at follows
  exact ⟨after, within, follows⟩

/-- The selections of a look-up are answered one after the other, each in three steps. -/
theorem leadsWithin_of_finds
    {tables : List String}
    {most : Nat}
    {chain onward : Chain world}
    (finds : Chain.Finds tables pool onward most chain)
    (ready : shared.IsReady)
    (same : ∀ table, shared.pool.rows table = pool.rows table) :
    ∃ after,
      LeadsWithin setup (alone line after { chain := onward, scope, cleanups }) (3 * most)
          (alone line shared { chain, scope, cleanups }) ∧
        shared.Follows after shared.pool.rows := by
  induction finds generalizing shared with
  | found most => exact ⟨shared, LeadsWithin.refl _, Shared.Follows.refl ready⟩
  | @asks result most owed issued follow accepted isSelect ofTables finds inductionHypothesis =>
      obtain ⟨between, first, follows⟩ := leadsWithin_ask ready accepted isSelect owed follow
      rw [Pool.ask_congr (same issued.statement.table)] at first
      obtain ⟨after, later, followsAfter⟩ :=
        inductionHypothesis follows.ready fun table => (follows.rows table).trans (same table)
      rw [funext follows.rows] at followsAfter
      exact ⟨after, (first.trans later).mono (by omega), follows.trans followsAfter⟩

/-- A server looks up who the visitor is in at most thirteen steps. -/
theorem leadsWithin_session
    (resolver : setup.resolver = Session.resolve)
    (named : Session.IsNamedBy scope.token pool visitor)
    (ready : shared.IsReady)
    (same : ∀ table, shared.pool.rows table = pool.rows table)
    (owed : List Cleanup)
    (next : Option Session → Chain world) :
    ∃ after,
      LeadsWithin setup (alone line after { chain := next visitor, scope, cleanups }) 13
          (alone line shared { chain := Chain.session owed next, scope, cleanups }) ∧
        shared.Follows after shared.pool.rows := by
  unfold Session.IsNamedBy at named
  split at named
  next isMissing =>
    have moves : Thread.step setup { chain := Chain.session owed next, scope, cleanups } shared =
        (Progress.moved { chain := next visitor, scope, cleanups }, shared) := by
      simp [Thread.step, isMissing, Thread.goOn, named]
    exact ⟨shared, (leadsWithin_of_moved moves).mono (by decide), Shared.Follows.refl ready⟩
  next token given =>
    let rest : Rest world (Option Session) := { next, owed }
    have onward : Chain.Finds Session.tables pool (next visitor) 0 (rest.next visitor) :=
      Chain.Finds.found 0
    have finds := (Session.finds_resolve named).run onward
    obtain ⟨after, within, follows⟩ := leadsWithin_of_finds finds ready same
    have moves : Thread.step setup { chain := Chain.session owed next, scope, cleanups } shared =
        (Progress.moved { chain := (Session.resolve token).run { next, owed }, scope, cleanups },
          shared) := by
      simp [Thread.step, given, Thread.goOn, resolver]
    exact ⟨after, (leadsWithin_of_moved moves).trans within, follows⟩

/-- A server follows a chain that only reads to the response for its terminal, within the steps that
are foreseen. -/
theorem leadsWithin_of_reads
    {most : Nat}
    {chain : Chain world}
    {terminal : Terminal}
    (reads : chain.Reads pool visitor shared.world most terminal)
    (resolver : setup.resolver = Session.resolve)
    (named : Session.IsNamedBy scope.token pool visitor)
    (ready : shared.IsReady)
    (same : ∀ table, shared.pool.rows table = pool.rows table) :
    ∃ last, LeadsWithin setup last most (alone line shared { chain, scope, cleanups }) ∧
      last.step? setup = none ∧
      last.response = some (Http.Response.ofTerminal setup.files terminal).1 := by
  generalize isSeen : shared.world = seen at reads
  induction reads generalizing shared with
  | respond most terminal =>
      obtain ⟨last, within, halted, response, _⟩ := leadsWithin_respond
      exact ⟨last, within.mono (Nat.le_add_left 1 most), halted, response⟩
  | @session most owed next terminal reads inductionHypothesis =>
      obtain ⟨after, first, follows⟩ := leadsWithin_session resolver named ready same owed next
      obtain ⟨last, later, ends⟩ := inductionHypothesis follows.ready
        (fun table => (follows.rows table).trans (same table)) (follows.world.trans isSeen)
      exact ⟨last, (first.trans later).mono (by omega), ends⟩
  | @query result most owed issued next value terminal accepted isSelect found reads
      inductionHypothesis =>
      obtain ⟨after, first, follows⟩ := leadsWithin_ask ready accepted isSelect owed next
      rw [Pool.ask_congr (same issued.statement.table), found] at first
      obtain ⟨last, later, ends⟩ := inductionHypothesis follows.ready
        (fun table => (follows.rows table).trans (same table)) (follows.world.trans isSeen)
      exact ⟨last, (first.trans later).mono (by omega), ends⟩
  | @observe most next terminal reads inductionHypothesis =>
      have moves : Thread.step setup { chain := Chain.observe next, scope, cleanups } shared =
          (Progress.moved { chain := next shared.world, scope, cleanups }, shared) := rfl
      obtain ⟨last, later, ends⟩ := inductionHypothesis ready same isSeen
      rw [isSeen] at moves
      exact ⟨last, ((leadsWithin_of_moved moves).trans later).mono (by omega), ends⟩

end System

end Serve

end Screencast
