import Screencast.Proofs.Effect.Sends
import Screencast.Proofs.Serve.Schedule
import Screencast.Proofs.Serve.Turn

/-!
# What a server sends

While a request is answered by a chain that sends only terminals of a kind, every thread comes to
such a terminal, and so the visitor gets the response for one. The log never tells of a malformed
response.
-/

namespace Screencast

namespace Serve

open Http

variable {world : Type} {setup : Setup world} {allowed : Terminal → Prop}

namespace Thread

/-- Dealing with connections is sound. -/
theorem isSound_of_isOfConnection
    {events : List Event}
    (areOf : ∀ event ∈ events, event.isOfConnection = true) :
    ∀ event ∈ events, event.IsSound := by
  rintro event present detail same
  have isOne := areOf event present
  cases event with
  | acquiring | executing | released => cases same
  | logged | malformed | cleaned | queried | asked => cases isOne

/-- Looking for a file tells of nothing but a path that is refused. -/
theorem message_of_mem_ofTerminal
    {files : StaticFiles}
    {terminal : Terminal}
    {entry : LogEntry}
    (present : entry ∈ (Response.ofTerminal files terminal).2) :
    entry.message = "refusing static path" := by
  cases terminal with
  | file path maxAge =>
      simp only [Response.ofTerminal, Response.ofFile] at present
      split at present
      · split at present <;> cases present
      · obtain rfl := List.mem_singleton.1 present
        rfl
  | text | binary | html | redirect => cases present

/-- After a turn of a thread that sends only allowed terminals, the threads that are left do so too,
only sound events have been noted, and a response is one for an allowed terminal. Pages have to be
allowed, for what goes wrong, and sessions are looked up by steps that send nothing themselves. -/
theorem Turn.sendsOnly
    {thread : Thread world}
    {events : List Event}
    {progress : Progress world}
    (turn : Turn setup thread events progress)
    (pages : ∀ node status, allowed (Terminal.html node status))
    (resolver : ∀ token, (setup.resolver token).LeavesTerminals allowed)
    (orderly : thread.IsOrderly)
    (only : thread.chain.SendsOnly allowed) :
    (∀ left ∈ progress.threads, left.chain.SendsOnly allowed) ∧
      (∀ event ∈ events, event.IsSound) ∧
      ∀ response, progress = Progress.finished response →
        ∃ terminal, allowed terminal ∧
          response = (Response.ofTerminal setup.files terminal).1 := by
  have goesOn {left : Progress world} {next : Thread world} (isLeft : left.threads = [next])
      (onlyNext : next.chain.SendsOnly allowed) :
      (∀ other ∈ left.threads, other.chain.SendsOnly allowed) ∧
        ∀ response, left = Progress.finished response →
          ∃ terminal, allowed terminal ∧
            response = (Response.ofTerminal setup.files terminal).1 := by
    refine ⟨isLeft ▸ List.forall_mem_singleton.2 onlyNext, ?_⟩
    rintro response rfl
    cases isLeft
  cases turn with
  | @finished terminal atEnd =>
      rw [atEnd] at only
      cases only with
      | respond isAllowed =>
          refine ⟨List.forall_mem_nil _, ?_, ?_⟩
          · intro event present
            rcases List.mem_append.1 present with logged | cleaned
            · obtain ⟨entry, isEntry, rfl⟩ := List.mem_map.1 logged
              exact Event.isSound_logged (message_of_mem_ofTerminal isEntry ▸ by decide)
            · obtain ⟨cleanup, _, rfl⟩ := List.mem_map.1 cleaned
              exact Event.isSound_cleaned cleanup
          · rintro response ⟨⟩
            exact ⟨terminal, isAllowed, rfl⟩
  | @lookUp owed next token atSession named =>
      rw [atSession] at only
      cases only with
      | session _ follow =>
          have onlyNext := resolver token { next, owed } follow
          exact ⟨List.forall_mem_singleton.2 onlyNext, List.forall_mem_nil _,
            fun response same => nomatch same⟩
  | took takes left =>
      obtain ⟨onlyNext, sound⟩ := only.takes pages takes
      obtain ⟨threads, responses⟩ := goesOn left onlyNext
      refine ⟨threads, ?_, responses⟩
      intro event present
      obtain ⟨noted, isNoted, rfl⟩ := List.mem_map.1 present
      exact (sound noted isNoted).served
  | @answered _ _ _ _ outcome _ _ atQuery areOf left =>
      rw [atQuery] at only
      cases only with
      | query _ _ follow =>
          obtain ⟨threads, responses⟩ := goesOn left (follow outcome)
          exact ⟨threads, isSound_of_isOfConnection areOf, responses⟩
  | within _ areOf left =>
      obtain ⟨threads, responses⟩ := goesOn left only
      exact ⟨threads, isSound_of_isOfConnection areOf, responses⟩
  | waits atTask left =>
      obtain ⟨threads, responses⟩ := goesOn left only
      exact ⟨threads, List.forall_mem_nil _, responses⟩
  | @continues _ next outcome isSettled =>
      obtain ⟨owed, call, atTask⟩ := orderly.task_of_settled isSettled
      rw [atTask] at only
      cases only with
      | task _ _ follow =>
          exact ⟨List.forall_mem_singleton.2 (follow outcome), List.forall_mem_nil _,
            fun response same => nomatch same⟩
  | split atDetach =>
      rw [atDetach] at only
      cases only with
      | detach first second =>
          refine ⟨?_, List.forall_mem_nil _, fun response same => nomatch same⟩
          exact List.forall_mem_cons.2 ⟨second, List.forall_mem_singleton.2 first⟩
  | stuck =>
      exact ⟨List.forall_mem_nil _, List.forall_mem_nil _, fun response same => nomatch same⟩

end Thread

namespace System

variable {system after : System world}

/-- A system tells of responses in the log only by entries of two kinds. -/
def IsOnResponse (entry : LogEntry) : Prop :=
  entry.message = "request completed" ∨ entry.message = "detached effect chain failed"

/-- Putting an entry into the log adds it at most, and changes no response. -/
theorem journal_logFault (system : System world) (response : Response) (entry : LogEntry) :
    (∃ entries : List LogEntry, (∀ other ∈ entries, other = entry) ∧
      (system.logFault response entry).shared.journal =
        system.shared.journal ++ entries.map Event.logged) ∧
      (system.logFault response entry).response = system.response := by
  unfold logFault
  split
  · exact ⟨⟨[entry], fun _ present => List.mem_singleton.1 present, rfl⟩, rfl⟩
  · exact ⟨⟨[], List.forall_mem_nil _, (List.append_nil _).symm⟩, rfl⟩

/-- Taking in the end of a thread adds entries on responses at most, and the response to the visitor
is the one of the thread, or as before. -/
theorem journal_finish (system : System world) (job : Job world) (response : Response) :
    (∃ entries : List LogEntry, (∀ entry ∈ entries, IsOnResponse entry) ∧
      (system.finish job response).shared.journal =
        system.shared.journal ++ entries.map Event.logged) ∧
      ((system.finish job response).response = some response ∨
        (system.finish job response).response = system.response) := by
  unfold finish
  split
  next =>
    refine ⟨?_, Or.inl rfl⟩
    unfold complete
    split
    next => exact ⟨[], List.forall_mem_nil _, (List.append_nil _).symm⟩
    next =>
      obtain ⟨⟨entries, same, journal⟩, _⟩ :=
        journal_logFault system response (completedEntry system.line response)
      exact ⟨entries, fun entry present => Or.inl (same entry present ▸ rfl), journal⟩
  next =>
    obtain ⟨⟨entries, same, journal⟩, unchanged⟩ :=
      journal_logFault system response (detachedEntry system.line response)
    exact ⟨⟨entries, fun entry present => Or.inr (same entry present ▸ rfl), journal⟩,
      Or.inr unchanged⟩
  next => exact ⟨⟨[], List.forall_mem_nil _, (List.append_nil _).symm⟩, Or.inr rfl⟩

/-- While the thread at work takes a step, the journal grows by what the step notes, and by entries
on responses. The response to the visitor is the one that the thread comes to, or as before. -/
theorem journal_work (setup : Setup world) (system : System world) (job : Job world) :
    (∃ entries : List LogEntry, (∀ entry ∈ entries, IsOnResponse entry) ∧
      (system.work setup job).shared.journal =
        (job.thread.step setup system.shared).2.journal ++ entries.map Event.logged) ∧
      ((∃ response, (job.thread.step setup system.shared).1 = Progress.finished response ∧
          (system.work setup job).response = some response) ∨
        (system.work setup job).response = system.response) := by
  unfold work
  generalize job.thread.step setup system.shared = left
  obtain ⟨progress, shared⟩ := left
  have nothing : ∃ entries : List LogEntry, (∀ entry ∈ entries, IsOnResponse entry) ∧
      shared.journal = shared.journal ++ entries.map Event.logged :=
    ⟨[], List.forall_mem_nil _, (List.append_nil _).symm⟩
  cases progress with
  | finished response =>
      obtain ⟨entries, responses⟩ :=
        journal_finish { system with shared, current := none } job response
      exact ⟨entries, responses.imp_left fun isIt => ⟨response, rfl, isIt⟩⟩
  | moved thread => exact ⟨nothing, Or.inr rfl⟩
  | split aside rest => exact ⟨nothing, Or.inr rfl⟩
  | yielded thread => exact ⟨nothing, Or.inr rfl⟩
  | asleep due thread => exact ⟨nothing, Or.inr rfl⟩
  | stuck => exact ⟨nothing, Or.inr rfl⟩

/-- A step of a system is a step of the thread at work, or it changes the order of the threads at
most, notes at most that a detached thread has failed, and changes no response. -/
theorem step?_tells (steps : system.step? setup = some after) :
    (∃ job, system.current = some job ∧ after = system.work setup job) ∨
      (after.threads.Perm system.threads ∧
        (∃ entries : List LogEntry, (∀ entry ∈ entries, IsOnResponse entry) ∧
          after.shared.journal = system.shared.journal ++ entries.map Event.logged) ∧
        after.response = system.response) := by
  rcases step?_cases steps with ⟨job, isCurrent, isAfter, _⟩ | reorders
  · exact Or.inl ⟨job, isCurrent, isAfter⟩
  have threads := reorders.threads
  have nothing : ∃ entries : List LogEntry, (∀ entry ∈ entries, IsOnResponse entry) ∧
      system.shared.journal = system.shared.journal ++ entries.map Event.logged :=
    ⟨[], List.forall_mem_nil _, (List.append_nil _).symm⟩
  unfold step? at steps
  split at steps
  next job isCurrent =>
    obtain rfl := Option.some.inj steps
    have proceeded : system.proceed setup job = system.work setup job ∨
        ((system.proceed setup job).shared.journal = system.shared.journal ∧
          (system.proceed setup job).response = system.response) := by
      unfold proceed
      split
      next => exact Or.inl rfl
      next =>
        split
        next => exact Or.inl rfl
        next => exact Or.inr ⟨rfl, rfl⟩
    rcases proceeded with worked | ⟨sameJournal, unchanged⟩
    · exact Or.inl ⟨job, isCurrent, worked⟩
    · exact Or.inr ⟨threads, sameJournal ▸ nothing, unchanged⟩
  next =>
    obtain rfl := Option.some.inj steps
    exact Or.inr ⟨threads, nothing, rfl⟩
  next =>
    obtain rfl := Option.some.inj steps
    exact Or.inr ⟨threads, nothing, rfl⟩
  next response rest _ _ =>
    obtain rfl := Option.some.inj steps
    obtain ⟨⟨entries, same, journal⟩, unchanged⟩ :=
      journal_logFault { system with ready := rest } response (detachedEntry system.line response)
    have areOn : ∀ entry ∈ entries, IsOnResponse entry :=
      fun entry present => Or.inr (same entry present ▸ rfl)
    exact Or.inr ⟨threads, ⟨entries, areOn, journal⟩, unchanged⟩
  next =>
    obtain rfl := Option.some.inj steps
    exact Or.inr ⟨threads, nothing, rfl⟩
  next => cases steps
  next =>
    obtain rfl := Option.some.inj steps
    exact Or.inr ⟨threads, nothing, rfl⟩

/-- All threads of a system send only allowed terminals, only sound events have been noted since a
journal, and the response to the visitor is one for an allowed terminal. -/
structure SendsOnly (setup : Setup world) (allowed : Terminal → Prop) (journal : List Event)
    (system : System world) : Prop where
  orderly : ∀ thread ∈ system.threads, thread.IsOrderly
  threads : ∀ thread ∈ system.threads, thread.chain.SendsOnly allowed
  events : ∀ event ∈ system.shared.journal, event ∈ journal ∨ event.IsSound
  response : ∀ response, system.response = some response →
    ∃ terminal, allowed terminal ∧ response = (Response.ofTerminal setup.files terminal).1

variable {journal : List Event}

theorem IsOnResponse.isSound {entry : LogEntry} (isOne : IsOnResponse entry) :
    (Event.logged entry).IsSound := by
  refine Event.isSound_logged ?_
  rcases isOne with message | message <;> (rw [message]; decide)

/-- A journal that has grown by entries on responses holds nothing else that is new. -/
theorem SendsOnly.of_entries
    {before last : List Event}
    {entries : List LogEntry}
    (only : ∀ event ∈ before, event ∈ journal ∨ event.IsSound)
    (areOn : ∀ entry ∈ entries, IsOnResponse entry)
    (grown : last = before ++ entries.map Event.logged) :
    ∀ event ∈ last, event ∈ journal ∨ event.IsSound := by
  subst grown
  intro event present
  rcases List.mem_append.1 present with isOld | isNew
  · exact only event isOld
  · obtain ⟨entry, isEntry, rfl⟩ := List.mem_map.1 isNew
    exact Or.inr (areOn entry isEntry).isSound

/-- A step of a system keeps it so. -/
theorem SendsOnly.step?
    (only : system.SendsOnly setup allowed journal)
    (pages : ∀ node status, allowed (Terminal.html node status))
    (resolver : ∀ token, (setup.resolver token).LeavesTerminals allowed)
    (steps : system.step? setup = some after) :
    after.SendsOnly setup allowed journal := by
  obtain ⟨job, isCurrent, rfl⟩ | ⟨reordered, ⟨entries, areOn, grown⟩, unchanged⟩ :=
    step?_tells steps
  · have split : system.threads = job.thread :: system.others := by
      rw [System.threads, isCurrent]
      rfl
    have isThread : job.thread ∈ system.threads := split ▸ List.mem_cons_self
    obtain ⟨noted, journalStep, turn⟩ := Thread.takesTurn_step setup job.thread system.shared
    have orderly := only.orderly job.thread isThread
    obtain ⟨threadsLeft, sound, responses⟩ :=
      turn.sendsOnly pages resolver orderly (only.threads job.thread isThread)
    obtain ⟨⟨entries, areOn, grown⟩, responseAfter⟩ := journal_work setup system job
    constructor
    case orderly =>
      intro thread present
      have isOneOf := (work_spec setup system job).1.mem_iff.1 present
      rcases List.mem_append.1 isOneOf with isLeft | isOther
      · exact (job.thread.dealing_step setup system.shared orderly).isOrderly orderly thread isLeft
      · exact only.orderly thread (split ▸ List.mem_cons_of_mem _ isOther)
    case threads =>
      intro thread present
      have isOneOf := (work_spec setup system job).1.mem_iff.1 present
      rcases List.mem_append.1 isOneOf with isLeft | isOther
      · exact threadsLeft thread isLeft
      · exact only.threads thread (split ▸ List.mem_cons_of_mem _ isOther)
    case events =>
      refine SendsOnly.of_entries ?_ areOn grown
      rw [journalStep]
      intro event present
      exact (List.mem_append.1 present).elim (only.events event) fun isNew =>
        Or.inr (sound event isNew)
    case response =>
      intro response isResponse
      rcases responseAfter with ⟨sent, finished, isSent⟩ | unchanged
      · obtain rfl := Option.some.inj (isSent.symm.trans isResponse)
        exact responses sent finished
      · exact only.response response (unchanged ▸ isResponse)
  · constructor
    case orderly => exact fun thread present => only.orderly thread (reordered.mem_iff.1 present)
    case threads => exact fun thread present => only.threads thread (reordered.mem_iff.1 present)
    case events => exact SendsOnly.of_entries only.events areOn grown
    case response => exact unchanged ▸ only.response

/-- Any number of steps of a system keep it so. -/
theorem SendsOnly.run
    (only : system.SendsOnly setup allowed journal)
    (pages : ∀ node status, allowed (Terminal.html node status))
    (resolver : ∀ token, (setup.resolver token).LeavesTerminals allowed)
    (fuel : Nat) :
    (system.run setup fuel).SendsOnly setup allowed journal := by
  induction fuel generalizing system with
  | zero => exact only
  | succ fuel inductionHypothesis =>
      unfold System.run
      split
      next after steps => exact inductionHypothesis (only.step? pages resolver steps)
      next => exact only

end System

end Serve

end Screencast
