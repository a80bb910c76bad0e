import Screencast.Proofs.Effect.Amid
import Screencast.Effect.Stubs
import Screencast.Proofs.Site.Looks

/-!
# Requests amid refreshes

While a request is answered, the catalog may be loaded again any number of times, in good and in bad
files. The visitor sees one of the catalogs that were published by then, and not parts of two.
-/

namespace Screencast

/-- The catalog that is published, and what later refreshes load. Those that are done when a run has
resolved one more thing come first. -/
structure Tide where
  catalog : Catalog
  coming : List (List (Except Catalog.Error Catalog))

namespace Tide

/-- The catalog after a refresh that loads something, or fails to. -/
def refreshed (catalog : Catalog) (loaded : Except Catalog.Error Catalog) : Catalog :=
  (Collaborator.refreshCatalog.perform { catalog, source := loaded }).2.catalog

/-- The refreshes of one turn, one after another. -/
def turn (tide : Tide) : Tide :=
  match tide.coming with
  | [] => tide
  | loads :: coming => { catalog := loads.foldl refreshed tide.catalog, coming }

/-- The world with the catalog that is published at present. -/
def shown (tide : Tide) (world : World) : World := { world with catalog := tide.catalog }

/-- The catalogs that are published before or during so many turns. -/
def published (tide : Tide) (turns : Nat) : List Catalog :=
  tide.catalog :: (tide.coming.take turns).flatten.filterMap Except.toOption

/-- One refresh after another publishes the first catalog or one that was loaded. -/
theorem foldl_refreshed_mem (catalog : Catalog) (loads : List (Except Catalog.Error Catalog)) :
    loads.foldl refreshed catalog ∈ catalog :: loads.filterMap Except.toOption := by
  induction loads generalizing catalog with
  | nil => exact List.mem_singleton_self catalog
  | cons loaded loads inductionHypothesis =>
      cases loaded with
      | error error => exact inductionHypothesis catalog
      | ok fresh => exact List.mem_cons_of_mem catalog (inductionHypothesis fresh)

/-- What is published after some turns has been published by then. -/
theorem catalog_iterate_mem_published
    {before turns : Nat}
    (atMost : before ≤ turns)
    (tide : Tide) :
    (turn^[before] tide).catalog ∈ tide.published turns := by
  induction before generalizing turns tide with
  | zero => exact List.mem_cons_self
  | succ before inductionHypothesis =>
      obtain ⟨turns, rfl⟩ : ∃ later, turns = later + 1 := Nat.exists_eq_succ_of_ne_zero (by omega)
      have later := inductionHypothesis (Nat.le_of_succ_le_succ atMost) tide.turn
      rw [Function.iterate_succ_apply]
      obtain ⟨catalog, _ | ⟨loads, coming⟩⟩ := tide
      · simpa [turn, published] using later
      · have first := foldl_refreshed_mem catalog loads
        simp only [turn, published, List.mem_cons, List.take_succ_cons, List.flatten_cons,
          List.filterMap_append, List.mem_append] at later first ⊢
        rcases later with same | isLater
        · rw [same]
          exact first.imp_right Or.inl
        · exact Or.inr (Or.inr isLater)

end Tide

/-- A stand-in that shows one catalog all the time. -/
def StandIn.showing {state : Type} (standIn : StandIn state World) (catalog : Catalog) :
    StandIn state World :=
  { standIn with world := fun state => { standIn.world state with catalog } }

namespace Catalog

/-- A file that can be read is loaded as it is read. -/
theorem load_of_some
    {file : Option Bytes}
    {fresh : Catalog}
    (readable : file.bind read? = some fresh) :
    load file = Except.ok fresh := by
  obtain ⟨bytes, rfl, isRead⟩ := Option.bind_eq_some_iff.1 readable
  simp only [load, isRead]

/-- A file that is missing or cannot be read is not loaded. -/
theorem exists_load_of_none
    {file : Option Bytes}
    (unreadable : file.bind read? = none) :
    ∃ error, load file = Except.error error := by
  cases file with
  | none => exact ⟨Error.unreadable, rfl⟩
  | some bytes =>
      rw [Option.bind_some] at unreadable
      exact ⟨Error.malformed, by simp only [load, unreadable]⟩

end Catalog

/-- A refresh publishes exactly what is in its file, or it leaves everything as it was. -/
theorem Collaborator.perform_refreshCatalog
    {world : World}
    {file : Option Bytes}
    (isSource : world.source = Catalog.load file) :
    match file.bind Catalog.read? with
    | some catalog =>
        refreshCatalog.perform world =
          (Completion.ready (Except.ok ()), { world with catalog })
    | none =>
        ∃ error, refreshCatalog.perform world = (Completion.ready (Except.error error), world) := by
  cases found : file.bind Catalog.read? with
  | some catalog =>
      have loaded := isSource.trans (Catalog.load_of_some found)
      simp only [refreshCatalog, Task.describe, World.refresh_of_ok loaded]
      rfl
  | none =>
      obtain ⟨error, failed⟩ := Catalog.exists_load_of_none found
      refine ⟨TaskError.failed error.message, ?_⟩
      simp only [refreshCatalog, Task.describe, World.refresh_of_error (isSource.trans failed)]
      rfl

namespace Site

open Chain

variable (site : Site)

/-- The visitor sees one catalog. Whatever refreshes are done between the things that the run of a
request resolves, and whether they fail or not, the terminal, what was resolved, what was detached
and what was noted are what they are if one of the catalogs that were published before or during
the run is held fixed. Whoever runs the request, all its looks show the same catalog if refreshes
are only done while it waits. And a refresh publishes exactly the catalog of its file, or leaves
everything as it was if there is no catalog to be read. -/
theorem dispatch_amid_refreshes
    {state : Type}
    (head : RequestHead)
    (standIn : StandIn state World)
    (recording : Recording state)
    (tide : Tide) :
    (∃ turns, ∃ catalog ∈ tide.published turns,
      let amid := (site.dispatch head).captureAmid (Prod.map id Tide.turn)
        (standIn.amid Tide.shown) (recording.amid tide)
      let still := (site.dispatch head).capture (standIn.showing catalog) recording
      amid = (still.1, still.2.amid (Tide.turn^[turns] tide))) ∧
    (∀ {handed noted owed last} {left right : World},
      Passage (site.dispatch head) handed noted owed last →
      Delivery.IsSteady World.catalog handed →
      Delivery.seen left ∈ handed → Delivery.seen right ∈ handed →
      left.catalog = right.catalog) ∧
    (∀ (world : World) (file : Option Bytes), world.source = Catalog.load file →
      match file.bind Catalog.read? with
      | some catalog =>
          Collaborator.refreshCatalog.perform world =
            (Completion.ready (Except.ok ()), { world with catalog })
      | none =>
          ∃ error, Collaborator.refreshCatalog.perform world =
            (Completion.ready (Except.error error), world)) := by
  have looks := site.looksOnce_dispatch head
  refine ⟨?_, ?_, ?_⟩
  · obtain ⟨before, turns, atMost, runs⟩ : ∃ before turns, before ≤ turns ∧
        RunsAsIf Tide.turn Tide.shown standIn (Tide.turn^[before] tide) turns (site.dispatch head)
          recording tide := looks.runsAsIf recording tide
    exact ⟨turns, _, Tide.catalog_iterate_mem_published atMost tide, runs⟩
  · intro handed noted owed last left right way steady seenLeft seenRight
    exact looks.view_eq way steady seenLeft seenRight
  · intro world file isSource
    exact Collaborator.perform_refreshCatalog isSource

/-- The page of a collection is looked up, and then filled, while a refresh fails and another one
takes the collection away. -/
theorem dispatch_amid_refreshes_of_collection :
    let site : Site := { now := default }
    let head := RequestHead.ofRoute (Route.collection "lean")
    let catalog : Catalog :=
      { episodes := [], collections := [{ slug := "lean", title := "Lean", description := "" }]
        plans := [] }
    let tide : Tide :=
      { catalog, coming := [[Except.error Catalog.Error.unreadable, Except.ok Catalog.empty]] }
    let left : World := { catalog, source := Catalog.load none }
    let right : World := { left with mails := [⟨"ana@example.com", "Ana", "Hello", ""⟩] }
    let standIn : StandIn (Stubs World) World := Stubs.standIn none []
    let stubs : Stubs World := { pool := {}, world := left }
    (∃ turns, ∃ held ∈ tide.published turns,
      ((site.dispatch head).captureAmid (Prod.map id Tide.turn) (standIn.amid Tide.shown)
          (Recording.amid { state := stubs } tide)).1.terminal =
        ((site.dispatch head).capture (standIn.showing held) { state := stubs }).1.terminal) ∧
      (∃ noted owed last,
        Passage (site.dispatch head)
          [Delivery.seen left, Delivery.seen right, Delivery.session none] noted owed last) ∧
      left.catalog = right.catalog ∧
      ∃ error, Collaborator.refreshCatalog.perform left =
        (Completion.ready (Except.error error), left) := by
  intro site head catalog tide left right standIn stubs
  obtain ⟨⟨turns, held, isPublished, same⟩, oneCatalog, refreshes⟩ :=
    dispatch_amid_refreshes site head standIn { state := stubs } tide
  have isCollection : head.route? = some (Route.collection "lean") := by decide +kernel
  have chosen : site.dispatch head = site.collection "lean" := by rw [dispatch, isCollection]; rfl
  have way : ∃ noted owed last, Passage (site.dispatch head)
      [Delivery.seen left, Delivery.seen right, Delivery.session none] noted owed last := by
    obtain ⟨found, isFirst⟩ : ∃ found, site.dispatch head = observe found := ⟨_, chosen⟩
    obtain ⟨listed, isSecond⟩ : ∃ listed, found left = observe listed := by
      cases chosen.symm.trans isFirst
      exact ⟨_, rfl⟩
    obtain ⟨owed, follow, isThird⟩ : ∃ owed follow, listed right = session owed follow := by
      cases chosen.symm.trans isFirst
      cases isSecond
      exact ⟨_, _, rfl⟩
    have atFirst : Passage (site.dispatch head) [Delivery.seen left] [] [] (found left) := by
      rw [isFirst]
      exact Passage.start.step (Takes.observe found left)
    rw [isSecond] at atFirst
    have atSecond := atFirst.step (Takes.observe listed right)
    rw [isThird] at atSecond
    exact ⟨_, _, _, atSecond.step (Takes.session owed follow none)⟩
  refine ⟨⟨turns, held, isPublished, by rw [same]⟩, way, ?_, refreshes left none rfl⟩
  obtain ⟨noted, owed, last, way⟩ := way
  refine oneCatalog way ?_ (by simp) (by simp)
  have shows : ∀ world, Delivery.seen world ∈
      [Delivery.seen left, Delivery.seen right, Delivery.session none] →
      world.catalog = catalog := by
    intro world present
    simp only [List.mem_cons, Delivery.seen.injEq, reduceCtorEq, List.not_mem_nil,
      or_false] at present
    rcases present with rfl | rfl <;> rfl
  intro before first between second after parts _
  rw [shows first (by rw [parts]; simp), shows second (by rw [parts]; simp)]

end Site

end Screencast
