import Screencast.Proofs.Site.Catalog
import Screencast.Proofs.Site.Unreleased

/-!
# Listed episodes open

The listings, the feed and the map of the site show the episodes that a visitor may see, and the
page of an episode is that of the first one with its slug. So an episode that is listed opens,
unless one that the visitor may not see stands before it under the same slug.
-/

namespace Screencast

/-! ## Episodes that a visitor may see -/

namespace Catalog

variable {catalog : Catalog} {user : Option User} {now : Timestamp} {slug : String}
  {episode : Episode}

/-- A visitor may see the episodes that are released, and all of them as an administrator. -/
theorem mem_visibleEpisodes_iff :
    episode ∈ catalog.visibleEpisodes user now ↔
      episode ∈ catalog.episodes ∧ (isAdmin user || episode.isReleased now) = true := by
  rw [visibleEpisodes, List.mem_mergeSort, List.mem_filter]

/-- The episodes that are shown to a visitor. -/
inductive IsListed (catalog : Catalog) (user : Option User) (now : Timestamp) : Episode → Prop
  | listing {episode : Episode} (isThere : episode ∈ catalog.visibleEpisodes user now) :
    IsListed catalog user now episode
  | collection {episode : Episode} (collection : Collection)
    (isThere : episode ∈ catalog.collectionEpisodes collection user now) :
    IsListed catalog user now episode
  | feed {episode : Episode} (isThere : episode ∈ catalog.visibleEpisodes none now) :
    IsListed catalog user now episode

/-- A visitor may see what is shown to them. -/
theorem IsListed.mem_visibleEpisodes
    (isListed : catalog.IsListed user now episode) :
    episode ∈ catalog.visibleEpisodes user now := by
  cases isListed with
  | listing isThere => exact isThere
  | collection _ isThere => exact List.mem_of_mem_filter isThere
  | feed isThere =>
      obtain ⟨isEpisode, isReleased⟩ := mem_visibleEpisodes_iff.1 isThere
      refine mem_visibleEpisodes_iff.2 ⟨isEpisode, ?_⟩
      rw [show episode.isReleased now = true from isReleased, Bool.or_true]

/-- The first episode with a slug is one that a visitor may not see, and after it stands one with
the slug that they may see. -/
def Eclipses (catalog : Catalog) (user : Option User) (now : Timestamp) (slug : String) : Prop :=
  ∃ before hidden after, catalog.episodes = before ++ hidden :: after ∧ hidden.slug = slug ∧
    (∀ earlier ∈ before, earlier.slug ≠ slug) ∧ hidden ∉ catalog.visibleEpisodes user now ∧
      ∃ later ∈ after, later.slug = slug ∧ later ∈ catalog.visibleEpisodes user now

/-- The episode that stands first under a slug is found under it. -/
theorem episode?_eq_some_iff {shown : Episode} :
    catalog.episode? slug = some shown ↔ ∃ before after,
      catalog.episodes = before ++ shown :: after ∧ shown.slug = slug ∧
        ∀ earlier ∈ before, earlier.slug ≠ slug := by
  rw [episode?, List.find?_eq_some_iff_append]
  simp only [decide_eq_true_eq, Bool.not_eq_true', decide_eq_false_iff_not]
  constructor
  · rintro ⟨named, before, after, parts, others⟩
    exact ⟨before, after, parts, named, others⟩
  · rintro ⟨before, after, parts, named, others⟩
    exact ⟨named, before, after, parts, others⟩

/-- A visitor finds an episode that they may see under a slug exactly if there is one and none
eclipses it. -/
theorem exists_episode?_visible_iff :
    (∃ shown, catalog.episode? slug = some shown ∧ shown ∈ catalog.visibleEpisodes user now) ↔
      (∃ episode ∈ catalog.visibleEpisodes user now, episode.slug = slug) ∧
        ¬ catalog.Eclipses user now slug := by
  constructor
  · rintro ⟨shown, found, isVisible⟩
    obtain ⟨_, _, _, named, _⟩ := episode?_eq_some_iff.1 found
    refine ⟨⟨shown, isVisible, named⟩, ?_⟩
    rintro ⟨before, hidden, after, parts, hiddenNamed, others, isHidden, _⟩
    have foundHidden := episode?_eq_some_iff.2 ⟨before, after, parts, hiddenNamed, others⟩
    obtain rfl := Option.some.inj (found.symm.trans foundHidden)
    exact isHidden isVisible
  · rintro ⟨⟨episode, isVisible, named⟩, notEclipsed⟩
    have among := mem_of_mem_visibleEpisodes isVisible
    cases found : catalog.episode? slug with
    | none => exact absurd named (by simpa using List.find?_eq_none.1 found episode among)
    | some shown =>
        refine ⟨shown, rfl, ?_⟩
        by_contra isHidden
        obtain ⟨before, after, parts, shownNamed, others⟩ := episode?_eq_some_iff.1 found
        rw [parts, List.mem_append, List.mem_cons] at among
        refine notEclipsed ⟨before, shown, after, parts, shownNamed, others, isHidden, episode, ?_,
          named, isVisible⟩
        rcases among with isBefore | rfl | isAfter
        · exact absurd named (others episode isBefore)
        · exact absurd isVisible isHidden
        · exact isAfter

/-- Nothing is eclipsed for administrators, nor if drafts keep to slugs of their own. -/
theorem not_eclipses
    (isApart : isAdmin user = true ∨ catalog.KeepsDraftsApart now) :
    ¬ catalog.Eclipses user now slug := by
  rintro ⟨before, hidden, after, parts, named, _, isHidden, later, _, laterNamed, isVisible⟩
  have among : hidden ∈ catalog.episodes := by simp [parts]
  rw [mem_visibleEpisodes_iff, not_and, Bool.not_eq_true, Bool.or_eq_false_iff] at isHidden
  obtain ⟨notAdmin, isDraft⟩ := isHidden among
  obtain ⟨laterAmong, isShown⟩ := mem_visibleEpisodes_iff.1 isVisible
  rw [notAdmin, Bool.false_or] at isShown
  rcases isApart with isAdmin | apart
  · exact absurd isAdmin (Bool.eq_false_iff.1 notAdmin)
  · exact apart hidden among later laterAmong isDraft isShown (named.trans laterNamed.symm)

end Catalog

/-! ## The page of an episode -/

namespace Site

variable {state : Type} {site : Site} {standIn : StandIn state World} {recording : Recording state}
  {slug : String}

/-- What the visitor gets to see under the slug of an episode. -/
def seen (site : Site) (standIn : StandIn state World) (recording : Recording state)
    (slug : String) : Terminal :=
  ((site.chain (Route.episode slug)).capture standIn recording).1.terminal

/-- The play progress of the visitor is looked up without a failure. -/
def AnswersProgress (standIn : StandIn state World) : Prop :=
  ∀ session ∈ standIn.session, ∀ before : state,
    ∃ told, (WatchedEpisode.entriesOf session.userId).resolve
      (standIn.query (WatchedEpisode.entriesOf session.userId).statement before).1 = Except.ok told

/-- The page of an episode is shown under a slug. -/
def Opens (site : Site) (standIn : StandIn state World) (recording : Recording state)
    (slug : String) : Prop :=
  ∃ shown progress,
    site.seen standIn recording slug =
        Terminal.html (Page.episode site standIn.session shown progress) Status.ok ∧
      shown.slug = slug ∧
      shown ∈ (standIn.world recording.state).catalog.visibleEpisodes (visitor standIn.session)
        site.now

/-- An episode may be seen exactly if it is there and open to the visitor. -/
theorem mem_visibleEpisodes_visitor_iff
    {catalog : Catalog}
    {session : Option Session}
    {episode : Episode} :
    episode ∈ catalog.visibleEpisodes (visitor session) site.now ↔
      episode ∈ catalog.episodes ∧ site.isOpen session episode = true :=
  Catalog.mem_visibleEpisodes_iff

/-- Nothing is found under a slug of which the visitor may not see the first episode. -/
theorem seen_eq_of_hidden
    (hidden : ¬ ∃ shown, (standIn.world recording.state).catalog.episode? slug = some shown ∧
      shown ∈ (standIn.world recording.state).catalog.visibleEpisodes (visitor standIn.session)
        site.now) :
    site.seen standIn recording slug =
      Terminal.html (ServerError.notFound noSuchEpisode).page Status.notFound := by
  rw [seen, chain, episode, Chain.capture]
  cases found : (standIn.world recording.state).catalog.episode? slug with
  | none => rfl
  | some shown =>
      have isClosed : ¬ site.isOpen standIn.session shown = true := fun isOpen =>
        hidden ⟨shown, found, mem_visibleEpisodes_visitor_iff.2
          ⟨List.mem_of_find?_eq_some found, isOpen⟩⟩
      dsimp only [Chain.withSession]
      rw [Chain.capture, if_neg isClosed]
      rfl

/-- A query goes on with what it yields. -/
theorem terminal_capture_query_eq
    {result : Type}
    (owed : List Cleanup)
    (issued : Query result)
    (next : Except QueryError result → Chain World) :
    ((Chain.query owed issued next).capture standIn recording).1.terminal =
      ((next (issued.resolve (recording.query standIn issued.statement).1)).capture standIn
        (recording.query standIn issued.statement).2).1.terminal := rfl

/-- Under a slug of which the visitor may see the first episode its page is shown, unless the
progress of the visitor cannot be looked up. -/
theorem seen_of_visible
    {shown : Episode}
    (found : (standIn.world recording.state).catalog.episode? slug = some shown)
    (isVisible : shown ∈ (standIn.world recording.state).catalog.visibleEpisodes
      (visitor standIn.session) site.now) :
    (∃ progress, site.seen standIn recording slug =
        Terminal.html (Page.episode site standIn.session shown progress) Status.ok) ∨
      ¬ AnswersProgress standIn ∧
        (site.seen standIn recording slug).status = Status.internalError := by
  have isOpen := (mem_visibleEpisodes_visitor_iff.1 isVisible).2
  rw [seen, chain, episode, Chain.capture, found]
  dsimp only [Chain.withSession]
  rw [Chain.capture, if_pos isOpen]
  cases visitorIs : standIn.session with
  | none => exact Or.inl ⟨none, rfl⟩
  | some session =>
      let asked := WatchedEpisode.entriesOf session.userId
      cases answered : asked.resolve (recording.query standIn asked.statement).1 with
      | ok told =>
          refine Or.inl ⟨WatchedEpisode.progressIn told shown, ?_⟩
          refine (terminal_capture_query_eq [] asked _).trans ?_
          rw [answered]
          rfl
      | error failure =>
          refine Or.inr ⟨fun answers => ?_, ?_⟩
          · obtain ⟨told, isTold⟩ := answers session visitorIs recording.state
            cases isTold.symm.trans answered
          · refine (congrArg Terminal.status (terminal_capture_query_eq [] asked _)).trans ?_
            rw [answered]
            rfl

/-- Listed episodes open. A visitor is told that there is nothing under the slug of an episode
exactly if they may see no episode with the slug, or one that they may not see eclipses it. Whatever
they are shown on a listing, in the feed or in the map of the site opens, unless it is eclipsed.
Nothing is eclipsed for administrators, nor if drafts keep to slugs of their own. -/
theorem status_seen_eq_notFound_iff
    (site : Site)
    (standIn : StandIn state World)
    (recording : Recording state) :
    let catalog := (standIn.world recording.state).catalog
    let user := visitor standIn.session
    (∀ slug, (site.seen standIn recording slug).status = Status.notFound ↔
      (∀ episode ∈ catalog.visibleEpisodes user site.now, episode.slug ≠ slug) ∨
        catalog.Eclipses user site.now slug) ∧
      (AnswersProgress standIn →
        (∀ episode, catalog.IsListed user site.now episode →
          ¬ catalog.Eclipses user site.now episode.slug →
            site.Opens standIn recording episode.slug) ∧
        ∀ slug, Route.episode slug ∈ Feed.publicRoutes catalog site.now →
          ¬ catalog.Eclipses user site.now slug → site.Opens standIn recording slug) ∧
      (Catalog.isAdmin user = true ∨ catalog.KeepsDraftsApart site.now →
        ∀ slug, ¬ catalog.Eclipses user site.now slug) := by
  intro catalog user
  have opens (answers : AnswersProgress standIn) (episode : Episode)
      (isVisible : episode ∈ catalog.visibleEpisodes user site.now)
      (notEclipsed : ¬ catalog.Eclipses user site.now episode.slug) :
      site.Opens standIn recording episode.slug := by
    obtain ⟨shown, found, shownVisible⟩ :=
      Catalog.exists_episode?_visible_iff.2 ⟨⟨episode, isVisible, rfl⟩, notEclipsed⟩
    obtain ⟨_, _, _, named, _⟩ := Catalog.episode?_eq_some_iff.1 found
    rcases seen_of_visible found shownVisible with ⟨progress, isPage⟩ | ⟨fails, _⟩
    · exact ⟨shown, progress, isPage, named, shownVisible⟩
    · exact absurd answers fails
  refine ⟨fun slug => ?_, fun answers => ⟨fun episode isListed notEclipsed => ?_,
    fun slug isPublic notEclipsed => ?_⟩, fun isApart slug => Catalog.not_eclipses isApart⟩
  · by_cases isVisible : ∃ shown, catalog.episode? slug = some shown ∧
        shown ∈ catalog.visibleEpisodes user site.now
    · obtain ⟨⟨other, otherVisible, otherNamed⟩, notEclipsed⟩ :=
        Catalog.exists_episode?_visible_iff.1 isVisible
      obtain ⟨shown, found, shownVisible⟩ := isVisible
      refine iff_of_false ?_
        (not_or.2 ⟨fun isNone => isNone other otherVisible otherNamed, notEclipsed⟩)
      rcases seen_of_visible found shownVisible with ⟨progress, isPage⟩ | ⟨_, isFailure⟩
      · rw [isPage]
        exact (by decide : Status.ok ≠ Status.notFound)
      · rw [isFailure]
        exact (by decide : Status.internalError ≠ Status.notFound)
    · refine iff_of_true ?_ ?_
      · rw [seen_eq_of_hidden isVisible]
        rfl
      · rw [Catalog.exists_episode?_visible_iff, not_and_not_right] at isVisible
        exact (em _).symm.imp (fun isNone episode isThere named => isNone ⟨episode, isThere, named⟩)
          isVisible
  · exact opens answers episode isListed.mem_visibleEpisodes notEclipsed
  · obtain ⟨episode, isVisible, rfl⟩ : ∃ episode ∈ catalog.visibleEpisodes none site.now,
        episode.slug = slug := by
      simpa [Feed.publicRoutes] using isPublic
    exact opens answers episode (Catalog.IsListed.feed isVisible).mem_visibleEpisodes notEclipsed

/-- A visitor who is not signed in, and tables without rows. -/
def passerBy (catalog : Catalog) : StandIn Unit World where
  session := none
  body := []
  query _ before := (Except.ok [], before)
  task description before := (Except.error (Stubs.unanswered description), before)
  world _ := { catalog, source := Except.ok catalog }

/-- When the released episode of the following catalogs came out. -/
def releaseDate : Timestamp := Timestamp.ofUnix 1717232400 0

/-- An episode that is released. -/
def released : Episode :=
  { (default : Episode) with number := 2, slug := "first", releasedAt := some releaseDate }

/-- A draft under a slug, and a released episode behind it. -/
def behindDraft (slug : String) : Catalog :=
  { Catalog.empty with episodes := [{ (default : Episode) with number := 1, slug }, released] }

/-- A released episode is listed and not found if a draft stands before it under its slug. -/
theorem status_seen_of_shared_slug :
    released ∈ (behindDraft "first").visibleEpisodes none releaseDate ∧
      (Site.seen { now := releaseDate } (passerBy (behindDraft "first")) { state := () }
        released.slug).status = Status.notFound := by
  constructor
  · exact Catalog.mem_visibleEpisodes_iff.2 (by decide +kernel)
  · decide +kernel

/-- A released episode opens beside a draft with a slug of its own. -/
theorem opens_of_own_slug :
    Opens { now := releaseDate } (passerBy (behindDraft "second")) { state := () }
      released.slug := by
  have isReleased : released ∈ (behindDraft "second").visibleEpisodes none releaseDate :=
    Catalog.mem_visibleEpisodes_iff.2 (by decide +kernel)
  have apart : (behindDraft "second").KeepsDraftsApart releaseDate := by decide +kernel
  have answers : AnswersProgress (passerBy (behindDraft "second")) := by
    intro session isSession
    exact nomatch isSession
  obtain ⟨-, opens, isApart⟩ := status_seen_eq_notFound_iff { now := releaseDate }
    (passerBy (behindDraft "second")) { state := () }
  exact (opens answers).1 released (Catalog.IsListed.feed isReleased)
    (isApart (Or.inr apart) released.slug)

end Site

end Screencast
