import Screencast.Proofs.Effect.Unseen
import Screencast.Site.Dispatch

/-!
# Episodes that are not released

Visitors who are no administrators learn nothing about episodes that are not released. Two catalogs
look the same if they have the same plans, collections and released episodes, and if nobody meets a
draft under the slug of a released episode. With such catalogs every request of such a visitor is
answered by the same terminal.
-/

namespace Screencast

/-! ## Catalogs that look the same -/

namespace Catalog

/-- The episodes that are released, in the order of the catalog. -/
def released (catalog : Catalog) (now : Timestamp) : List Episode :=
  catalog.episodes.filter fun episode => episode.isReleased now

/-- No episode that is not released has the slug of one that is. -/
def KeepsDraftsApart (catalog : Catalog) (now : Timestamp) : Prop :=
  ∀ draft ∈ catalog.episodes, ∀ shown ∈ catalog.episodes,
    draft.isReleased now = false → shown.isReleased now = true → draft.slug ≠ shown.slug

instance (catalog : Catalog) (now : Timestamp) : Decidable (catalog.KeepsDraftsApart now) :=
  inferInstanceAs (Decidable (∀ draft ∈ catalog.episodes, ∀ shown ∈ catalog.episodes, _))

/-- Two catalogs differ only in episodes that are not released, and these keep to slugs of their
own. -/
structure LooksLike (now : Timestamp) (catalog other : Catalog) : Prop where
  plans : catalog.plans = other.plans
  collections : catalog.collections = other.collections
  released : catalog.released now = other.released now
  apart : catalog.KeepsDraftsApart now
  otherApart : other.KeepsDraftsApart now

/-- The first episode with a slug, if it is released, is the first released one with the slug. -/
theorem filter_isReleased_episode?
    {catalog : Catalog}
    {now : Timestamp}
    (apart : catalog.KeepsDraftsApart now)
    (slug : String) :
    (catalog.episode? slug).filter (fun episode => episode.isReleased now) =
      (catalog.released now).find? fun episode => episode.slug = slug := by
  rw [released, List.find?_filter, episode?]
  cases found : catalog.episodes.find? fun episode => episode.slug = slug with
  | none =>
      have otherSlug := List.find?_eq_none.mp found
      refine (List.find?_eq_none.mpr fun episode among => ?_).symm
      simpa using fun _ => by simpa using otherSlug episode among
  | some first =>
      obtain ⟨named, before, after, parts, otherSlug⟩ := List.find?_eq_some_iff_append.mp found
      have among : first ∈ catalog.episodes := List.mem_of_find?_eq_some found
      cases shown : first.isReleased now with
      | true =>
          have kept : (some first).filter (fun episode => episode.isReleased now) = some first := by
            rw [Option.filter_some, if_pos shown]
          rw [kept, eq_comm, List.find?_eq_some_iff_append]
          refine ⟨by simpa [shown] using named, before, after, parts, fun episode earlier => ?_⟩
          have different : episode.slug ≠ slug := by simpa using otherSlug episode earlier
          simp [different]
      | false =>
          have dropped : (some first).filter (fun episode => episode.isReleased now) = none := by
            rw [Option.filter_some, shown, if_neg Bool.false_ne_true]
          rw [dropped, eq_comm, List.find?_eq_none]
          intro episode present
          have different := apart first among episode present shown
          have sameName : first.slug = slug := by simpa using named
          rw [sameName] at different
          simpa using fun isReleased => Ne.symm (different isReleased)

namespace LooksLike

variable {now : Timestamp} {catalog other : Catalog} {user : Option User}

theorem monthly?_eq (same : LooksLike now catalog other) : catalog.monthly? = other.monthly? := by
  rw [monthly?, monthly?, same.plans]

theorem yearly?_eq (same : LooksLike now catalog other) : catalog.yearly? = other.yearly? := by
  rw [yearly?, yearly?, same.plans]

theorem plan?_eq (same : LooksLike now catalog other) (planCode : String) :
    catalog.plan? planCode = other.plan? planCode := by
  rw [plan?, plan?, same.plans]

theorem collection?_eq (same : LooksLike now catalog other) (slug : String) :
    catalog.collection? slug = other.collection? slug := by
  rw [collection?, collection?, same.collections]

theorem episode?_eq (same : LooksLike now catalog other) (slug : String) :
    (catalog.episode? slug).filter (fun episode => episode.isReleased now) =
      (other.episode? slug).filter (fun episode => episode.isReleased now) := by
  rw [filter_isReleased_episode? same.apart, filter_isReleased_episode? same.otherApart,
    same.released]

/-- A visitor who is no administrator may see the same episodes. -/
theorem visibleEpisodes_eq
    (same : LooksLike now catalog other)
    (notAdmin : isAdmin user = false) :
    catalog.visibleEpisodes user now = other.visibleEpisodes user now := by
  have released := same.released
  simp only [Catalog.released] at released
  simp only [visibleEpisodes, notAdmin, Bool.false_or, released]

/-- A visitor who is no administrator may see the same episodes of a collection. -/
theorem collectionEpisodes_eq
    (same : LooksLike now catalog other)
    (notAdmin : isAdmin user = false)
    (collection : Collection) :
    catalog.collectionEpisodes collection user now =
      other.collectionEpisodes collection user now := by
  rw [collectionEpisodes, collectionEpisodes, same.visibleEpisodes_eq notAdmin]

theorem visibleCollections_eq
    (same : LooksLike now catalog other)
    (notAdmin : isAdmin user = false) :
    catalog.visibleCollections user now = other.visibleCollections user now := by
  simp only [visibleCollections, same.collections, same.collectionEpisodes_eq notAdmin]

theorem rss_eq (same : LooksLike now catalog other) (baseUrl : String) :
    Feed.rss catalog baseUrl now = Feed.rss other baseUrl now := by
  have episodes : catalog.visibleEpisodes none now = other.visibleEpisodes none now :=
    same.visibleEpisodes_eq rfl
  unfold Feed.rss
  rw [episodes]

/-- The map of all public pages is the same. -/
theorem sitemap_eq (same : LooksLike now catalog other) (baseUrl : String) :
    Feed.sitemap catalog baseUrl now = Feed.sitemap other baseUrl now := by
  have collections : catalog.visibleCollections none now = other.visibleCollections none now :=
    same.visibleCollections_eq rfl
  have episodes : catalog.visibleEpisodes none now = other.visibleEpisodes none now :=
    same.visibleEpisodes_eq rfl
  simp only [Feed.sitemap, Feed.publicRoutes, collections, episodes]

theorem plansMissing_eq (same : LooksLike now catalog other) :
    Site.plansMissing catalog = Site.plansMissing other := by
  unfold Site.plansMissing
  rw [same.plans]

end LooksLike

end Catalog

namespace World

/-- Two worlds show catalogs that differ only in episodes that are not released. -/
def LooksLike (now : Timestamp) (world other : World) : Prop :=
  world.catalog.LooksLike now other.catalog

end World

/-! ## Pages -/

namespace Site

open Chain

variable {site : Site} {guest : Option Session}

/-- Adding the progress of a visitor to episodes hides every draft. -/
theorem hides_withProgress
    {close : List WatchedEpisode → Chain World}
    (ends : ∀ watched, (close watched).Hides guest (World.LooksLike site.now))
    (episodes : List Episode)
    (userId : Option Uuid) :
    ((WatchedEpisode.withProgress episodes userId).finish close).Hides guest
      (World.LooksLike site.now) := by
  cases userId with
  | none => exact ends _
  | some userId =>
      refine ShowsSame.query [] (WatchedEpisode.entriesOf userId) fun outcome => ?_
      cases outcome with
      | ok entries => exact ends _
      | error failure => exact hides_fail (ServerError.ofQuery failure)

/-- A page of episodes hides every draft if the same ones are picked for the visitor. -/
theorem hides_visibleEpisodes
    {pick : Catalog → Option User → Timestamp → List Episode}
    (samePick : ∀ seen changed : World, World.LooksLike site.now seen changed →
      pick seen.catalog (visitor guest) site.now = pick changed.catalog (visitor guest) site.now)
    {page : Option Session × List WatchedEpisode → Html.Node} :
    ((site.visibleEpisodes pick).finish fun shown => Chain.page (page shown)).Hides guest
      (World.LooksLike site.now) := by
  refine ShowsSame.observe fun seen changed looksLike => ShowsSame.session [] ?_
  have picked := samePick seen changed looksLike
  rw [visitor] at picked
  dsimp only
  rw [picked]
  exact hides_withProgress (fun _ => ShowsSame.respond _) _ _

/-- Answer with the page of an episode if there is one and it is open to the visitor. -/
def answerEpisode (site : Site) (page : Option Session → Episode → Chain World) :
    Option Episode → Chain World
  | none => notFound noSuchEpisode
  | some shown => withSession fun session =>
    if site.isOpen session shown then page session shown else notFound noSuchEpisode

/-- For a visitor who is no administrator, a draft is answered as if it were not there. -/
theorem showsSame_answerEpisode
    {page : Option Session → Episode → Chain World}
    {found other : Option Episode}
    (hidesPage : ∀ shown, (page guest shown).Hides guest (World.LooksLike site.now))
    (notAdmin : Catalog.isAdmin (visitor guest) = false)
    (same : found.filter (fun episode => episode.isReleased site.now) =
      other.filter fun episode => episode.isReleased site.now) :
    ShowsSame guest (World.LooksLike site.now) (site.answerEpisode page found)
      (site.answerEpisode page other) := by
  have missing (episode : Episode) (draft : episode.isReleased site.now = false) :
      (if site.isOpen guest episode then page guest episode else notFound noSuchEpisode) =
        (notFound noSuchEpisode : Chain World) := by
    rw [isOpen, notAdmin, draft, Bool.or_false, if_neg Bool.false_ne_true]
  have nothing : ShowsSame guest (World.LooksLike site.now)
      (notFound noSuchEpisode) (notFound noSuchEpisode) :=
    hides_fail (ServerError.notFound noSuchEpisode)
  cases found with
  | none =>
      cases other with
      | none => exact nothing
      | some episode =>
          cases shown : episode.isReleased site.now with
          | true => simp [Option.filter_some, shown] at same
          | false =>
              refine ShowsSame.sessionRight [] ?_
              rw [missing episode shown]
              exact nothing
  | some episode =>
      cases shown : episode.isReleased site.now with
      | true =>
          have otherFound : other = some episode := by
            rw [Option.filter_some, shown, if_pos rfl] at same
            exact (Option.filter_eq_some_iff.mp same.symm).1
          rw [otherFound]
          refine ShowsSame.session [] ?_
          split
          · exact hidesPage episode
          · exact nothing
      | false =>
          cases other with
          | none =>
              refine ShowsSame.sessionLeft [] ?_
              rw [missing episode shown]
              exact nothing
          | some changed =>
              have alsoDraft : changed.isReleased site.now = false := by
                simpa [Option.filter_some, shown] using same.symm
              refine ShowsSame.session [] ?_
              rw [missing episode shown, missing changed alsoDraft]
              exact nothing

/-- The page of an episode hides every draft. -/
theorem hides_episode
    (notAdmin : Catalog.isAdmin (visitor guest) = false)
    (slug : String) :
    (site.episode slug).Hides guest (World.LooksLike site.now) :=
  ShowsSame.observe fun _ _ looksLike =>
    showsSame_answerEpisode (fun _ => hides_withProgress (fun _ => ShowsSame.respond _) _ _)
      notAdmin (looksLike.episode?_eq slug)

/-- The page of a collection hides every draft. -/
theorem hides_collection
    (notAdmin : Catalog.isAdmin (visitor guest) = false)
    (slug : String) :
    (site.collection slug).Hides guest (World.LooksLike site.now) := by
  refine ShowsSame.observe fun seen changed looksLike => ?_
  rw [looksLike.collection?_eq slug]
  dsimp only
  split
  · exact hides_fail _
  · exact hides_visibleEpisodes fun _ _ looksLike => looksLike.collectionEpisodes_eq notAdmin _

theorem hides_episodesJson (notAdmin : Catalog.isAdmin (visitor guest) = false) :
    site.episodesJson.Hides guest (World.LooksLike site.now) := by
  refine ShowsSame.session [] (ShowsSame.observe fun seen changed looksLike => ?_)
  rw [looksLike.visibleEpisodes_eq notAdmin]
  exact hides_writeJson _

theorem hides_collections (notAdmin : Catalog.isAdmin (visitor guest) = false) :
    site.collections.Hides guest (World.LooksLike site.now) := by
  refine ShowsSame.session [] (ShowsSame.observe fun seen changed looksLike => ?_)
  rw [looksLike.visibleCollections_eq notAdmin]
  exact ShowsSame.respond _

theorem hides_collectionsJson (notAdmin : Catalog.isAdmin (visitor guest) = false) :
    site.collectionsJson.Hides guest (World.LooksLike site.now) := by
  refine ShowsSame.session [] (ShowsSame.observe fun seen changed looksLike => ?_)
  rw [looksLike.visibleCollections_eq notAdmin]
  exact hides_writeJson _

/-- A page that offers plans hides every draft. -/
theorem hides_offerPlans (page : Option Session → Plan → Plan → Html.Node) :
    (offerPlans page).Hides guest (World.LooksLike site.now) := by
  refine ShowsSame.observe fun seen changed looksLike => ?_
  rw [looksLike.monthly?_eq, looksLike.yearly?_eq, looksLike.plansMissing_eq]
  split
  · exact ShowsSame.session [] (ShowsSame.respond _)
  · exact hides_fail _

/-- The page of a coupon hides every draft. -/
theorem hides_promoCode (code : String) :
    (site.promoCode code).Hides guest (World.LooksLike site.now) := by
  refine showsSame_awaitOrFail _ _ fun coupon => ?_
  split
  · refine ShowsSame.observe fun seen changed looksLike => ?_
    rw [looksLike.monthly?_eq, looksLike.yearly?_eq]
    split
    · exact ShowsSame.session [] (ShowsSame.respond _)
    · exact hides_fail _
  · exact hides_fail _

theorem hides_teamMemberSignup (token : Uuid) :
    (site.teamMemberSignup token).Hides guest (World.LooksLike site.now) := by
  refine showsSame_queryOrFail _ fun manager => ?_
  cases manager with
  | none => exact hides_fail _
  | some manager => exact ShowsSame.session [] (ShowsSame.respond _)

/-- Answering with a file hides every draft. -/
theorem hides_staticFile (segments : List String) :
    (site.staticFile segments).Hides guest (World.LooksLike site.now) := by
  unfold staticFile
  dsimp only
  split
  · exact ShowsSame.respond _
  · exact ShowsSame.respond _

/-! ## Signing in -/

theorem hides_startSession (userId : Uuid) (origin : Option String) :
    (site.startSession userId origin).Hides guest (World.LooksLike site.now) :=
  ShowsSame.fresh fun _ => showsSame_queryOrFail _ fun _ => ShowsSame.respond _

/-- Taking in a visitor who comes back with a code hides every draft. -/
theorem hides_githubCallback (code origin : Option String) :
    (site.githubCallback code origin).Hides guest (World.LooksLike site.now) := by
  cases code with
  | none => exact hides_fail _
  | some code =>
      refine showsSame_awaitOrFail _ _ fun accessToken => ?_
      cases accessToken with
      | none => exact hides_fail _
      | some accessToken =>
          refine showsSame_awaitOrFail _ _ fun profile => ?_
          refine showsSame_queryOrFail _ fun user => ?_
          cases user with
          | none =>
              exact ShowsSame.fresh fun _ => ShowsSame.fresh fun _ =>
                showsSame_queryOrFail _ fun userId => hides_startSession userId origin
          | some user => exact hides_startSession user.id origin

/-! ## Notices -/

/-- Finding the user of an account hides every draft. -/
theorem hides_updateUser (accountCode : String) (status : SubscriptionStatus) :
    (updateUser accountCode status).Hides guest (World.LooksLike site.now) := by
  unfold updateUser
  split
  · exact ShowsSame.note _ (ShowsSame.respond _)
  · refine ShowsSame.query [] _ fun outcome => ?_
    split
    · refine ShowsSame.query [] _ fun outcome => ?_
      split
      · exact ShowsSame.respond _
      · exact hides_logFailure _ _
    · exact ShowsSame.note _ (ShowsSame.respond _)
    · exact hides_logFailure _ _

/-- Asking for the status of an account hides every draft. -/
theorem hides_syncStatus (accountCode : String) :
    (syncStatus accountCode).Hides guest (World.LooksLike site.now) := by
  refine ShowsSame.task [] _ fun outcome => ?_
  split
  · exact hides_updateUser accountCode _
  · exact ShowsSame.note _ (ShowsSame.respond _)
  · exact hides_logFailure _ _

theorem hides_notify (mail : Email) : (notify mail).Hides guest (World.LooksLike site.now) := by
  refine ShowsSame.task [] _ fun outcome => ?_
  split
  · exact ShowsSame.respond _
  · exact hides_logFailure _ _

theorem hides_saveGift (gift : Stored Gift) :
    (saveGift gift).Hides guest (World.LooksLike site.now) :=
  showsSame_queryOrFail _ fun _ => ShowsSame.respond _

/-- Finding the gift that a notice is about hides every draft. -/
theorem hides_updateGift (subscription : Option SubscriptionNotice) :
    (updateGift subscription).Hides guest (World.LooksLike site.now) := by
  unfold updateGift
  split
  · exact ShowsSame.respond _
  · refine ShowsSame.observe fun seen changed looksLike => showsSame_queryOrFail _ fun found => ?_
    split
    · exact ShowsSame.note _ (ShowsSame.respond _)
    · unfold changeGift
      rw [giftMail, giftMail, looksLike.plan?_eq]
      split
      · exact hides_saveGift _
      · exact (hides_notify _).besides (hides_saveGift _)
      · exact ShowsSame.respond _

theorem hides_billingNotice : billingNotice.Hides guest (World.LooksLike site.now) := by
  refine ShowsSame.body [] fun body => ?_
  split
  · exact ShowsSame.note _ (ShowsSame.respond _)
  · exact (hides_syncStatus _).besides (hides_updateGift _)

theorem hides_contentNotice : contentNotice.Hides guest (World.LooksLike site.now) := by
  refine ShowsSame.besides (ShowsSame.task [] _ fun outcome => ?_) (ShowsSame.respond _)
  split
  · exact ShowsSame.respond _
  · exact hides_logFailure _ _

/-! ## Requests -/

/-- The chain of every route hides every draft. -/
theorem hides_chain (notAdmin : Catalog.isAdmin (visitor guest) = false) (route : Route) :
    (site.chain route).Hides guest (World.LooksLike site.now) := by
  cases route with
  | home =>
      refine hides_visibleEpisodes fun seen changed looksLike => ?_
      rw [looksLike.visibleEpisodes_eq notAdmin]
  | episodes =>
      exact hides_visibleEpisodes fun _ _ looksLike => looksLike.visibleEpisodes_eq notAdmin
  | episodesJson => exact hides_episodesJson notAdmin
  | rssFeed =>
      refine ShowsSame.observe fun seen changed looksLike => ?_
      rw [looksLike.rss_eq]
      exact ShowsSame.respond _
  | collections => exact hides_collections notAdmin
  | collectionsJson => exact hides_collectionsJson notAdmin
  | collection slug => exact hides_collection notAdmin slug
  | episode slug => exact hides_episode notAdmin slug
  | subscribe => exact hides_offerPlans _
  | subscribeTeam => exact hides_offerPlans _
  | sitemap =>
      refine ShowsSame.observe fun seen changed looksLike => ?_
      rw [looksLike.sitemap_eq]
      exact ShowsSame.respond _
  | promoCode code => exact hides_promoCode code
  | teamMemberSignup token => exact hides_teamMemberSignup token
  | staticFile segments => exact hides_staticFile segments
  | login origin => exact hides_send _
  | githubCallback code origin => exact hides_githubCallback code origin
  | recurlyWebhook => exact hides_billingNotice
  | githubWebhook => exact hides_contentNotice

/-- The chain of every request hides every draft. -/
theorem hides_dispatch
    (notAdmin : Catalog.isAdmin (visitor guest) = false)
    (head : RequestHead) :
    (site.dispatch head).Hides guest (World.LooksLike site.now) := by
  unfold dispatch
  split
  · exact hides_chain notAdmin _
  · exact hides_fail _

variable {state other : Type}

/-- Nobody but an administrator learns anything about an episode that is not released. If two
stand-ins give the same answers, and show catalogs that differ only in such episodes, a request of a
visitor who is no administrator is answered by the same terminal with both. The same statements and
tasks are issued for it, the journals are the same but for the log, and what the stand-ins have been
left in belongs together still. -/
theorem terminal_capture_dispatch_of_looksLike
    {first : StandIn state World}
    {second : StandIn other World}
    {belong : state → other → Prop}
    {left : state}
    {right : other}
    (head : RequestHead)
    (agree : first.ShowsSame second (World.LooksLike site.now) belong)
    (notAdmin : Catalog.isAdmin (visitor first.session) = false)
    (together : belong left right) :
    let one := (site.dispatch head).capture first { state := left }
    let two := (site.dispatch head).capture second { state := right }
    one.1.terminal = two.1.terminal ∧
      one.1.allQueries = two.1.allQueries ∧ one.1.allTasks = two.1.allTasks ∧
      Event.unlogged one.2.journal = Event.unlogged two.2.journal ∧
      belong one.2.state two.2.state := by
  have start : Recording.GoesWith belong { state := left } { state := right } :=
    ⟨together, rfl, rfl⟩
  obtain ⟨outcomes, states⟩ := (hides_dispatch notAdmin head).capture agree start
  exact ⟨outcomes.terminal, outcomes.queries, outcomes.tasks, states.journal, states.state⟩

/-- Whether there is a draft under a slug or nothing at all, a visitor who is not signed in gets the
same answer. -/
theorem terminal_capture_dispatch_of_draft :
    let released := Timestamp.ofUnix 1717232400 0
    let later := Timestamp.ofUnix 1717318800 0
    let site : Site := { now := released }
    let head := RequestHead.ofRoute (Route.episode "second")
    let shown : Episode := { (default : Episode) with
      number := 1, slug := "first", releasedAt := some released, collections := ["basics"] }
    let draft : Episode := { (default : Episode) with
      number := 2, slug := "second", releasedAt := some later, collections := ["basics"] }
    let catalog (episodes : List Episode) : Catalog :=
      { Catalog.empty with
        episodes, collections := [{ slug := "basics", title := "Basics", description := "" }] }
    let stubs (episodes : List Episode) : Stubs World :=
      { pool := {}, world := { catalog := catalog episodes, source := Except.ok Catalog.empty } }
    let standIn : StandIn (Stubs World) World := Stubs.standIn none []
    (catalog [draft, shown]).LooksLike site.now (catalog [shown]) ∧
      ((site.dispatch head).capture standIn { state := stubs [draft, shown] }).1.terminal =
        ((site.dispatch head).capture standIn { state := stubs [shown] }).1.terminal := by
  intro released later site head shown draft catalog stubs standIn
  have looksLike : (catalog [draft, shown]).LooksLike site.now (catalog [shown]) := by
    constructor
    case plans => rfl
    case collections => rfl
    case released => decide +kernel
    case apart => decide +kernel
    case otherApart => decide +kernel
  have agree : standIn.ShowsSame standIn (World.LooksLike site.now)
      (Stubs.DiffersInWorld (World.LooksLike site.now)) :=
    Stubs.showsSame_standIn none []
  have differ : (stubs [draft, shown]).DiffersInWorld (World.LooksLike site.now) (stubs [shown]) :=
    ⟨rfl, looksLike, rfl, rfl⟩
  obtain ⟨sameTerminal, _⟩ :=
    terminal_capture_dispatch_of_looksLike head agree rfl differ
  exact ⟨looksLike, sameTerminal⟩

end Site

end Screencast
