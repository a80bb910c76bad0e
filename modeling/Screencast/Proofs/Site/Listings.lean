import Screencast.Effect.Stubs
import Screencast.Proofs.Site.Catalog
import Screencast.Proofs.Site.Feed
import Screencast.Proofs.Site.Player
import Screencast.Site.Dispatch
import Screencast.Site.Visit

/-!
# The listings agree

The feed, the map of all public pages, the listing for other programs and the page of episodes are
read again, each in its own way. To a visitor who is not signed in all of them tell the same
episodes in the same order, and every address in them leads to the page that it was written for.
Another program reads its listing field by field: it reads the episodes as they are, since their
numbers have 32 bits and their dates can be written.
-/

namespace Screencast

/-! ## Summaries of episodes -/

/-- What another program reads about an episode. -/
structure EpisodeSummary where
  number : Nat
  title : String
  synopsis : String
  url : String
  subscriptionOnly : Bool
  releasedAt : Option Timestamp
  durationSeconds : Nat
  deriving DecidableEq

namespace EpisodeSummary

/-- The names of the fields. -/
def names : List String :=
  ["number", "title", "synopsis", "url", "subscription_only", "released_at", "duration_seconds"]

/-- The reader of summaries. Every field has to be there. -/
def shape : Shape EpisodeSummary := fun allowance source => do
  let members ← Members.of names allowance source
  let number ← members.required "number" Shape.word
  let title ← members.required "title" Shape.text
  let synopsis ← members.required "synopsis" Shape.text
  let url ← members.required "url" Shape.text
  let subscriptionOnly ← members.required "subscription_only" Shape.bool
  let releasedAt ←
    members.required "released_at" (Shape.optional (Shape.parsed Timestamp.parse?))
  let durationSeconds ← members.required "duration_seconds" Shape.word
  pure { number, title, synopsis, url, subscriptionOnly, releasedAt, durationSeconds }

/-- The summaries in a text. -/
def readAll? (bytes : Bytes) : Option (List EpisodeSummary) :=
  JsonSource.read? bytes >>= Shape.list shape JsonSource.nesting

/-- The summary of an episode, with its address on a site. -/
def of (baseUrl : String) (episode : Episode) : EpisodeSummary where
  number := episode.number
  title := episode.title
  synopsis := episode.synopsis
  url := Route.absolute baseUrl (Route.episode episode.slug)
  subscriptionOnly := episode.subscriptionOnly
  releasedAt := episode.releasedAt
  durationSeconds := episode.durationSeconds

variable {site : Site} {episode : Episode}

/-- The summary of an episode that can be written is read from its tree. -/
theorem shape_source
    {allowance : Nat}
    (writable : episode.IsWritable)
    (isAllowed : 1 < allowance) :
    shape allowance (site.episodeSummary episode).source = some (of site.baseUrl episode) := by
  have number := Shape.word_source writable.number (allowance - 1)
  have seconds := Shape.word_source writable.durationSeconds (allowance - 1)
  have date := Episode.optional_parsed_releaseJson writable.releasedAt (allowance - 1)
  rw [shape]
  refine Option.bind_eq_some_iff.2
    ⟨_, Members.of_source isAllowed (by simp [names]) (by simp), ?_⟩
  refine Option.bind_eq_some_iff.2 ⟨_, Members.required_eq_some rfl number, ?_⟩
  refine Option.bind_eq_some_iff.2 ⟨_, Members.required_eq_some rfl (Shape.text_source _ _), ?_⟩
  refine Option.bind_eq_some_iff.2 ⟨_, Members.required_eq_some rfl (Shape.text_source _ _), ?_⟩
  refine Option.bind_eq_some_iff.2 ⟨_, Members.required_eq_some rfl (Shape.text_source _ _), ?_⟩
  refine Option.bind_eq_some_iff.2 ⟨_, Members.required_eq_some rfl (Shape.bool_source _ _), ?_⟩
  refine Option.bind_eq_some_iff.2 ⟨_, Members.required_eq_some rfl date, ?_⟩
  exact Option.bind_eq_some_iff.2 ⟨_, Members.required_eq_some rfl seconds, rfl⟩

theorem isIntegral (writable : episode.IsWritable) : (site.episodeSummary episode).IsIntegral := by
  refine Json.IsIntegral.object ?_
  simp [Json.isIntegral_integer writable.number, Json.isIntegral_integer writable.durationSeconds,
    Episode.isIntegral_releaseJson, Json.IsIntegral.string, Json.IsIntegral.bool]

/-- Episodes that can be written are listed. -/
theorem episodeSummaries_eq
    (site : Site)
    {episodes : List Episode}
    (writable : ∀ episode ∈ episodes, episode.IsWritable) :
    site.episodeSummaries episodes =
      Except.ok (Json.array (episodes.map site.episodeSummary)) :=
  if_pos (List.all_eq_true.2 fun episode present => (writable episode present).hasWritableRelease)

/-- Episodes that can be written are read again from the listing of them. -/
theorem readAll?_compact
    {episodes : List Episode}
    (writable : ∀ episode ∈ episodes, episode.IsWritable) :
    readAll? (Text.encode (Json.array (episodes.map site.episodeSummary)).compact) =
      some (episodes.map (of site.baseUrl)) := by
  have integral : (Json.array (episodes.map site.episodeSummary)).IsIntegral :=
    Json.IsIntegral.array (List.forall_mem_map.2 fun episode present =>
      isIntegral (writable episode present))
  rw [readAll?, Json.compact_eq_written 0, JsonSource.read?_written Layout.isBlank_dense integral 0]
  have deep : 1 < JsonSource.nesting - 1 := by decide
  exact Shape.list_source_map site.episodeSummary (of site.baseUrl) (Nat.lt_of_lt_pred deep)
    fun episode present => shape_source (writable episode present) deep

end EpisodeSummary

/-! ## The page -/

namespace Page

open Html

/-- The links of a page that is shown to a visitor who is not signed in: those that are on every
page, and those of its content. -/
theorem writtenTargets_layout
    (site : Site)
    (current : Route)
    (title : String)
    (content : List Node) :
    (layout site none current title content).writtenTargets =
      [Route.home, Route.episodes, Route.collections, Route.subscribe,
          Route.login (some current.url)].map Route.url ++
        content.flatMap Node.writtenTargets := by
  simp [layout, Node.document, stylesheetNode, navigation, accountNode,
    Node.writtenTargets_element, Node.isVoid]

theorem writtenTargets_episodeItem (episode : Episode) :
    (episodeItem (WatchedEpisode.unwatched episode)).writtenTargets =
      [(Route.episode episode.slug).url] := by
  cases only : episode.subscriptionOnly <;>
    simp [episodeItem, WatchedEpisode.unwatched, only, remark, Node.div,
      Node.writtenTargets_element, Node.isVoid]

/-- The links of the page of episodes lead to the episodes, behind the links on every page. -/
theorem writtenTargets_episodes (site : Site) (listed : List Episode) :
    (episodes site none (listed.map WatchedEpisode.unwatched)).writtenTargets =
      ([Route.home, Route.episodes, Route.collections, Route.subscribe,
          Route.login (some Route.episodes.url)] ++
        listed.map fun episode => Route.episode episode.slug).map Route.url := by
  have inList : (episodeList (listed.map WatchedEpisode.unwatched)).writtenTargets =
      listed.map fun episode => (Route.episode episode.slug).url := by
    simp [episodeList, Node.bullets, Node.writtenTargets_element, Node.isVoid, List.flatMap_map,
      writtenTargets_episodeItem]
    exact List.map_eq_flatMap.symm
  rw [episodes, writtenTargets_layout, List.map_append, List.map_map]
  simp [Node.heading, Node.writtenTargets_element, Node.isVoid, inList, Function.comp_def]

/-- The page of episodes is plain. -/
theorem isPlain_episodes
    (site : Site)
    (session : Option Session)
    (listed : List WatchedEpisode) :
    (episodes site session listed).IsPlain := by
  have names : ∀ name ∈ ["h1", "ul", "li", "div", "class", "a", "href", "span"],
      IsName name := by
    decide
  simp only [List.forall_mem_cons] at names
  have item : ∀ watched, (episodeItem watched).IsPlain := by
    intro watched
    cases only : watched.episode.subscriptionOnly <;>
      simp [episodeItem, only, remark, Node.div, Node.link, Node.isPlain_element_iff, AreNamed,
        Node.IsPlain.text, names]
  refine isPlain_layout site session ?_ _ _
  simp [Node.heading, episodeList, Node.bullets, Node.isPlain_element_iff, AreNamed,
    Node.IsPlain.text, names, item]

/-- The links of the page of episodes are read back from its markup. -/
theorem links?_episodes (site : Site) (listed : List Episode) :
    links? (episodes site none (listed.map WatchedEpisode.unwatched)).renderDocument =
      some (([Route.home, Route.episodes, Route.collections, Route.subscribe,
          Route.login (some Route.episodes.url)] ++
        listed.map fun episode => Route.episode episode.slug).map Route.url) := by
  rw [← writtenTargets_episodes site]
  exact Node.links?_renderDocument (isPlain_episodes site none _)

end Page

/-! ## Addresses -/

namespace Route

/-- The target that is left of an address without the address of the site, whose trailing slashes do
not count. -/
def target? (baseUrl address : String) : Option String :=
  let site := (Text.trimTrailing '/' baseUrl).toList
  if site.isPrefixOf address.toList then some (String.ofList (address.toList.drop site.length))
  else none

theorem target?_absolute (baseUrl : String) (route : Route) :
    target? baseUrl (absolute baseUrl route) = some route.url := by
  simp [target?, absolute]

/-- A route that is requested by the method of links, and that names nothing empty, is read back
from the target of a link to it. -/
theorem route?_following_url
    {route : Route}
    (isGet : route.method = "GET")
    (named : route.NamesNothingEmpty) :
    (RequestHead.following route.url).route? = some route := by
  rw [RequestHead.following_url isGet, route?_ofRoute_of_namesNothingEmpty named]

end Route

/-! ## What is sent -/

namespace Site

variable {state : Type} {standIn : StandIn state World} {asked : state} {catalog : Catalog}

/-- What is sent to whoever asks for a route. -/
def answer
    (site : Site)
    (standIn : StandIn state World)
    (asked : state)
    (route : Route) :
    Terminal :=
  ((site.dispatch (RequestHead.ofRoute route)).capture standIn { state := asked }).1.terminal

/-- Whoever asks for the feed is sent the feed of the catalog. -/
theorem bodyText_answer_rssFeed
    (site : Site)
    (published : (standIn.world asked).catalog = catalog) :
    (site.answer standIn asked Route.rssFeed).bodyText =
      Feed.rss catalog site.baseUrl site.now := by
  have named : Route.rssFeed.NamesNothingEmpty := trivial
  rw [answer, dispatch_ofRoute site named, ← published]
  rfl

/-- Whoever asks for the map of all public pages is sent that of the catalog. -/
theorem bodyText_answer_sitemap
    (site : Site)
    (published : (standIn.world asked).catalog = catalog) :
    (site.answer standIn asked Route.sitemap).bodyText =
      Feed.sitemap catalog site.baseUrl site.now := by
  have named : Route.sitemap.NamesNothingEmpty := trivial
  rw [answer, dispatch_ofRoute site named, ← published]
  rfl

/-- A visitor who is not signed in and asks for the listing for other programs is sent the summaries
of the episodes that everybody may see. -/
theorem bodyText_answer_episodesJson
    (site : Site)
    (signedOut : standIn.session = none)
    (published : (standIn.world asked).catalog = catalog)
    (writable : ∀ episode ∈ catalog.visibleEpisodes none site.now, episode.IsWritable) :
    (site.answer standIn asked Route.episodesJson).bodyText =
      (Json.array ((catalog.visibleEpisodes none site.now).map site.episodeSummary)).compact := by
  have named : Route.episodesJson.NamesNothingEmpty := trivial
  have guest : visitor standIn.session = none := by rw [signedOut]; rfl
  have listed := EpisodeSummary.episodeSummaries_eq site writable
  rw [← published, ← guest] at listed ⊢
  rw [answer, dispatch_ofRoute site named]
  change (Chain.capture standIn (Chain.writeJson _) _).1.terminal.bodyText = _
  rw [listed]
  rfl

/-- A visitor who is not signed in and asks for the page of episodes is sent that of the episodes
that everybody may see. -/
theorem answer_episodes
    (site : Site)
    (signedOut : standIn.session = none)
    (published : (standIn.world asked).catalog = catalog) :
    site.answer standIn asked Route.episodes =
      Terminal.html
        (Page.episodes site none
          ((catalog.visibleEpisodes none site.now).map WatchedEpisode.unwatched)) Status.ok := by
  have named : Route.episodes.NamesNothingEmpty := trivial
  obtain ⟨session, body, query, task, world⟩ := standIn
  obtain rfl : session = none := signedOut
  rw [answer, dispatch_ofRoute site named, ← published]
  rfl

/-- The route that is read from an address without the address of the site, when a browser follows a
link to what is left of it. -/
def routeAt? (site : Site) (address : String) : Option Route :=
  (Route.target? site.baseUrl address).bind fun target => (RequestHead.following target).route?

/-- The listings agree. If a catalog was loaded from a file and is published, and the address of the
site has no line break, a visitor who is not signed in reads the same episodes everywhere: the feed
has one item for each of them, the map of all public pages has a line for each fixed page, for each
collection that everybody may see and for each of these episodes, the listing for other programs has
their summaries, and the page of episodes has a link to each of them, all in the same order. Every
address leads to the page that it was written for, unless it names something empty. -/
theorem listings_of_load
    {file : Option Bytes}
    (site : Site)
    (loaded : Catalog.load file = Except.ok catalog)
    (unbroken : '\n' ∉ site.baseUrl.toList)
    (signedOut : standIn.session = none)
    (published : (standIn.world asked).catalog = catalog) :
    let listed := catalog.visibleEpisodes none site.now
    let toEpisodes := listed.map fun episode => Route.episode episode.slug
    let toCollections := (catalog.visibleCollections none site.now).map
      fun (collection, _) => Route.collection collection.slug
    let toLogin := Route.login (some Route.episodes.url)
    let bodyText (route : Route) : String := (site.answer standIn asked route).bodyText
    Feed.read? (bodyText Route.rssFeed) =
        some
          { heading := ("rss", "") :: ("channel", "") :: Feed.heading site.baseUrl
            items := listed.map (Feed.entry site.baseUrl) } ∧
      Text.split '\n' (bodyText Route.sitemap) =
        ([Route.home, Route.episodes, Route.collections, Route.subscribe, Route.subscribeTeam] ++
          toCollections ++ toEpisodes).map (Route.absolute site.baseUrl) ++ [""] ∧
      EpisodeSummary.readAll? (Text.encode (bodyText Route.episodesJson)) =
        some (listed.map (EpisodeSummary.of site.baseUrl)) ∧
      Html.links? (bodyText Route.episodes) =
        some (([Route.home, Route.episodes, Route.collections, Route.subscribe, toLogin] ++
          toEpisodes).map Route.url) ∧
      ∀ route ∈ [Route.home, Route.episodes, Route.collections, Route.subscribe,
          Route.subscribeTeam, toLogin] ++ toCollections ++ toEpisodes,
        route.NamesNothingEmpty →
          site.routeAt? (Route.absolute site.baseUrl route) = some route ∧
            (RequestHead.following route.url).route? = some route := by
  intro listed toEpisodes toCollections toLogin bodyText
  have writable : ∀ episode ∈ listed, episode.IsWritable := fun episode isListed =>
    (Catalog.isWritable_of_load loaded).episodes episode
      (Catalog.mem_of_mem_visibleEpisodes isListed)
  refine ⟨?feed, ?map, ?summaries, ?page, ?addresses⟩
  case feed =>
    rw [show bodyText Route.rssFeed = _ from bodyText_answer_rssFeed site published]
    exact Feed.read?_rss catalog site.baseUrl site.now
  case map =>
    rw [show bodyText Route.sitemap = _ from bodyText_answer_sitemap site published]
    exact Feed.split_sitemap catalog site.now unbroken
  case summaries =>
    rw [show bodyText Route.episodesJson = _ from
      bodyText_answer_episodesJson site signedOut published writable]
    exact EpisodeSummary.readAll?_compact writable
  case page =>
    rw [show bodyText Route.episodes = _ from
      congrArg Terminal.bodyText (answer_episodes site signedOut published)]
    exact Page.links?_episodes site listed
  case addresses =>
    have areGet : ∀ route ∈ [Route.home, Route.episodes, Route.collections, Route.subscribe,
        Route.subscribeTeam, toLogin] ++ toCollections ++ toEpisodes, route.method = "GET" := by
      refine List.forall_mem_append.2
        ⟨List.forall_mem_append.2 ⟨?fixed, ?collections⟩, ?episodes⟩
      case fixed => simp [Route.method, toLogin]
      case collections => exact List.forall_mem_map.2 fun _ _ => rfl
      case episodes => exact List.forall_mem_map.2 fun _ _ => rfl
    intro route isListed named
    have readBack := Route.route?_following_url (areGet route isListed) named
    refine ⟨?_, readBack⟩
    rw [routeAt?, Route.target?_absolute, Option.bind_some, readBack]

/-- Markup in a title, an escape in a synopsis and a slash in a slug are read as they are. The
episode without a slug is listed, and the one that is not released is not. -/
theorem listings_of_strange_episodes :
    let released := Timestamp.ofUnix 1717232400 0
    let site : Site := { baseUrl := "https://example.com/a//", now := released }
    let escaped : Episode := { (default : Episode) with
      number := 1, slug := "a b/ä?", title := "</title><item>", synopsis := "&amp;\n\"<b>\"",
      releasedAt := some released, collections := ["c&d"] }
    let draft : Episode := { (default : Episode) with number := 3, slug := "draft" }
    let unnamed : Episode := { (default : Episode) with
      number := 2, title := "]]>", releasedAt := some released }
    let catalog : Catalog := { Catalog.empty with episodes := [escaped, draft, unnamed] }
    let world : World := { catalog, source := Except.ok catalog }
    let bodyText (route : Route) : String := (site.answer Stubs.unprepared world route).bodyText
    Catalog.load (some (Text.encode catalog.toJson.compact)) = Except.ok catalog ∧
      Feed.read? (bodyText Route.rssFeed) =
        some
          { heading := ("rss", "") :: ("channel", "") :: Feed.heading site.baseUrl
            items := [Feed.entry site.baseUrl unnamed, Feed.entry site.baseUrl escaped] } ∧
      Html.links? (bodyText Route.episodes) =
        some ["/", "/episodes", "/collections", "/subscribe", "/login?origin=%2Fepisodes",
          "/episodes/", "/episodes/a%20b%2F%C3%A4%3F"] ∧
      site.routeAt? "https://example.com/a/episodes/a%20b%2F%C3%A4%3F" =
        some (Route.episode "a b/ä?") := by
  intro released site escaped draft unnamed catalog world bodyText
  have isReadable : released.IsReadable := by
    constructor <;> decide +kernel
  have date : ∀ found ∈ some released, found.IsReadable := by
    rintro _ ⟨⟩
    exact isReadable
  have writable : catalog.IsWritable := by
    have first : escaped.IsWritable := ⟨by decide, by decide, date⟩
    have second : draft.IsWritable := ⟨by decide, by decide, nofun⟩
    have third : unnamed.IsWritable := ⟨by decide, by decide, date⟩
    refine ⟨List.forall_mem_cons.2 ⟨first, List.forall_mem_cons.2 ⟨second, ?_⟩⟩, ?_⟩
    · exact List.forall_mem_singleton.2 third
    · exact List.forall_mem_nil _
  have loaded := (Catalog.load_compact_toJson_iff catalog).2 writable
  have shown : catalog.episodes.filter (fun episode => episode.isReleased released) =
      [escaped, unnamed] := by decide +kernel
  have listed : catalog.visibleEpisodes none released = [unnamed, escaped] := by
    change (catalog.episodes.filter fun episode => episode.isReleased released).mergeSort _ = _
    rw [shown]
    simp [List.mergeSort, List.MergeSort.Internal.splitInTwo, escaped, unnamed]
  have address : Route.absolute site.baseUrl (Route.episode escaped.slug) =
      "https://example.com/a/episodes/a%20b%2F%C3%A4%3F" := by decide +kernel
  have signedOut : (Stubs.unprepared : StandIn World World).session = none := rfl
  have published : (Stubs.unprepared.world world).catalog = catalog := rfl
  obtain ⟨feed, _, _, page, addresses⟩ :=
    listings_of_load site loaded (by decide +kernel) signedOut published
  rw [show site.now = released from rfl, listed] at feed page addresses
  refine ⟨loaded, feed, page.trans ?links, ?route⟩
  case links => decide +kernel
  case route =>
    have isListed : Route.episode escaped.slug ∈
        [unnamed, escaped].map fun episode => Route.episode episode.slug := by simp
    have named : escaped.slug ≠ "" := by decide
    rw [← address]
    exact (addresses _ (List.mem_append_right _ isListed) named).1

end Site

end Screencast
