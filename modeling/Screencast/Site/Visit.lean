import Screencast.Effect.Chain
import Screencast.Site.Page

/-!
# Visits

The chains behind the pages that visitors read, and behind the listings for other programs.
-/

namespace Screencast

namespace Site

/-! ## Listings -/

/-- The number of episodes on the home page. -/
def recentEpisodes : Nat := 6

/-- Answer with the home page. -/
def home (site : Site) : Chain World :=
  (site.visibleEpisodes fun catalog user now =>
    (catalog.visibleEpisodes user now).take recentEpisodes).finish
      fun (session, episodes) => Chain.page (Page.home site session episodes)

/-- Answer with the listing of episodes. -/
def episodes (site : Site) : Chain World :=
  (site.visibleEpisodes Catalog.visibleEpisodes).finish fun (session, episodes) =>
    Chain.page (Page.episodes site session episodes)

/-- The user of a session. -/
def visitor (session : Option Session) : Option User := session.map fun session => session.user.data

/-- An episode in the listing for other programs. -/
def episodeSummary (site : Site) (episode : Episode) : Json :=
  Json.object
    [("number", Json.integer episode.number),
      ("title", Json.string episode.title),
      ("synopsis", Json.string episode.synopsis),
      ("url", Json.string (Route.absolute site.baseUrl (Route.episode episode.slug))),
      ("subscription_only", Json.bool episode.subscriptionOnly),
      ("released_at", Episode.releaseJson episode.releasedAt),
      ("duration_seconds", Json.integer episode.durationSeconds)]

/-- The listing of episodes for other programs, unless a release date in it cannot be written. -/
def episodeSummaries (site : Site) (episodes : List Episode) : Except String Json :=
  if episodes.all Episode.hasWritableRelease then
    Except.ok (Json.array (episodes.map site.episodeSummary))
  else Except.error RowError.unwritableTimestamp.detail

/-- Answer with the listing of episodes for other programs. -/
def episodesJson (site : Site) : Chain World :=
  Chain.withSession fun session =>
    Chain.observe fun world =>
      let episodes := world.catalog.visibleEpisodes (visitor session) site.now
      Chain.writeJson (site.episodeSummaries episodes)

/-- Answer with the feed. -/
def rssFeed (site : Site) : Chain World :=
  Chain.observe fun world =>
    Chain.respond
      (Terminal.text (Feed.rss world.catalog site.baseUrl site.now) Status.ok
        [("Content-Type", Feed.contentType)])

/-- Answer with the map of all public pages. -/
def sitemap (site : Site) : Chain World :=
  Chain.observe fun world => Chain.write (Feed.sitemap world.catalog site.baseUrl site.now)

/-- Answer with the listing of collections. -/
def collections (site : Site) : Chain World :=
  Chain.withSession fun session =>
    Chain.observe fun world =>
      let listed := world.catalog.visibleCollections (visitor session) site.now
      Chain.page (Page.collections site session listed)

/-- A collection in the listing for other programs. -/
def collectionSummary (site : Site) (collection : Collection) (count : Nat) : Json :=
  Json.object
    [("title", Json.string collection.title),
      ("description", Json.string collection.description),
      ("url", Json.string (Route.absolute site.baseUrl (Route.collection collection.slug))),
      ("episode_count", Json.integer count)]

/-- Answer with the listing of collections for other programs. -/
def collectionsJson (site : Site) : Chain World :=
  Chain.withSession fun session =>
    Chain.observe fun world =>
      let listed := world.catalog.visibleCollections (visitor session) site.now
      Chain.writeJson
        (Except.ok
          (Json.array (listed.map fun (collection, count) =>
            site.collectionSummary collection count)))

/-! ## Single pages -/

/-- The message for a collection that is not there. -/
def noSuchCollection : String := "No such collection"

/-- The message for an episode that is not there. -/
def noSuchEpisode : String := "No such episode"

/-- Answer with the page of a collection. -/
def collection (site : Site) (slug : String) : Chain World :=
  Chain.observe fun world =>
    match world.catalog.collection? slug with
    | none => Chain.notFound noSuchCollection
    | some shown =>
      (site.visibleEpisodes fun catalog user now =>
        catalog.collectionEpisodes shown user now).finish
          fun (session, episodes) => Chain.page (Page.collection site session shown episodes)

/-- Whether an episode is there for a visitor. -/
def isOpen (site : Site) (session : Option Session) (episode : Episode) : Bool :=
  Catalog.isAdmin (visitor session) || episode.isReleased site.now

/-- Answer with the page of an episode. -/
def episode (site : Site) (slug : String) : Chain World :=
  Chain.observe fun world =>
    match world.catalog.episode? slug with
    | none => Chain.notFound noSuchEpisode
    | some shown =>
      Chain.withSession fun session =>
        if site.isOpen session shown then
          (WatchedEpisode.withProgress [shown] (session.map Session.userId)).finish fun watched =>
            Chain.page
              (Page.episode site session shown (watched.head?.bind WatchedEpisode.progress))
        else Chain.notFound noSuchEpisode

/-! ## Subscriptions -/

/-- The failure of a page that needs plans that are not there. -/
def plansMissing (catalog : Catalog) : ServerError where
  privateMessage :=
    "can't find monthly or yearly plan among " ++ toString catalog.plans.length ++ " plans"
  publicMessage := genericMessage

/-- Answer with a page that offers the monthly and the yearly plan. -/
def offerPlans (page : Option Session → Plan → Plan → Html.Node) : Chain World :=
  Chain.observe fun world =>
    match world.catalog.monthly?, world.catalog.yearly? with
    | some monthly, some yearly =>
      Chain.withSession fun session => Chain.page (page session monthly yearly)
    | _, _ => Chain.fail (plansMissing world.catalog)

/-- Answer with the page of plans. -/
def subscribe (site : Site) : Chain World := offerPlans (Page.subscribe site)

/-- Answer with the page of plans for teams. -/
def subscribeTeam (site : Site) : Chain World := offerPlans (Page.subscribeTeam site)

/-- The failure of a coupon that cannot be used any more. -/
def couponSpent (code : String) (coupon : Coupon) : ServerError :=
  ServerError.badRequest ("coupon " ++ code ++ " is " ++ coupon.state)
    "This coupon is not redeemable anymore."

/-- The failure of a coupon without plans to use it for. -/
def couponIdle : ServerError where
  privateMessage := "plans not loaded"
  publicMessage := "A small hiccup. Please try again in a little while."

/-- Answer with the page of a coupon. -/
def promoCode (site : Site) (code : String) : Chain World :=
  Chain.awaitOrFail (Collaborator.coupon code) "Can't find that coupon." fun coupon =>
    if coupon.isRedeemable then
      Chain.observe fun world =>
        match world.catalog.monthly?, world.catalog.yearly? with
        | some monthly, some yearly =>
          Chain.withSession fun session =>
            Chain.page (Page.promoCode site session coupon monthly yearly)
        | _, _ => Chain.fail couponIdle
    else Chain.fail (couponSpent code coupon)

/-- The failure of a link into a team that nobody has. -/
def unknownSignup (token : Uuid) : ServerError where
  privateMessage := "signup token doesn't exist: " ++ token.text
  publicMessage :=
    "This signup link is invalid. Please get in touch with your team manager for a new one."
  status := Status.notFound

/-- Answer with the page behind the link into a team. -/
def teamMemberSignup (site : Site) (token : Uuid) : Chain World :=
  Chain.queryOrFail (Stored.selectBy User "team_token" (Row.ofUuid token)) fun manager =>
    match manager with
    | none => Chain.fail (unknownSignup token)
    | some manager =>
      Chain.withSession fun session =>
        Chain.page
          (Page.teamMemberSignup site session manager
            (Page.TeamSignup.ofSession session manager.id))

/-! ## Files -/

/-- How long fingerprinted files may be cached, in seconds. -/
def assetMaxAge : Nat := 31536000

/-- Answer with a file. A fingerprinted name stands for another file, and may be cached. -/
def staticFile (site : Site) (segments : List String) : Chain World :=
  let name := "/".intercalate segments
  match site.assets.resolve? name with
  | some file => Chain.respond (Terminal.file file (some assetMaxAge))
  | none => Chain.respond (Terminal.file name none)

end Site

end Screencast
