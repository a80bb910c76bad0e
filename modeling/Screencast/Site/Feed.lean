import Screencast.Html.Node
import Screencast.Site.Catalog
import Screencast.Site.Route

/-!
# Listings for other programs

The feed of released episodes and the map of all public pages.
-/

namespace Screencast

/-- The name of the site. -/
def siteName : String := "Bitserve Screencasts"

namespace Feed

/-- The content type of the feed. -/
def contentType : String := "application/rss+xml; charset=utf-8"

/-- The entry of an episode in the feed. -/
def item (baseUrl : String) (episode : Episode) : String :=
  let link := Html.escape (Route.absolute baseUrl (Route.episode episode.slug))
  let date :=
    match episode.releasedAt.bind Timestamp.rfc2822? with
    | some date => "<pubDate>" ++ date ++ "</pubDate>"
    | none => ""
  "<item><title>" ++ Html.escape episode.title ++ "</title><link>" ++ link ++ "</link><guid>" ++
    link ++ "</guid><description>" ++ Html.escape episode.synopsis ++ "</description>" ++ date ++
    "</item>"

/-- The feed of released episodes, newest first. -/
def rss (catalog : Catalog) (baseUrl : String) (now : Timestamp) : String :=
  "<?xml version=\"1.0\" encoding=\"UTF-8\"?><rss version=\"2.0\"><channel><title>" ++
    Html.escape siteName ++ "</title><link>" ++ Html.escape (Route.absolute baseUrl Route.home) ++
    "</link><description>New episodes of " ++ Html.escape siteName ++ "</description>" ++
    String.join ((catalog.visibleEpisodes none now).map (item baseUrl)) ++ "</channel></rss>"

/-- The routes of all public pages. -/
def publicRoutes (catalog : Catalog) (now : Timestamp) : List Route :=
  [Route.home, Route.episodes, Route.collections, Route.subscribe, Route.subscribeTeam] ++
    (catalog.visibleCollections none now).map (fun (collection, _) =>
      Route.collection collection.slug) ++
    (catalog.visibleEpisodes none now).map fun episode => Route.episode episode.slug

/-- The addresses of all public pages, each on a line of its own. -/
def sitemap (catalog : Catalog) (baseUrl : String) (now : Timestamp) : String :=
  String.join ((publicRoutes catalog now).map fun route => Route.absolute baseUrl route ++ "\n")

end Feed

end Screencast
