import Screencast.Url.Percent
import Screencast.Uuid

/-!
# Routes

A route is what a request asks for. It is read from the method, the path and the query of the
request, and it can be written as a URL again.
-/

namespace Screencast

/-- What a request asks for. -/
inductive Route
  | home
  | episodes
  | episodesJson
  | rssFeed
  | collections
  | collectionsJson
  | collection (slug : String)
  | episode (slug : String)
  | subscribe
  | subscribeTeam
  | sitemap
  | teamMemberSignup (token : Uuid)
  | promoCode (code : String)
  | login (origin : Option String)
  | githubCallback (code origin : Option String)
  | staticFile (segments : List String)
  | recurlyWebhook
  | githubWebhook
  deriving DecidableEq

namespace Route

/-- The segments of a path, decoded, without the empty ones. -/
def segments (path : String) : List String :=
  ((Text.split '/' path).filter (· ≠ "")).map Url.percentDecode

/-- The route of a page, by the segments of its path and the parameters of its query. -/
def ofPage? (segments : List String) (params : List (String × String)) : Option Route :=
  match segments with
  | [] => some home
  | ["episodes"] => some episodes
  | ["episodes.json"] => some episodesJson
  | ["episodes.rss"] => some rssFeed
  | ["episodes", slug] => some (episode slug)
  | ["collections"] => some collections
  | ["collections.json"] => some collectionsJson
  | ["collections", slug] => some (collection slug)
  | ["subscribe"] => some subscribe
  | ["subscribe-team"] => some subscribeTeam
  | ["sitemap"] => some sitemap
  | ["join", token] => (Uuid.parse? token).map teamMemberSignup
  | ["promo", code] => some (promoCode code)
  | ["login"] => some (login (params.lookup "origin"))
  | ["github-callback"] => some (githubCallback (params.lookup "code") (params.lookup "origin"))
  | "static" :: first :: rest => some (staticFile (first :: rest))
  | _ => none

/-- The route of a webhook, by the segments of its path. -/
def ofWebhook? (segments : List String) : Option Route :=
  match segments with
  | ["webhooks", "recurly"] => some recurlyWebhook
  | ["webhooks", "github"] => some githubWebhook
  | _ => none

/-- The route of a request. Methods are case sensitive. -/
def parse? (method path : String) (query : Option String) : Option Route :=
  if method = "POST" then ofWebhook? (segments path)
  else if method = "GET" then
    ofPage? (segments path) ((query.map Url.queryParams).getD [])
  else none

/-- The method with which a route is requested. -/
def method : Route → String
  | recurlyWebhook => "POST"
  | githubWebhook => "POST"
  | _ => "GET"

/-- The URL of a route: its path, and its query if it has one. -/
def url : Route → String
  | home => "/"
  | episodes => "/episodes"
  | episodesJson => "/episodes.json"
  | rssFeed => "/episodes.rss"
  | collections => "/collections"
  | collectionsJson => "/collections.json"
  | collection slug => "/collections/" ++ Url.percentEncode slug
  | episode slug => "/episodes/" ++ Url.percentEncode slug
  | subscribe => "/subscribe"
  | subscribeTeam => "/subscribe-team"
  | sitemap => "/sitemap"
  | teamMemberSignup token => "/join/" ++ token.text
  | promoCode code => "/promo/" ++ Url.percentEncode code
  | login origin => Url.withQuery "/login" [("origin", origin)]
  | githubCallback code origin =>
    Url.withQuery "/github-callback" [("code", code), ("origin", origin)]
  | staticFile segments =>
    "/static" ++ String.join (segments.map fun segment => "/" ++ Url.percentEncode segment)
  | recurlyWebhook => "/webhooks/recurly"
  | githubWebhook => "/webhooks/github"

/-- A route under the address of a site, whose trailing slashes do not count. -/
def absolute (baseUrl : String) (route : Route) : String :=
  Text.trimTrailing '/' baseUrl ++ route.url

end Route

/-- The parts of a request that decide its route. -/
structure RequestHead where
  method : String
  path : String
  query : Option String
  deriving DecidableEq, Repr

namespace RequestHead

/-- The route of a request. -/
def route? (head : RequestHead) : Option Route := Route.parse? head.method head.path head.query

/-- The request that a browser sends when it follows the link to a route. -/
def ofRoute (route : Route) : RequestHead :=
  match Text.cut '?' route.url with
  | some (path, query) => { method := route.method, path, query := some query }
  | none => { method := route.method, path := route.url, query := none }

end RequestHead

end Screencast
