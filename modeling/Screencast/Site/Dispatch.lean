import Screencast.Account.Resolve
import Screencast.Effect.Interpreter
import Screencast.Http.Request
import Screencast.Serve.System
import Screencast.Site.BillingNotices
import Screencast.Site.GithubSignIn
import Screencast.Site.Visit

/-!
# From requests to chains

Every route has its chain. A request without a route finds nothing. The server runs the chain of a
request, and logs every query and every task of it that fails.
-/

namespace Screencast

namespace Site

/-- The chain of a route. -/
def chain (site : Site) : Route → Chain World
  | Route.home => site.home
  | Route.episodes => site.episodes
  | Route.episodesJson => site.episodesJson
  | Route.rssFeed => site.rssFeed
  | Route.collections => site.collections
  | Route.collectionsJson => site.collectionsJson
  | Route.collection slug => site.collection slug
  | Route.episode slug => site.episode slug
  | Route.subscribe => site.subscribe
  | Route.subscribeTeam => site.subscribeTeam
  | Route.sitemap => site.sitemap
  | Route.promoCode code => site.promoCode code
  | Route.teamMemberSignup token => site.teamMemberSignup token
  | Route.staticFile segments => site.staticFile segments
  | Route.login origin => site.login origin
  | Route.githubCallback code origin => site.githubCallback code origin
  | Route.recurlyWebhook => billingNotice
  | Route.githubWebhook => contentNotice

/-- The chain of a request. -/
def dispatch (site : Site) (head : RequestHead) : Chain World :=
  match head.route? with
  | some route => site.chain route
  | none => Chain.notFound "Not found"

/-- The parts of an arriving request that decide its route. -/
def head (request : Http.Request) : RequestHead where
  method := request.method
  path := request.target.path
  query := request.target.query

/-- What a running request knows of itself. Nobody cancels it. -/
def scope (request : Http.Request) : Serve.Scope where
  token := request.sessionToken?
  body := request.body
  cancelled := none

/-- How requests are run: sessions come from the store. -/
def setup (files : Http.StaticFiles) (taskTimeoutMillis : Option Nat) : Serve.Setup World where
  files := files
  resolver := Session.resolve
  taskTimeoutMillis := taskTimeoutMillis

/-- Answer a request. -/
def handle (site : Site) (setup : Serve.Setup World) (request : Http.Request)
    (shared : Serve.Shared World) : Serve.System World :=
  Serve.answer setup { method := request.method, path := request.target.path }
    (scope request) (site.dispatch (head request)).traced shared

end Site

end Screencast
