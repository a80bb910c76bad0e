import Screencast.Site.Feed
import Screencast.Site.Watching

/-!
# Pages

The pages of the site as trees of markup. Every link goes to the URL of a route.
-/

namespace Screencast

namespace Page

open Html

/-! ## Parts -/

/-- The name of the stylesheet. -/
def stylesheet : String := "app.css"

/-- Who is signed in, or the link that leads back to the page after signing in. -/
def accountNode (session : Option Session) (current : Route) : Node :=
  match session with
  | some session => Node.text ("Signed in as " ++ session.user.data.displayName)
  | none => Node.link (Route.login (some current.url)).url [Node.text "Log in"]

/-- The links that are on every page. -/
def navigation (session : Option Session) (current : Route) : Node :=
  Node.element "nav" []
    [Node.link Route.home.url [Node.text siteName],
      Node.link Route.episodes.url [Node.text "Episodes"],
      Node.link Route.collections.url [Node.text "Collections"],
      Node.link Route.subscribe.url [Node.text "Subscribe"],
      accountNode session current]

/-- The reference to the stylesheet. -/
def stylesheetNode (site : Site) : Node :=
  Node.element "link"
    [("rel", "stylesheet"),
      ("href", (Route.staticFile [site.assets.publicName stylesheet]).url)]
    []

/-- A whole page with content of its own. -/
def layout (site : Site) (session : Option Session) (current : Route) (title : String)
    (content : List Node) : Node :=
  Node.document (title ++ " | " ++ siteName)
    [stylesheetNode site, navigation session current, Node.element "main" [] content]

/-- A paragraph of plain text. -/
def sentence (text : String) : Node := Node.paragraph [Node.text text]

/-- A short remark beside something. -/
def remark (kind text : String) : Node := Node.element "span" [("class", kind)] [Node.text text]

/-- The number and the title of an episode. -/
def episodeTitle (episode : Episode) : String :=
  "#" ++ toString episode.number ++ " " ++ episode.title

/-- A point in an episode in minutes and seconds. -/
def position (seconds : Nat) : String :=
  toString (seconds / 60) ++ ":" ++ Text.padded 2 (seconds % 60)

/-- An episode in a listing. -/
def episodeItem (watched : WatchedEpisode) : Node :=
  let episode := watched.episode
  let badge :=
    if episode.subscriptionOnly then [remark "badge" "Subscribers only"] else []
  let progress :=
    watched.progress.toList.map fun seconds =>
      remark "progress" ("Continue at " ++ position seconds)
  Node.div "episode"
    ([Node.link (Route.episode episode.slug).url [Node.text (episodeTitle episode)],
      Node.text (" " ++ episode.prettyDuration)] ++ badge ++ progress)

/-- A list of episodes. -/
def episodeList (episodes : List WatchedEpisode) : Node :=
  Node.bullets (episodes.map episodeItem)

/-- A plan with its price, and the discount of a coupon. -/
def planItem (coupon : Option Coupon) (plan : Plan) : Node :=
  let discount :=
    match coupon.bind Coupon.discountPercent with
    | some percent => " (" ++ toString percent ++ "% off)"
    | none => ""
  Node.div "plan"
    [Node.text
      (plan.name ++ ": " ++ plan.prettyPrice ++ " every " ++ plan.prettyDuration ++ discount)]

/-- The form by which visitors sign in, to be led back to a page. -/
def signInForm (origin : Route) : Node :=
  Node.form (Route.login none).url "get"
    [Node.input "hidden" "origin" origin.url, Node.submit "Sign in with GitHub"]

/-- The form by which visitors sign in, for those who are not signed in yet. -/
def signInOffer (session : Option Session) (origin : Route) : List Node :=
  match session with
  | none => [signInForm origin]
  | some _ => []

/-! ## Episodes and collections -/

/-- The home page. -/
def home (site : Site) (session : Option Session) (recent : List WatchedEpisode) : Node :=
  layout site session Route.home "Home"
    [Node.heading siteName, Node.subheading "Latest episodes", episodeList recent,
      Node.link Route.episodes.url [Node.text "All episodes"]]

/-- The listing of episodes. -/
def episodes (site : Site) (session : Option Session) (listed : List WatchedEpisode) : Node :=
  layout site session Route.episodes "Episodes"
    [Node.heading "All episodes", episodeList listed]

/-- A collection in a listing. -/
def collectionItem (collection : Collection) (count : Nat) : Node :=
  let noun := if count = 1 then "episode" else "episodes"
  Node.paragraph
    [Node.link (Route.collection collection.slug).url [Node.text collection.title],
      Node.text (" " ++ toString count ++ " " ++ noun)]

/-- The listing of collections. -/
def collections (site : Site) (session : Option Session) (listed : List (Collection × Nat)) :
    Node :=
  layout site session Route.collections "Collections"
    [Node.heading "Collections",
      Node.bullets (listed.map fun (collection, count) => collectionItem collection count)]

/-- The page of a collection. -/
def collection (site : Site) (session : Option Session) (shown : Collection)
    (listed : List WatchedEpisode) : Node :=
  layout site session (Route.collection shown.slug) shown.title
    [Node.heading shown.title, sentence shown.description, episodeList listed]

/-- Whether an episode is closed to a visitor. -/
def isLocked (session : Option Session) (episode : Episode) : Bool :=
  episode.subscriptionOnly && !session.any Session.hasAccess

/-- The player of an episode, or what to do to see it. -/
def player (session : Option Session) (episode : Episode) (progress : Option Nat) : Node :=
  if isLocked session episode then
    Node.paragraph
      [Node.text "This episode is for subscribers. ",
        Node.link Route.subscribe.url [Node.text "Become a subscriber"]]
  else
    Node.element "div"
      [("class", "player"), ("data-episode", toString episode.number),
        ("data-start", toString (progress.getD 0))]
      []

/-- The page of an episode. -/
def episode (site : Site) (session : Option Session) (shown : Episode) (progress : Option Nat) :
    Node :=
  layout site session (Route.episode shown.slug) shown.title
    [Node.heading (episodeTitle shown), sentence shown.synopsis, player session shown progress]

/-! ## Subscriptions -/

/-- What to do on the page of plans. -/
def subscribeHint (session : Option Session) : Node :=
  match session with
  | none => signInForm Route.subscribe
  | some session =>
    if session.hasAccess then sentence "You already have access to every episode."
    else sentence "Pick a plan to start your subscription."

/-- The page of plans. -/
def subscribe (site : Site) (session : Option Session) (monthly yearly : Plan) : Node :=
  layout site session Route.subscribe "Subscribe"
    [Node.heading "Subscribe", planItem none monthly, planItem none yearly, subscribeHint session,
      Node.paragraph
        [Node.text "Buying for several people? ",
          Node.link Route.subscribeTeam.url [Node.text "Subscribe your team"]]]

/-- How subscriptions for teams work. -/
def teamExplanation : String :=
  "A team subscription is billed per member. Once subscribed, share your signup link and every " ++
    "member who joins through it gets full access."

/-- The page of plans for teams. -/
def subscribeTeam (site : Site) (session : Option Session) (monthly yearly : Plan) : Node :=
  layout site session Route.subscribeTeam "Subscribe your team"
    ([Node.heading "Subscribe your team", sentence teamExplanation, planItem none monthly,
      planItem none yearly] ++ signInOffer session Route.subscribeTeam)

/-- The page of a coupon. -/
def promoCode (site : Site) (session : Option Session) (coupon : Coupon)
    (monthly yearly : Plan) : Node :=
  let current := Route.promoCode coupon.couponCode
  layout site session current "Promo code"
    ([Node.heading ("Promo code " ++ coupon.couponCode), sentence coupon.description,
      planItem (some coupon) monthly, planItem (some coupon) yearly] ++
        signInOffer session current)

/-! ## Teams -/

/-- How a visitor who follows the link of a team relates to it. -/
inductive TeamSignup
  | signIn
  | signedIn
  | selfSubscribed
  | alreadyInTeam
  deriving DecidableEq, Repr

namespace TeamSignup

/-- How a visitor relates to the team of a user. -/
def ofSession (session : Option Session) (managerId : Uuid) : TeamSignup :=
  match session with
  | none => signIn
  | some session =>
    if session.hasOwnAccess then
      if session.userId = managerId then alreadyInTeam else selfSubscribed
    else if session.isInTeamOf managerId then alreadyInTeam
    else signedIn

/-- What the visitor is told. -/
def message (managerName : String) : TeamSignup → String
  | signIn => "Sign in to join " ++ managerName ++ "'s team."
  | signedIn =>
    "Joining " ++ managerName ++ "'s team gives you access to every episode while their " ++
      "subscription lasts."
  | selfSubscribed =>
    "You already have an active subscription, so there is no need to join a team."
  | alreadyInTeam => "You are already part of this team."

end TeamSignup

/-- The page behind the link of a team. -/
def teamMemberSignup (site : Site) (session : Option Session) (manager : Stored User)
    (state : TeamSignup) : Node :=
  let current := Route.teamMemberSignup manager.data.teamToken
  let form := if state = TeamSignup.signIn then [signInForm current] else []
  layout site session current "Join a team"
    ([Node.heading "Join a team", sentence (state.message manager.data.displayName)] ++ form)

end Page

end Screencast
