import Screencast.Proofs.Site.SignInLinks
import Screencast.Proofs.Site.Views

/-!
# Where pages lead

Every link on a page of the site goes to a route, and is read as this route again unless the route
names something empty. From a page that is shown to somebody who is not signed in, signing in leads
back to the route of the page, by the link that is on every page as by the forms on some of them.
-/

namespace Screencast

open Html

/-! ## Links that are read as routes -/

namespace Route

/-- The routes to which pages have links. -/
def IsLinked : Route → Prop
  | home | episodes | collections | collection _ | episode _ | subscribe | subscribeTeam
  | login _ => True
  | _ => False

variable {route : Route}

theorem IsLinked.method_eq (isLinked : route.IsLinked) : route.method = "GET" := by
  cases route with
  | recurlyWebhook | githubWebhook => exact isLinked.elim
  | _ => rfl

theorem IsLinked.route?_following
    (isLinked : route.IsLinked)
    (named : route.NamesNothingEmpty) :
    (RequestHead.following route.url).route? = some route := by
  rw [RequestHead.following_url isLinked.method_eq, route?_ofRoute_of_namesNothingEmpty named]

/-- The link to a route is read as a route, even if the route names something empty: it is the
listing then. -/
theorem IsLinked.exists_route?_following (isLinked : route.IsLinked) :
    ∃ read, (RequestHead.following route.url).route? = some read := by
  by_cases named : route.NamesNothingEmpty
  case pos => exact ⟨route, isLinked.route?_following named⟩
  case neg =>
    rw [RequestHead.following_url isLinked.method_eq, route?_ofRoute, isLinked.method_eq,
      if_neg (by decide)]
    cases route with
    | collection slug =>
        obtain rfl : slug = "" := Classical.not_not.1 named
        exact ⟨collections, rfl⟩
    | episode slug =>
        obtain rfl : slug = "" := Classical.not_not.1 named
        exact ⟨episodes, rfl⟩
    | promoCode | staticFile => exact isLinked.elim
    | _ => exact absurd trivial named

end Route

/-! ## Parts of pages -/

namespace Html.Node

mutual

/-- The elements of a name, in the order of the page. -/
def elements (name : String) : Node → List Node
  | text _ => []
  | raw _ => []
  | element own attributes children =>
    let here := if own = name then [element own attributes children] else []
    here ++ elementsOfAll name children

/-- The elements of a name in nodes one after another. -/
def elementsOfAll (name : String) : List Node → List Node
  | [] => []
  | node :: rest => elements name node ++ elementsOfAll name rest

end

/-- The links in nodes one after another go to the first routes, and the forms are those by which
visitors sign in, to be led back to the others. -/
structure Lead (nodes : List Node) (links origins : List Route) : Prop where
  links : linkTargetsOfAll nodes = links.map Route.url
  forms : formsOfAll nodes = origins.map fun origin =>
    { action := (Route.login none).url, method := "get", inputs := [("origin", origin.url)] }
  inputs : elementsOfAll "input" nodes = origins.map fun origin =>
    input "hidden" "origin" origin.url

variable {nodes others : List Node} {links moreLinks origins moreOrigins : List Route}

theorem elementsOfAll_eq_flatMap (name : String) (nodes : List Node) :
    elementsOfAll name nodes = nodes.flatMap (elements name) := by
  induction nodes with
  | nil => rfl
  | cons node nodes inductionHypothesis =>
      rw [elementsOfAll, inductionHypothesis, List.flatMap_cons]

theorem lead_nil : Lead [] [] [] := ⟨rfl, rfl, rfl⟩

theorem lead_text (content : String) : Lead [text content] [] [] where
  links := by simp [linkTargets, linkTargetsOfAll]
  forms := by simp [forms, formsOfAll]
  inputs := by simp [elements, elementsOfAll]

theorem lead_link (route : Route) (content : String) :
    Lead [link route.url [text content]] [route] [] where
  links := by simp [link, linkTargets, linkTargetsOfAll, attribute?]
  forms := by simp [link, forms, formsOfAll]
  inputs := by simp [link, elements, elementsOfAll]

/-- Nodes after each other lead where each of them leads. -/
theorem Lead.append
    (first : Lead nodes links origins)
    (second : Lead others moreLinks moreOrigins) :
    Lead (nodes ++ others) (links ++ moreLinks) (origins ++ moreOrigins) := by
  obtain ⟨ownLinks, ownForms, ownInputs⟩ := first
  obtain ⟨otherLinks, otherForms, otherInputs⟩ := second
  rw [linkTargetsOfAll_eq_flatMap] at ownLinks otherLinks
  rw [formsOfAll_eq_flatMap] at ownForms otherForms
  rw [elementsOfAll_eq_flatMap] at ownInputs otherInputs
  constructor
  case links =>
    rw [linkTargetsOfAll_eq_flatMap, List.flatMap_append, ownLinks, otherLinks, List.map_append]
  case forms =>
    rw [formsOfAll_eq_flatMap, List.flatMap_append, ownForms, otherForms, List.map_append]
  case inputs =>
    rw [elementsOfAll_eq_flatMap, List.flatMap_append, ownInputs, otherInputs, List.map_append]

theorem Lead.cons
    {node : Node}
    (first : Lead [node] links origins)
    (rest : Lead nodes moreLinks moreOrigins) :
    Lead (node :: nodes) (links ++ moreLinks) (origins ++ moreOrigins) :=
  first.append rest

/-- Nodes for items lead where the node for each item leads. -/
theorem lead_map
    {item : Type}
    {node : item → Node}
    {routes : item → List Route}
    (leads : ∀ single, Lead [node single] (routes single) [])
    (items : List item) :
    Lead (items.map node) (items.flatMap routes) [] := by
  induction items with
  | nil => exact lead_nil
  | cons first items inductionHypothesis => exact (leads first).cons inductionHypothesis

/-- An element that is neither a link, nor a form, nor an input leads where its children lead. -/
theorem Lead.element
    {name : String}
    (children : Lead nodes links origins)
    (attributes : List (String × String))
    (plain : name ∉ ["a", "form", "input"] ) :
    Lead [element name attributes nodes] links origins := by
  simp only [List.mem_cons, List.not_mem_nil, or_false, not_or] at plain
  obtain ⟨notLink, notForm, notInput⟩ := plain
  constructor
  case links => simp [linkTargetsOfAll, linkTargets, notLink, children.links]
  case forms => simp [formsOfAll, Node.forms, notForm, children.forms]
  case inputs => simp [elementsOfAll, elements, notInput, children.inputs]

/-- A list leads where its items lead. -/
theorem lead_bullets
    {item : Type}
    {node : item → Node}
    {routes : item → List Route}
    (leads : ∀ single, Lead [node single] (routes single) [])
    (items : List item) :
    Lead [bullets (items.map node)] (items.flatMap routes) [] := by
  rw [bullets, List.map_map]
  exact (lead_map (fun single => (leads single).element [] (by decide)) items).element []
    (by decide)

end Html.Node

namespace Page

open Html.Node

theorem lead_sentence (content : String) : Lead [sentence content] [] [] :=
  (lead_text content).element [] (by decide)

theorem lead_heading (title : String) : Lead [heading title] [] [] :=
  (lead_text title).element [] (by decide)

theorem lead_subheading (title : String) : Lead [subheading title] [] [] :=
  (lead_text title).element [] (by decide)

theorem lead_remark (kind content : String) : Lead [remark kind content] [] [] :=
  (lead_text content).element _ (by decide)

theorem lead_planItem (coupon : Option Coupon) (plan : Plan) :
    Lead [planItem coupon plan] [] [] :=
  (lead_text _).element _ (by decide)

/-- An episode in a listing leads to its page. -/
theorem lead_episodeItem (watched : WatchedEpisode) :
    Lead [episodeItem watched] [Route.episode watched.episode.slug] [] := by
  have title := (lead_link (Route.episode watched.episode.slug)
    (episodeTitle watched.episode)).cons (lead_text (" " ++ watched.episode.prettyDuration))
  have badge : Lead
      (if watched.episode.subscriptionOnly then [remark "badge" "Subscribers only"] else [])
      [] [] := by
    split
    · exact lead_remark _ _
    · exact lead_nil
  have progress : Lead
      (watched.progress.toList.map fun seconds =>
        remark "progress" ("Continue at " ++ position seconds)) [] [] := by
    cases watched.progress with
    | none => exact lead_nil
    | some seconds => exact lead_remark _ _
  exact ((title.append badge).append progress).element _ (by decide)

theorem lead_episodeList (listed : List WatchedEpisode) :
    Lead [episodeList listed] (listed.map fun watched => Route.episode watched.episode.slug)
      [] := by
  rw [List.map_eq_flatMap]
  exact lead_bullets lead_episodeItem listed

theorem lead_collectionItem (collection : Collection) (count : Nat) :
    Lead [collectionItem collection count] [Route.collection collection.slug] [] :=
  have title := lead_link (Route.collection collection.slug) collection.title
  (title.cons (lead_text _)).element [] (by decide)

/-- The form by which visitors sign in leads back to its origin. -/
theorem lead_signInForm (origin : Route) : Lead [signInForm origin] [] [origin] := by
  have isLower : Text.lower "get" = "get" := by decide +kernel
  constructor
  case links =>
    simp [signInForm, Node.form, Node.input, submit, linkTargetsOfAll, linkTargets]
  case forms =>
    have read : formsOfAll [signInForm origin] =
        [{ action := (Route.login none).url
           method := Text.lower "get"
           inputs := [("origin", origin.url)] }] := rfl
    rw [read, isLower]
    rfl
  case inputs =>
    simp [signInForm, Node.form, Node.input, submit, elementsOfAll, elements]

/-- The routes of the links that are on every page. -/
def commonRoutes (session : Option Session) (current : Route) : List Route :=
  [Route.home, Route.episodes, Route.collections, Route.subscribe] ++
    (if session = none then [Route.login (some current.url)] else [])

/-- A page with the links of every page leads where these and its content lead. -/
theorem lead_layout
    {content : List Node}
    {links origins : List Route}
    (leads : Lead content links origins)
    (site : Site)
    (session : Option Session)
    (current : Route)
    (title : String) :
    Lead [layout site session current title content] (commonRoutes session current ++ links)
      origins := by
  have account : Lead [accountNode session current]
      (if session = none then [Route.login (some current.url)] else []) [] := by
    cases session with
    | none => exact lead_link _ _
    | some session => exact lead_text _
  have navigation : Lead [navigation session current] (commonRoutes session current) [] :=
    ((lead_link Route.home _).cons <| (lead_link Route.episodes _).cons <|
      (lead_link Route.collections _).cons <|
        (lead_link Route.subscribe _).cons account).element [] (by decide)
  have charset : Lead [Node.element "meta" [("charset", "utf-8")] []] [] [] :=
    lead_nil.element _ (by decide)
  have name : Lead [Node.element "title" [] [text (title ++ " | " ++ siteName)]] [] [] :=
    (lead_text _).element [] (by decide)
  have head : Lead
      [Node.element "head" []
        [Node.element "meta" [("charset", "utf-8")] [],
          Node.element "title" [] [text (title ++ " | " ++ siteName)]]] [] [] :=
    (charset.cons name).element [] (by decide)
  have main : Lead [Node.element "main" [] content] links origins := leads.element [] (by decide)
  have style : Lead [stylesheetNode site] [] [] := lead_nil.element _ (by decide)
  have body := style.cons (navigation.cons main)
  have rendered : Lead
      [Node.element "body" []
        [stylesheetNode site, Page.navigation session current, Node.element "main" [] content]]
      ([] ++ (commonRoutes session current ++ links)) ([] ++ ([] ++ origins)) :=
    body.element [] (by decide)
  exact (head.cons rendered).element [] (by decide)

/-! ## Pages -/

theorem lead_signInOffer (session : Option Session) (origin : Route) :
    Lead (signInOffer session origin) [] (if session.isNone then [origin] else []) := by
  cases session with
  | none => exact lead_signInForm origin
  | some session => exact lead_nil

/-- The home page leads to the latest episodes, and to all of them. -/
theorem lead_home (site : Site) (session : Option Session) (recent : List WatchedEpisode) :
    Lead [Page.home site session recent]
      (commonRoutes session Route.home ++
        (recent.map (fun watched => Route.episode watched.episode.slug) ++ [Route.episodes]))
      [] := by
  have content := (lead_heading siteName).cons <| (lead_subheading "Latest episodes").cons <|
    (lead_episodeList recent).cons <| lead_link Route.episodes "All episodes"
  simp only [List.nil_append, List.append_nil] at content
  exact lead_layout content site session Route.home "Home"

/-- The listing of episodes leads to the episodes. -/
theorem lead_episodes (site : Site) (session : Option Session) (listed : List WatchedEpisode) :
    Lead [Page.episodes site session listed]
      (commonRoutes session Route.episodes ++
        listed.map fun watched => Route.episode watched.episode.slug)
      [] := by
  have content := (lead_heading "All episodes").cons <| lead_episodeList listed
  exact lead_layout content site session Route.episodes "Episodes"

/-- The listing of collections leads to the collections. -/
theorem lead_collections (site : Site) (session : Option Session)
    (listed : List (Collection × Nat)) :
    Lead [Page.collections site session listed]
      (commonRoutes session Route.collections ++
        listed.map fun counted => Route.collection counted.1.slug)
      [] := by
  have item (counted : Collection × Nat) :
      Lead [collectionItem counted.1 counted.2] [Route.collection counted.1.slug] [] :=
    lead_collectionItem counted.1 counted.2
  have list := lead_bullets item listed
  rw [← List.map_eq_flatMap] at list
  exact lead_layout ((lead_heading "Collections").cons list) site session Route.collections
    "Collections"

/-- The page of a collection leads to its episodes. -/
theorem lead_collection (site : Site) (session : Option Session) (shown : Collection)
    (listed : List WatchedEpisode) :
    Lead [Page.collection site session shown listed]
      (commonRoutes session (Route.collection shown.slug) ++
        listed.map fun watched => Route.episode watched.episode.slug)
      [] := by
  have content := (lead_heading shown.title).cons <| (lead_sentence shown.description).cons <|
    lead_episodeList listed
  exact lead_layout content site session (Route.collection shown.slug) shown.title

/-- The page of an episode leads to the plans if the episode is closed to the visitor. -/
theorem lead_episode (site : Site) (session : Option Session) (shown : Episode)
    (progress : Option Nat) :
    Lead [Page.episode site session shown progress]
      (commonRoutes session (Route.episode shown.slug) ++
        (if isLocked session shown then [Route.subscribe] else []))
      [] := by
  have player : Lead [player session shown progress]
      (if isLocked session shown then [Route.subscribe] else []) [] := by
    unfold Page.player
    split
    · exact ((lead_text _).cons (lead_link Route.subscribe _)).element [] (by decide)
    · exact lead_nil.element _ (by decide)
  have content := (lead_heading (episodeTitle shown)).cons <| (lead_sentence shown.synopsis).cons
    player
  exact lead_layout content site session (Route.episode shown.slug) shown.title

/-- The content of the page of plans leads to the plans for teams. -/
theorem lead_subscribe (site : Site) (session : Option Session) (monthly yearly : Plan) :
    Lead [Page.subscribe site session monthly yearly]
      (commonRoutes session Route.subscribe ++ [Route.subscribeTeam])
      (if session.isNone then [Route.subscribe] else []) := by
  have hint : Lead [subscribeHint session] []
      (if session.isNone then [Route.subscribe] else []) := by
    cases session with
    | none => exact lead_signInForm Route.subscribe
    | some session =>
        unfold subscribeHint
        dsimp only
        split <;> exact lead_sentence _
  have team : Lead
      [Node.paragraph
        [text "Buying for several people? ",
          Node.link Route.subscribeTeam.url [text "Subscribe your team"]]]
      [Route.subscribeTeam] [] :=
    ((lead_text _).cons (lead_link Route.subscribeTeam _)).element [] (by decide)
  have both := hint.cons team
  rw [List.append_nil] at both
  have content := (lead_heading "Subscribe").cons <| (lead_planItem none monthly).cons <|
    (lead_planItem none yearly).cons both
  exact lead_layout content site session Route.subscribe "Subscribe"

/-- The page of plans for teams leads nowhere by its content, unless it is to sign in. -/
theorem lead_subscribeTeam (site : Site) (session : Option Session) (monthly yearly : Plan) :
    Lead [Page.subscribeTeam site session monthly yearly]
      (commonRoutes session Route.subscribeTeam ++ [])
      (if session.isNone then [Route.subscribeTeam] else []) := by
  have content := (lead_heading "Subscribe your team").cons <|
    (lead_sentence teamExplanation).cons <| (lead_planItem none monthly).cons <|
      (lead_planItem none yearly).cons <| lead_signInOffer session Route.subscribeTeam
  exact lead_layout content site session Route.subscribeTeam "Subscribe your team"

/-- The page of a coupon leads nowhere by its content, unless it is to sign in. -/
theorem lead_promoCode (site : Site) (session : Option Session) (coupon : Coupon)
    (monthly yearly : Plan) :
    Lead [Page.promoCode site session coupon monthly yearly]
      (commonRoutes session (Route.promoCode coupon.couponCode) ++ [])
      (if session.isNone then [Route.promoCode coupon.couponCode] else []) := by
  have content := (lead_heading ("Promo code " ++ coupon.couponCode)).cons <|
    (lead_sentence coupon.description).cons <| (lead_planItem (some coupon) monthly).cons <|
      (lead_planItem (some coupon) yearly).cons <|
        lead_signInOffer session (Route.promoCode coupon.couponCode)
  exact lead_layout content site session (Route.promoCode coupon.couponCode) "Promo code"

/-- The page behind the link of a team leads nowhere by its content, unless it is to sign in. -/
theorem lead_teamMemberSignup (site : Site) (session : Option Session) (manager : Stored User) :
    Lead [Page.teamMemberSignup site session manager (TeamSignup.ofSession session manager.id)]
      (commonRoutes session (Route.teamMemberSignup manager.data.teamToken) ++ [])
      (if session.isNone then [Route.teamMemberSignup manager.data.teamToken] else []) := by
  have isSignIn : TeamSignup.ofSession session manager.id = TeamSignup.signIn ↔
      session.isNone = true := by
    cases session with
    | none => simp [TeamSignup.ofSession]
    | some session =>
        simp only [TeamSignup.ofSession, Option.isNone_some, Bool.false_eq_true, iff_false]
        split <;> split <;> simp
  have form : Lead
      (if TeamSignup.ofSession session manager.id = TeamSignup.signIn then
        [signInForm (Route.teamMemberSignup manager.data.teamToken)] else [])
      [] (if session.isNone then [Route.teamMemberSignup manager.data.teamToken] else []) := by
    simp only [isSignIn]
    split
    · exact lead_signInForm _
    · exact lead_nil
  have content := (lead_heading "Join a team").cons <|
    (lead_sentence ((TeamSignup.ofSession session manager.id).message
      manager.data.displayName)).cons form
  exact lead_layout content site session (Route.teamMemberSignup manager.data.teamToken)
    "Join a team"

end Page

/-! ## Views -/

namespace View

open Html.Node Page

/-- The route under which a view is shown. -/
def route : View → Route
  | home _ => Route.home
  | episodes _ => Route.episodes
  | collections _ => Route.collections
  | collection shown _ => Route.collection shown.slug
  | episode shown _ => Route.episode shown.slug
  | subscribe _ _ => Route.subscribe
  | subscribeTeam _ _ => Route.subscribeTeam
  | promoCode coupon _ _ => Route.promoCode coupon.couponCode
  | teamMemberSignup manager => Route.teamMemberSignup manager.data.teamToken

/-- The routes of the links in the content of a view. -/
def contentRoutes (session : Option Session) : View → List Route
  | home recent =>
      recent.map (fun watched => Route.episode watched.episode.slug) ++ [Route.episodes]
  | episodes listed => listed.map fun watched => Route.episode watched.episode.slug
  | collections listed => listed.map fun counted => Route.collection counted.1.slug
  | collection _ listed => listed.map fun watched => Route.episode watched.episode.slug
  | episode shown _ => if isLocked session shown then [Route.subscribe] else []
  | subscribe _ _ => [Route.subscribeTeam]
  | _ => []

/-- The routes of all links of a view. -/
def routes (session : Option Session) (view : View) : List Route :=
  commonRoutes session view.route ++ view.contentRoutes session

/-- Whether there is a form on a view by which visitors sign in. -/
def hasForm (session : Option Session) : View → Bool
  | subscribe _ _ | subscribeTeam _ _ | promoCode _ _ _ | teamMemberSignup _ => session.isNone
  | _ => false

/-- A view has the links of every page, and those in its content, and a form if there is one leads
back to the view. -/
theorem lead_page (site : Site) (session : Option Session) (view : View) :
    Lead [view.page site session] (view.routes session)
      (if view.hasForm session then [view.route] else []) := by
  cases view with
  | home recent => exact lead_home site session recent
  | episodes listed => exact lead_episodes site session listed
  | collections listed => exact lead_collections site session listed
  | collection shown listed => exact lead_collection site session shown listed
  | episode shown progress => exact lead_episode site session shown progress
  | subscribe monthly yearly => exact lead_subscribe site session monthly yearly
  | subscribeTeam monthly yearly => exact lead_subscribeTeam site session monthly yearly
  | promoCode coupon monthly yearly => exact lead_promoCode site session coupon monthly yearly
  | teamMemberSignup manager => exact lead_teamMemberSignup site session manager

/-- Every link on a view goes to one of the routes to which pages have links. -/
theorem isLinked_of_mem_routes
    {session : Option Session}
    {view : View}
    {route : Route}
    (isThere : route ∈ view.routes session) :
    route.IsLinked := by
  rcases List.mem_append.1 isThere with isCommon | isOwn
  · rcases List.mem_append.1 isCommon with isFixed | isAccount
    · simp only [List.mem_cons, List.not_mem_nil, or_false] at isFixed
      rcases isFixed with rfl | rfl | rfl | rfl <;> trivial
    · split at isAccount
      · obtain rfl := List.mem_singleton.1 isAccount
        trivial
      · cases isAccount
  · cases view with
    | home recent =>
        rcases List.mem_append.1 isOwn with isRecent | isLast
        · obtain ⟨watched, _, rfl⟩ := List.mem_map.1 isRecent
          trivial
        · obtain rfl := List.mem_singleton.1 isLast
          trivial
    | episodes listed | collections listed | collection shown listed =>
        obtain ⟨single, _, rfl⟩ := List.mem_map.1 isOwn
        trivial
    | episode shown progress =>
        change route ∈ if isLocked session shown then [Route.subscribe] else [] at isOwn
        split at isOwn
        · obtain rfl := List.mem_singleton.1 isOwn
          trivial
        · cases isOwn
    | subscribe monthly yearly =>
        obtain rfl := List.mem_singleton.1 isOwn
        trivial
    | subscribeTeam | promoCode | teamMemberSignup => cases isOwn

theorem exists_layout (site : Site) (session : Option Session) (view : View) :
    ∃ title content, view.page site session = layout site session view.route title content := by
  cases view <;> exact ⟨_, _, rfl⟩

/-- The page of a view leads to routes only. Signing in leads back to the route of the view, by the
link to sign in as by the form. -/
structure LeadsToRoutes (view : View) (session : Option Session) (page : Node) : Prop where
  /-- The links go to the routes of the view. -/
  links : page.linkTargets = (view.routes session).map Route.url
  /-- Every link is read as a route. -/
  areRead : ∀ target ∈ page.linkTargets,
    ∃ read, (RequestHead.following target).route? = some read
  /-- It is read as the route that it was written for, if that one names nothing empty. -/
  areReadBack : ∀ route ∈ view.routes session, route.NamesNothingEmpty →
    (RequestHead.following route.url).route? = some route
  /-- Whoever is not signed in can do so by a link that leads back to the view. -/
  login : session = none → ∃ target ∈ page.linkTargets,
    (RequestHead.following target).route? = some (Route.login (some view.route.url))
  /-- The only form, if there is one, is sent to the page where visitors sign in. -/
  form : ∀ form ∈ page.forms, form.method = "get" ∧
    (RequestHead.following form.action).route? = some (Route.login none) ∧
      form.inputs = [("origin", view.route.url)]
  /-- There is a form on the views that have one. -/
  count : page.forms.length = if view.hasForm session then 1 else 0
  /-- Each form has one input, and this one is hidden. -/
  inputs : page.elements "input" =
    page.forms.map fun _ => Node.input "hidden" "origin" view.route.url

/-- Every view leads to routes. -/
theorem leadsToRoutes (site : Site) (session : Option Session) (view : View) :
    view.LeadsToRoutes session (view.page site session) := by
  obtain ⟨links, forms, inputs⟩ := view.lead_page site session
  simp only [linkTargetsOfAll, formsOfAll, elementsOfAll, List.append_nil] at links forms inputs
  have signedIn : (RequestHead.following (Route.login none).url).route? =
      some (Route.login none) := Route.route?_following_login none
  constructor
  case links => exact links
  case areRead =>
    rw [links, List.forall_mem_map]
    exact fun route isThere => (isLinked_of_mem_routes isThere).exists_route?_following
  case areReadBack =>
    exact fun route isThere named => (isLinked_of_mem_routes isThere).route?_following named
  case login =>
    rintro rfl
    refine ⟨_, ?_, Route.route?_following_login (some view.route.url)⟩
    rw [links]
    exact List.mem_map_of_mem (by simp [routes, commonRoutes])
  case form =>
    rw [forms, List.forall_mem_map]
    intro origin isOrigin
    split at isOrigin
    · obtain rfl := List.mem_singleton.1 isOrigin
      exact ⟨rfl, signedIn, rfl⟩
    · cases isOrigin
  case count =>
    rw [forms, List.length_map]
    split <;> rfl
  case inputs =>
    rw [forms, inputs, List.map_map]
    split <;> rfl

end View

namespace Site

/-- Whatever page the site answers a request with, it reports an error and leads nowhere, or it is a
view and leads to routes. -/
theorem leadsToRoutes_of_dispatch
    {state : Type}
    {site : Site}
    {head : RequestHead}
    {standIn : StandIn state World}
    {recording : Recording state}
    {page : Node}
    {status : Status}
    (isPage : ((site.dispatch head).capture standIn recording).1.terminal =
      Terminal.html page status) :
    (∃ message, page = errorPage message ∧
      page.linkTargets = [] ∧ page.forms = [] ∧ page.elements "input" = []) ∨
    ∃ view : View, page = view.page site standIn.session ∧
      (∃ title content, page = Page.layout site standIn.session view.route title content) ∧
      view.LeadsToRoutes standIn.session page := by
  have serves : site.ServesVisitor standIn.session (site.dispatch head) :=
    site.servesVisitor_dispatch head
  rcases serves.terminal_capture recording page status isPage with ⟨message, rfl⟩ | ⟨view, rfl⟩
  · refine Or.inl ⟨message, rfl, ?_, ?_, ?_⟩
    · simp [errorPage, Node.document, Node.div, Node.heading, Node.paragraph, Node.linkTargets,
        Node.linkTargetsOfAll]
    · simp [errorPage, Node.document, Node.div, Node.heading, Node.paragraph, Node.forms,
        Node.formsOfAll]
    · simp [errorPage, Node.document, Node.div, Node.heading, Node.paragraph, Node.elements,
        Node.elementsOfAll]
  · exact Or.inr ⟨view, rfl, view.exists_layout site _, view.leadsToRoutes site _⟩

/-- On the page of an episode whose slug has separators in it, the link to sign in escapes them
twice. -/
theorem leadsToRoutes_of_strange_slug :
    let released := Timestamp.ofUnix 1717232400 0
    let site : Site := { now := released }
    let shown : Episode := { (default : Episode) with
      number := 1, slug := "a/b?", releasedAt := some released }
    let catalog : Catalog := { Catalog.empty with episodes := [shown] }
    let world : World := { catalog, source := Except.ok catalog }
    let page := Page.episode site none shown none
    ((site.dispatch (RequestHead.ofRoute (Route.episode "a/b?"))).capture Stubs.unprepared
        { state := world }).1.terminal = Terminal.html page Status.ok ∧
      page.linkTargets =
        ["/", "/episodes", "/collections", "/subscribe",
          "/login?origin=%2Fepisodes%2Fa%252Fb%253F"] ∧
      ∃ view : View, page = view.page site none ∧ view.LeadsToRoutes none page := by
  intro released site shown catalog world page
  have isPage : ((site.dispatch (RequestHead.ofRoute (Route.episode "a/b?"))).capture
      Stubs.unprepared { state := world }).1.terminal = Terminal.html page Status.ok := by
    have named : (Route.episode "a/b?").NamesNothingEmpty := (by decide : "a/b?" ≠ "")
    have found : catalog.episode? "a/b?" = some shown := by decide +kernel
    have isOpen : site.isOpen none shown = true := by decide +kernel
    have published : (Stubs.unprepared.world world).catalog = catalog := rfl
    rw [dispatch_ofRoute site named]
    simp only [chain, episode, Chain.capture, published, found, Chain.withSession]
    have signedOut : (Stubs.unprepared : StandIn World World).session = none := rfl
    rw [signedOut, if_pos isOpen]
    rfl
  have targets : page.linkTargets =
      ["/", "/episodes", "/collections", "/subscribe",
        "/login?origin=%2Fepisodes%2Fa%252Fb%253F"] := by
    decide +kernel
  refine ⟨isPage, targets, ?_⟩
  rcases leadsToRoutes_of_dispatch isPage with ⟨_, _, none, _⟩ | ⟨view, isView, _, leads⟩
  · rw [targets] at none
    cases none
  · exact ⟨view, isView, leads⟩

end Site

end Screencast
