import Screencast.Proofs.Account.User
import Screencast.Proofs.Effect.OnStubs
import Screencast.Proofs.Html.Markup
import Screencast.Proofs.Site.Destination
import Screencast.Proofs.Store.Keyed
import Screencast.Site.Dispatch

/-!
# Where visitors sign in

A page that is shown to a visitor who is not signed in has a link to sign in. Whatever on the page
leads to signing in leads back to the page from there.
-/

namespace Screencast

open Html

/-! ## Targets -/

/-- The address to which a form is sent with its inputs. -/
def Html.Form.target (form : Form) : String :=
  Url.withQuery form.action (form.inputs.map fun (name, value) => (name, some value))

/-- The addresses to which a page leads: the targets of its links, and those of its forms. -/
def Html.Node.targets (node : Node) : List String :=
  node.linkTargets ++ (node.forms.filter fun form => form.method = "get").map Form.target

namespace Route

variable {route : Route}

/-- Whoever signs in at a target is to be led back to a route, if the target is one to sign in at.
-/
def IsOriginOf (route : Route) (target : String) : Prop :=
  ∀ origin, (RequestHead.following target).route? = some (login origin) → origin = some route.url

/-- Only the segment of its own stands for signing in. -/
theorem eq_login_of_ofPage?
    {segments : List String}
    {params : List (String × String)}
    {origin : Option String}
    (read : ofPage? segments params = some (login origin)) :
    segments = ["login"] := by
  unfold ofPage? at read
  -- Any other segments stand for a route with another constructor, or for none.
  split at read <;> simp_all

/-- The URL of another route than one for signing in is none to sign in at. -/
theorem isOriginOf_url
    {other : Route}
    (isGet : other.method = "GET")
    (isOther : ∀ origin, other ≠ login origin) :
    route.IsOriginOf other.url := by
  intro origin read
  rw [RequestHead.following_url isGet, route?_ofRoute, isGet, if_neg (by decide)] at read
  have isLogin := eq_login_of_ofPage? read
  have isFirst : ∀ name rest, other.parts = name :: rest → name ≠ "" → name = "login" := by
    intro name rest parts nonempty
    rw [parts, List.filter_cons, if_pos (decide_eq_true nonempty)] at isLogin
    exact (List.cons.inj isLogin).1
  cases other with
  | login own => exact absurd rfl (isOther own)
  | home => cases isLogin
  | _ => exact absurd (isFirst _ _ rfl (by decide)) (by decide)

theorem route?_following_login (origin : Option String) :
    (RequestHead.following (login origin).url).route? = some (login origin) := by
  have named : (login origin).NamesNothingEmpty := trivial
  rw [RequestHead.following_url rfl, route?_ofRoute_of_namesNothingEmpty named]

theorem isOriginOf_login (route : Route) : route.IsOriginOf (login (some route.url)).url := by
  intro origin read
  rw [route?_following_login] at read
  exact (login.inj (Option.some.inj read)).symm

end Route

/-! ## Nodes -/

namespace Html.Node

variable {route : Route}

/-- Whoever signs in by a link or a form of a node is led back to a route. -/
structure SignsInFrom (route : Route) (node : Node) : Prop where
  links : ∀ target ∈ node.linkTargets, route.IsOriginOf target
  forms : ∀ form ∈ node.forms, route.IsOriginOf form.target

/-- Whatever a page leads to leads back to the route, if it is to sign in. -/
theorem SignsInFrom.isOriginOf
    {node : Node}
    {target : String}
    (signsIn : node.SignsInFrom route)
    (isTarget : target ∈ node.targets) :
    route.IsOriginOf target := by
  rcases List.mem_append.1 isTarget with isLink | isForm
  · exact signsIn.links target isLink
  · obtain ⟨form, isThere, rfl⟩ := List.mem_map.1 isForm
    exact signsIn.forms form (List.mem_filter.1 isThere).1

@[simp] theorem signsInFrom_text (content : String) : (text content).SignsInFrom route :=
  ⟨by simp [linkTargets], by simp [forms]⟩

/-- In an element that is neither a link nor a form, people sign in by its children. -/
@[simp] theorem signsInFrom_element
    {name : String}
    (notLink : name ≠ "a")
    (notForm : name ≠ "form")
    (attributes : List (String × String))
    (children : List Node) :
    (element name attributes children).SignsInFrom route ↔
      ∀ child ∈ children, child.SignsInFrom route := by
  have links : (element name attributes children).linkTargets = children.flatMap linkTargets := by
    rw [linkTargets, linkTargetsOfAll_eq_flatMap, if_neg notLink, List.nil_append]
  have forms : (element name attributes children).forms = children.flatMap Node.forms := by
    rw [Node.forms, formsOfAll_eq_flatMap, if_neg notForm, List.nil_append]
  constructor
  · rintro ⟨isOriginOfLinks, isOriginOfForms⟩ child isChild
    rw [links, List.forall_mem_flatMap] at isOriginOfLinks
    rw [forms, List.forall_mem_flatMap] at isOriginOfForms
    exact ⟨isOriginOfLinks child isChild, isOriginOfForms child isChild⟩
  · intro signsIn
    constructor
    · rw [links, List.forall_mem_flatMap]
      exact fun child isChild => (signsIn child isChild).links
    · rw [forms, List.forall_mem_flatMap]
      exact fun child isChild => (signsIn child isChild).forms

/-- By a link with a text, people sign in at its target. -/
@[simp] theorem signsInFrom_link (target content : String) :
    (link target [text content]).SignsInFrom route ↔ route.IsOriginOf target := by
  have links : (link target [text content]).linkTargets = [target] := by
    simp [link, linkTargets, linkTargetsOfAll, attribute?]
  have forms : (link target [text content]).forms = [] := by
    simp [link, Node.forms, formsOfAll]
  constructor
  · intro signsIn
    exact signsIn.links target (links ▸ List.mem_singleton_self target)
  · intro isOrigin
    refine ⟨?_, ?_⟩
    · rw [links]
      exact List.forall_mem_singleton.2 isOrigin
    · rw [forms]
      exact List.forall_mem_nil _

@[simp] theorem signsInFrom_bullets (items : List Node) :
    (bullets items).SignsInFrom route ↔ ∀ item ∈ items, item.SignsInFrom route := by
  simp [bullets]

end Html.Node

namespace Page

variable {route : Route}

/-- Whoever signs in by the form of a page is led back to the page. -/
theorem signsInFrom_signInForm (route : Route) : (signInForm route).SignsInFrom route := by
  have links : (signInForm route).linkTargets = [] := by
    simp [signInForm, Node.form, Node.input, Node.submit, Node.linkTargets, Node.linkTargetsOfAll]
  have forms : (signInForm route).forms =
      [{ action := (Route.login none).url
         method := "get"
         inputs := [("origin", route.url)] }] := by
    have isLower : Text.lower "get" = "get" := by decide +kernel
    have read : (signInForm route).forms =
        [{ action := (Route.login none).url
           method := Text.lower "get"
           inputs := [("origin", route.url)] }] := rfl
    rw [read, isLower]
  constructor
  · rw [links]
    exact List.forall_mem_nil _
  · rw [forms]
    exact List.forall_mem_singleton.2 (Route.isOriginOf_login route)

/-- Whoever signs in from a page with the links of every page is led back to the page, if this is so
of its content. -/
theorem signsInFrom_layout
    {content : List Node}
    (signsIn : ∀ node ∈ content, node.SignsInFrom route)
    (site : Site)
    (title : String) :
    (layout site none route title content).SignsInFrom route := by
  have toHome : route.IsOriginOf Route.home.url := Route.isOriginOf_url rfl nofun
  have toEpisodes : route.IsOriginOf Route.episodes.url := Route.isOriginOf_url rfl nofun
  have toCollections : route.IsOriginOf Route.collections.url := Route.isOriginOf_url rfl nofun
  have toSubscribe : route.IsOriginOf Route.subscribe.url := Route.isOriginOf_url rfl nofun
  have toLogin := Route.isOriginOf_login route
  simpa [layout, Node.document, navigation, accountNode, stylesheetNode, toHome, toEpisodes,
    toCollections, toSubscribe, toLogin] using signsIn

theorem login_mem_linkTargets_layout (site : Site) (title : String) (content : List Node) :
    (Route.login (some route.url)).url ∈
      (layout site none route title content).linkTargets := by
  simp [layout, Node.document, navigation, accountNode, Node.link, Node.linkTargets,
    Node.linkTargetsOfAll, Node.attribute?]

@[simp] theorem signsInFrom_sentence (content : String) :
    (sentence content).SignsInFrom route := by
  simp [sentence, Node.paragraph]

@[simp] theorem signsInFrom_remark (kind content : String) :
    (remark kind content).SignsInFrom route := by
  simp [remark]

/-- An episode in a listing is no place to sign in. -/
theorem signsInFrom_episodeItem (watched : WatchedEpisode) :
    (episodeItem watched).SignsInFrom route := by
  have toEpisode : route.IsOriginOf (Route.episode watched.episode.slug).url :=
    Route.isOriginOf_url rfl nofun
  simp only [episodeItem, Node.div]
  rw [Node.signsInFrom_element (by decide) (by decide), List.forall_mem_append,
    List.forall_mem_append]
  refine ⟨⟨?title, ?badge⟩, ?progress⟩
  case title => simp [toEpisode]
  case badge => split <;> simp
  case progress => simp

theorem signsInFrom_episodeList (listed : List WatchedEpisode) :
    (episodeList listed).SignsInFrom route := by
  simp [episodeList, signsInFrom_episodeItem]

theorem signsInFrom_collectionItem (collection : Collection) (count : Nat) :
    (collectionItem collection count).SignsInFrom route := by
  have toCollection : route.IsOriginOf (Route.collection collection.slug).url :=
    Route.isOriginOf_url rfl nofun
  simp [collectionItem, Node.paragraph, toCollection]

@[simp] theorem signsInFrom_planItem (coupon : Option Coupon) (plan : Plan) :
    (planItem coupon plan).SignsInFrom route := by
  simp [planItem, Node.div]

end Page

/-! ## Pages that are shown -/

namespace Site

open Arrival

/-- A visitor is shown a page on which signing in leads back to it, or no page at all. -/
def Shows (route : Route) (terminal : Terminal) : Prop :=
  ∀ page, terminal = Terminal.html page Status.ok →
    page.SignsInFrom route ∧ (Route.login (some route.url)).url ∈ page.linkTargets

variable {route : Route} {site : Site} {arrival : Arrival} {stubs : Stubs World} {drawn : Nat}

/-- A visitor who is not signed in is shown a page with the links of every page. -/
theorem shows_layout
    {content : List Node}
    (signsIn : ∀ node ∈ content, node.SignsInFrom route)
    (site : Site)
    (title : String) :
    Shows route (Terminal.html (Page.layout site none route title content) Status.ok) := by
  intro page isPage
  obtain rfl := (Terminal.html.inj isPage).1
  exact ⟨Page.signsInFrom_layout signsIn site title,
    Page.login_mem_linkTargets_layout site title content⟩

theorem comesTo_fail_shows
    {error : ServerError}
    (isFailure : error.status ≠ Status.ok) :
    ComesTo arrival (Chain.fail error) stubs drawn fun terminal _ => Shows route terminal :=
  ComesTo.fail fun _ isPage => absurd (Terminal.html.inj isPage).2 isFailure

/-- A visitor who is not signed in goes on with episodes without progress. -/
theorem comesTo_visibleEpisodes
    {pick : Catalog → Option User → Timestamp → List Episode}
    {next : Option Session × List WatchedEpisode → Chain World}
    {post : Terminal → Pool → Prop}
    (signedOut : arrival.session = none)
    (follow : ∀ listed, ComesTo arrival (next (none, listed)) stubs drawn post) :
    ComesTo arrival ((site.visibleEpisodes pick).finish next) stubs drawn post := by
  refine ComesTo.observe (ComesTo.session ?_)
  rw [signedOut]
  exact follow _

/-- A visitor who is not signed in is shown plans. -/
theorem comesTo_offerPlans
    {page : Option Session → Plan → Plan → Node}
    (signedOut : arrival.session = none)
    (shows : ∀ monthly yearly, Shows route (Terminal.html (page none monthly yearly) Status.ok)) :
    ComesTo arrival (offerPlans page) stubs drawn fun terminal _ => Shows route terminal := by
  refine ComesTo.observe ?_
  split
  next monthly yearly _ _ =>
    refine ComesTo.session ?_
    rw [signedOut]
    exact ComesTo.respond (shows monthly yearly)
  next => exact comesTo_fail_shows (by decide : Status.internalError ≠ Status.ok)

/-- A visitor who is not signed in is shown a collection under its own address. -/
theorem comesTo_collection
    (signedOut : arrival.session = none)
    (slug : String) :
    ComesTo arrival (site.collection slug) stubs drawn
      fun terminal _ => Shows (Route.collection slug) terminal := by
  refine ComesTo.observe ?_
  cases found : stubs.world.catalog.collection? slug with
  | none => exact comesTo_fail_shows (by decide : Status.notFound ≠ Status.ok)
  | some shown =>
      obtain rfl : shown.slug = slug := by simpa using List.find?_some found
      refine comesTo_visibleEpisodes signedOut fun listed => ComesTo.respond (shows_layout ?_ _ _)
      simp [Node.heading, Page.signsInFrom_episodeList]

/-- A visitor who is not signed in is shown an episode under its own address. -/
theorem comesTo_episode
    (signedOut : arrival.session = none)
    (slug : String) :
    ComesTo arrival (site.episode slug) stubs drawn
      fun terminal _ => Shows (Route.episode slug) terminal := by
  refine ComesTo.observe ?_
  cases found : stubs.world.catalog.episode? slug with
  | none => exact comesTo_fail_shows (by decide : Status.notFound ≠ Status.ok)
  | some shown =>
      obtain rfl : shown.slug = slug := by simpa using List.find?_some found
      refine ComesTo.session ?_
      rw [signedOut]
      split
      next =>
        refine ComesTo.respond (shows_layout ?_ _ _)
        have toSubscribe : (Route.episode shown.slug).IsOriginOf Route.subscribe.url :=
          Route.isOriginOf_url rfl nofun
        simp only [List.forall_mem_cons]
        refine ⟨?_, ?_, ?_, List.forall_mem_nil _⟩
        · simp [Node.heading]
        · simp
        · unfold Page.player
          split <;> simp [Node.paragraph, toSubscribe]
      next => exact comesTo_fail_shows (by decide : Status.notFound ≠ Status.ok)

/-- A visitor who is not signed in is shown a coupon under its own address, if the provider answers
with the coupon that is asked for. -/
theorem comesTo_promoCode
    {code : String}
    (signedOut : arrival.session = none)
    (isOwn : ∀ coupon, (Collaborator.coupon code).resolve
      (Stubs.task (Collaborator.coupon code).description stubs).1 = Except.ok coupon →
      coupon.couponCode = code) :
    ComesTo arrival (site.promoCode code) stubs drawn
      fun terminal _ => Shows (Route.promoCode code) terminal := by
  refine ComesTo.awaitOrFail (fun error page isPage => ?_) fun coupon answered => ?_
  · exact absurd (Terminal.html.inj isPage).2 (by decide : Status.internalError ≠ Status.ok)
  · obtain rfl := isOwn coupon answered
    split
    next =>
      refine ComesTo.observe ?_
      split
      next monthly yearly _ _ =>
        refine ComesTo.session ?_
        rw [signedOut]
        refine ComesTo.respond (shows_layout ?_ _ _)
        simp [Node.heading, Page.signInOffer, Page.signsInFrom_signInForm]
      next => exact comesTo_fail_shows (by decide : Status.internalError ≠ Status.ok)
    next => exact comesTo_fail_shows (by decide : Status.badRequest ≠ Status.ok)

/-- A visitor who is not signed in is shown the page of a team under its own address. -/
theorem comesTo_teamMemberSignup
    (signedOut : arrival.session = none)
    (token : Uuid) :
    ComesTo arrival (site.teamMemberSignup token) stubs drawn
      fun terminal _ => Shows (Route.teamMemberSignup token) terminal := by
  have noPage : ∀ error, Shows (Route.teamMemberSignup token)
      (Terminal.html (ServerError.ofQuery error).page (ServerError.ofQuery error).status) :=
    fun error page isPage =>
      absurd (Terminal.html.inj isPage).2 (by decide : Status.internalError ≠ Status.ok)
  refine ComesTo.queryOrFail noPage (fun error _ => noPage error) fun manager left yields _ => ?_
  cases manager with
  | none => exact comesTo_fail_shows (by decide : Status.notFound ≠ Status.ok)
  | some manager =>
      -- The page has the token that is stored for the manager, who was found by the one asked for.
      obtain ⟨row, finds⟩ := (Pool.ask_selectBy_eq_some_iff stubs.pool).1 yields
      have stored : (row.erase "id").find? "team_token" = some (Row.ofUuid token) :=
        (KeyMap.find?_erase "id" "team_token" row).trans finds.column_eq
      obtain rfl := User.teamToken_of_read stored finds.read_eq
      refine ComesTo.session ?_
      rw [signedOut]
      refine ComesTo.respond (shows_layout ?_ _ _)
      simp [Node.heading, Page.TeamSignup.ofSession, Page.signsInFrom_signInForm]

/-- A visitor who is not signed in and asks for a page on which people can sign in is shown this
page, or none. -/
theorem comesTo_chain
    (offers : route.OffersSignIn)
    (signedOut : arrival.session = none)
    (isOwn : ∀ code, route = Route.promoCode code → ∀ coupon, (Collaborator.coupon code).resolve
      (Stubs.task (Collaborator.coupon code).description stubs).1 = Except.ok coupon →
      coupon.couponCode = code) :
    ComesTo arrival (site.chain route) stubs drawn fun terminal _ => Shows route terminal := by
  cases route with
  | home =>
      refine comesTo_visibleEpisodes signedOut fun listed => ComesTo.respond (shows_layout ?_ _ _)
      have toEpisodes : Route.home.IsOriginOf Route.episodes.url := Route.isOriginOf_url rfl nofun
      simp [Node.heading, Node.subheading, Page.signsInFrom_episodeList, toEpisodes]
  | episodes =>
      refine comesTo_visibleEpisodes signedOut fun listed => ComesTo.respond (shows_layout ?_ _ _)
      simp [Node.heading, Page.signsInFrom_episodeList]
  | collections =>
      refine ComesTo.session (ComesTo.observe ?_)
      rw [signedOut]
      refine ComesTo.respond (shows_layout ?_ _ _)
      refine List.forall_mem_cons.2 ⟨by simp [Node.heading], List.forall_mem_singleton.2 ?_⟩
      rw [Node.signsInFrom_bullets, List.forall_mem_map]
      exact fun (listed, count) _ => Page.signsInFrom_collectionItem listed count
  | collection slug => exact comesTo_collection signedOut slug
  | episode slug => exact comesTo_episode signedOut slug
  | subscribe =>
      have shows : ∀ monthly yearly, Shows Route.subscribe
          (Terminal.html (Page.subscribe site none monthly yearly) Status.ok) := by
        intro monthly yearly
        refine shows_layout ?_ site _
        have toTeam : Route.subscribe.IsOriginOf Route.subscribeTeam.url :=
          Route.isOriginOf_url rfl nofun
        simp [Node.heading, Node.paragraph, Page.subscribeHint, Page.signsInFrom_signInForm, toTeam]
      exact comesTo_offerPlans signedOut shows
  | subscribeTeam =>
      have shows : ∀ monthly yearly, Shows Route.subscribeTeam
          (Terminal.html (Page.subscribeTeam site none monthly yearly) Status.ok) := by
        intro monthly yearly
        refine shows_layout ?_ site _
        simp [Node.heading, Page.signInOffer, Page.signsInFrom_signInForm]
      exact comesTo_offerPlans signedOut shows
  | promoCode code => exact comesTo_promoCode signedOut (isOwn code rfl)
  | teamMemberSignup token => exact comesTo_teamMemberSignup signedOut token
  | _ => exact offers.elim

end Site

end Screencast
