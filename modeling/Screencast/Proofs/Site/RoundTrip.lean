import Screencast.Proofs.Site.Redirects
import Screencast.Proofs.Site.SignInLinks

/-!
# There and back again

A visitor who signs in follows a link of the page, is sent to GitHub with the address of the page in
the address to come back to, comes back with a code, and is led to the page. Wherever the visitor
comes from, GitHub and the callback are told exactly that.
-/

namespace Screencast

namespace Site

open Arrival

variable {site : Site} {arrival : Arrival} {stubs : Stubs World} {drawn : Nat}

/-! ## To GitHub -/

/-- The address to which GitHub is asked to send a visitor back, as it stands in the address at
which the visitor signs in. -/
def redirectUri? (address : String) : Option String :=
  (Text.cut '?' address).bind fun (_, query) => (Url.queryParams query).lookup "redirect_uri"

/-- The address at which visitors sign in has parameters for the scope and for the site, and one for
the address to which GitHub sends a visitor back who is to be led somewhere. -/
theorem exists_cut_loginUrl (site : Site) (origin : Option String) :
    ∃ query, Text.cut '?' (site.loginUrl origin) = some (authorizeUrl, query) ∧
      Url.queryParams query =
        ("scope", "user:email") :: ("client_id", site.githubClientId) ::
          (origin.map fun origin => ("redirect_uri", site.callbackUrl origin)).toList := by
  -- The scope comes first and is not escaped, so that only the pairs behind it are written ones.
  let pairs := ("client_id", site.githubClientId) ::
    (origin.map fun origin => ("redirect_uri", site.callbackUrl origin)).toList
  have plain : ∀ pair ∈ pairs, Url.isPlain pair.1 = true := by
    refine List.forall_mem_cons.2 ⟨(by decide : Url.isPlain "client_id" = true), fun pair isPair => ?_⟩
    obtain ⟨origin, rfl, rfl⟩ : ∃ back, origin = some back ∧
        ("redirect_uri", site.callbackUrl back) = pair := by
      simpa using isPair
    exact (by decide : Url.isPlain "redirect_uri" = true)
  have apart : ∀ piece ∈ "scope=user:email" :: pairs.map Url.writePair,
      '&' ∉ piece.toList ∧ piece ≠ "" := by
    refine List.forall_mem_cons.2 ⟨by decide, List.forall_mem_map.2 fun pair isPair => ?_⟩
    exact ⟨Url.not_mem_writePair (plain pair isPair) (by decide) (by decide),
      Url.writePair_ne_empty pair⟩
  have address : site.loginUrl origin = authorizeUrl ++ String.singleton '?' ++
      "&".intercalate ("scope=user:email" :: pairs.map Url.writePair) := by
    have first : "?scope=user:email&client_id=" =
        String.singleton '?' ++ "scope=user:email" ++ "&" ++ "client_id" ++ "=" := by decide
    have second : "&redirect_uri=" = "&" ++ "redirect_uri" ++ "=" := by decide
    cases origin <;>
      simp only [loginUrl, first, second, pairs, Option.map_none, Option.map_some,
        Option.toList_none, Option.toList_some, List.map_cons, List.map_nil,
        String.intercalate_cons_cons, String.intercalate_singleton, Url.writePair,
        String.append_assoc]
  have scope : Url.readPair "scope=user:email" = ("scope", "user:email") := by decide +kernel
  have read : ∀ pair ∈ pairs, (Url.readPair ∘ Url.writePair) pair = id pair :=
    fun pair isPair => Url.readPair_writePair (plain pair isPair)
  refine ⟨_, address ▸ Text.cut_append (by decide) _, ?_⟩
  rw [Url.queryParams_intercalate_eq_map apart, List.map_cons, scope, List.map_map,
    List.map_congr_left read, List.map_id]

/-- The address to which GitHub sends a visitor back is the one of the callback. -/
theorem redirectUri?_loginUrl (site : Site) (origin : String) :
    redirectUri? (site.loginUrl (some origin)) = some (site.callbackUrl origin) := by
  obtain ⟨query, isCut, read⟩ := site.exists_cut_loginUrl (some origin)
  rw [redirectUri?, isCut, Option.bind_some]
  dsimp only
  rw [read]
  rfl

/-- A visitor who signs in is sent to GitHub. -/
theorem terminal_run_login
    (site : Site)
    (arrival : Arrival)
    (origin : Option String)
    (stubs : Stubs World) :
    (arrival.run (site.login origin) stubs).1.terminal =
      Terminal.redirect (site.loginUrl origin) [] := by
  unfold login Chain.redirectTo Chain.send
  split <;> rfl

/-! ## Back from GitHub -/

/-- The target that GitHub asks for when it adds a code to the query of the one to come back to. -/
def withCode (target code : String) : String := target ++ "&code=" ++ Url.percentEncode code

/-- The target of a path with a query of written pairs. -/
def writtenTarget (path : String) (pairs : List (String × String)) : String :=
  path ++ String.singleton '?' ++ "&".intercalate (pairs.map Url.writePair)

theorem url_githubCallback (origin : String) :
    (Route.githubCallback none (some origin)).url =
      writtenTarget "/github-callback" [("origin", origin)] :=
  Url.withQuery_eq "/github-callback" [("code", none), ("origin", some origin)]

/-- When GitHub has added a code, it is one more parameter. -/
theorem withCode_url (origin code : String) :
    withCode (Route.githubCallback none (some origin)).url code =
      writtenTarget "/github-callback" [("origin", origin), ("code", code)] := by
  have separator : "&code=" = "&" ++ "code" ++ "=" := by decide
  rw [withCode, url_githubCallback, separator]
  simp only [writtenTarget, List.map_cons, List.map_nil, String.intercalate_cons_cons,
    String.intercalate_singleton, Url.writePair, String.append_assoc]

/-- Whoever follows a written target asks for the path with these parameters and no others. -/
theorem following_writtenTarget
    {path : String}
    {first : String × String}
    {others : List (String × String)}
    (noQuery : '?' ∉ path.toList)
    (plain : ∀ pair ∈ first :: others, Url.isPlain pair.1 = true) :
    ∃ query, RequestHead.following (writtenTarget path (first :: others)) =
        { method := "GET", path, query := some query } ∧
      Url.queryParams query = first :: others := by
  refine ⟨_, ?_, Url.queryParams_intercalate plain⟩
  rw [RequestHead.following, writtenTarget, Text.cut_append noQuery]

/-- A request for the callback is read as the callback with two of its parameters. -/
theorem route?_githubCallback (query : String) :
    ({ method := "GET", path := "/github-callback", query := some query } : RequestHead).route? =
      some (Route.githubCallback ((Url.queryParams query).lookup "code")
        ((Url.queryParams query).lookup "origin")) := by
  have path : Route.segments "/github-callback" = ["github-callback"] := by decide +kernel
  have isGet : "GET" ≠ "POST" := by decide
  rw [RequestHead.route?, Route.parse?, if_neg isGet, if_pos rfl, path, Option.map_some]
  rfl

/-- GitHub asks for the callback with the code and with where the visitor came from. -/
theorem route?_following_withCode (origin code : String) :
    (RequestHead.following (withCode (Route.githubCallback none (some origin)).url code)).route? =
      some (Route.githubCallback (some code) (some origin)) := by
  have plain : ∀ pair ∈ [("origin", origin), ("code", code)], Url.isPlain pair.1 = true :=
    List.forall_mem_cons.2 ⟨(by decide : Url.isPlain "origin" = true),
      List.forall_mem_singleton.2 (by decide : Url.isPlain "code" = true)⟩
  obtain ⟨query, asks, read⟩ :=
    following_writtenTarget (by decide : '?' ∉ "/github-callback".toList) plain
  rw [withCode_url, asks, route?_githubCallback, read]
  rfl

/-- A visitor who begins a session is sent to where the origin leads. -/
theorem comesTo_startSession_destination (userId : Uuid) (origin : Option String) :
    ComesTo arrival (site.startSession userId origin) stubs drawn fun terminal _ =>
      ∀ location headers, terminal = Terminal.redirect location headers →
        location = destination origin := by
  refine ComesTo.fresh (ComesTo.queryOrFail (fun _ => nofun) (fun _ _ => nofun) fun _ _ _ _ => ?_)
  refine ComesTo.respond fun location headers isRedirect => ?_
  exact (Terminal.redirect.inj isRedirect).1.symm

/-- A visitor who comes back from GitHub is sent to where the origin leads, if anywhere. -/
theorem comesTo_githubCallback_destination (code origin : Option String) :
    ComesTo arrival (site.githubCallback code origin) stubs drawn fun terminal _ =>
      ∀ location headers, terminal = Terminal.redirect location headers →
        location = destination origin := by
  cases code with
  | none => exact ComesTo.fail nofun
  | some code =>
      refine ComesTo.awaitOrFail (fun _ => nofun) fun accessToken _ => ?_
      cases accessToken with
      | none => exact ComesTo.fail nofun
      | some accessToken =>
          refine ComesTo.awaitOrFail (fun _ => nofun) fun profile _ => ?_
          refine ComesTo.queryOrFail (fun _ => nofun) (fun _ _ => nofun) fun user _ _ _ => ?_
          cases user with
          | some user => exact comesTo_startSession_destination user.id origin
          | none =>
              refine ComesTo.fresh (ComesTo.fresh ?_)
              refine ComesTo.queryOrFail (fun _ => nofun) (fun _ _ => nofun) fun userId _ _ _ => ?_
              exact comesTo_startSession_destination userId origin

/-! ## The whole way -/

/-- Whoever comes back from GitHub to an address with a code, and is signed in, is sent to a
location that meets a condition. -/
def WelcomesAt (site : Site) (back : String) (holds : String → Prop) : Prop :=
  ∀ (code : String) (now : Timestamp) (arrival : Arrival) (stubs : Stubs World) (location : String)
    (headers : Headers),
    (arrival.run (({ site with now } : Site).dispatch (RequestHead.following (withCode back code)))
      stubs).1.terminal = Terminal.redirect location headers → holds location

/-- Whoever follows a target is sent to GitHub with an address on the site to come back to, and
whoever comes back there and is signed in is sent to a location that meets a condition. -/
def SignsInAt (site : Site) (target : String) (holds : String → Prop) : Prop :=
  ∀ (now : Timestamp) (arrival : Arrival) (stubs : Stubs World), ∃ address back,
    (arrival.run (({ site with now } : Site).dispatch (RequestHead.following target))
        stubs).1.terminal = Terminal.redirect address [] ∧
      redirectUri? address = some (Text.trimTrailing '/' site.baseUrl ++ back) ∧
      site.WelcomesAt back holds

/-- Who is led to a location that meets a condition is led to one that meets a weaker one. -/
theorem SignsInAt.imp
    {target : String}
    {holds weaker : String → Prop}
    (signsIn : site.SignsInAt target holds)
    (implies : ∀ location, holds location → weaker location) :
    site.SignsInAt target weaker := by
  intro now arrival stubs
  obtain ⟨address, back, isSent, comesBack, welcomes⟩ := signsIn now arrival stubs
  exact ⟨address, back, isSent, comesBack, fun code later callback callbackStubs location headers
    isRedirect => implies location (welcomes code later callback callbackStubs location headers
      isRedirect)⟩

/-- Who signs in with an origin is led to where the origin leads. -/
theorem signsInAt_of_isLogin
    {target origin : String}
    {holds : String → Prop}
    (isLogin : (RequestHead.following target).route? = some (Route.login (some origin)))
    (leads : holds (Url.safeDestination origin)) :
    site.SignsInAt target holds := by
  intro now arrival stubs
  refine ⟨({ site with now } : Site).loginUrl (some origin),
    (Route.githubCallback none (some origin)).url, ?_, redirectUri?_loginUrl _ origin, ?_⟩
  · have isSignIn : ({ site with now } : Site).dispatch (RequestHead.following target) =
        ({ site with now } : Site).login (some origin) := by
      rw [dispatch, isLogin]
      rfl
    rw [isSignIn]
    exact terminal_run_login _ arrival (some origin) stubs
  · intro code later callback callbackStubs location headers isRedirect
    rw [dispatch, route?_following_withCode] at isRedirect
    have isDestination := (comesTo_githubCallback_destination (some code)
      (some origin)).run_spec location headers isRedirect
    rw [isDestination]
    exact leads

/-- A visitor who is not signed in and is shown a page on which people can sign in finds a link to
do so. Whoever follows any link or form of the page to sign in is sent to GitHub, and who comes back
from there with a code and is signed in is led to the page again, if its slug stands for itself, and
to the home page if there is a control character in it. -/
theorem signsInAt_of_shown
    {route : Route}
    {visit : Arrival}
    {page : Html.Node}
    (offers : route.OffersSignIn)
    (named : route.NamesNothingEmpty)
    (signedOut : visit.session = none)
    (isOwn : ∀ code, route = Route.promoCode code → ∀ coupon, (Collaborator.coupon code).resolve
      (Stubs.task (Collaborator.coupon code).description stubs).1 = Except.ok coupon →
      coupon.couponCode = code)
    (shown : (visit.run (site.dispatch (RequestHead.ofRoute route)) stubs).1.terminal =
      Terminal.html page Status.ok) :
    (∃ target ∈ page.linkTargets, ∃ origin,
      (RequestHead.following target).route? = some (Route.login origin)) ∧
    ∀ target ∈ page.targets, ∀ origin,
      (RequestHead.following target).route? = some (Route.login origin) →
      site.SignsInAt target fun location =>
        (Url.StandsForItself route.slug → (RequestHead.following location).route? = some route) ∧
          (route.slug.toList.any Text.isControl = true → location = "/") := by
  rw [dispatch_ofRoute site named] at shown
  have shows := (comesTo_chain offers signedOut isOwn).run_spec page shown
  obtain ⟨signsIn, hasLink⟩ := shows
  refine ⟨⟨_, hasLink, some route.url, Route.route?_following_login _⟩, ?_⟩
  intro target isTarget origin isLogin
  obtain rfl := signsIn.isOriginOf isTarget origin isLogin
  refine signsInAt_of_isLogin isLogin ?_
  rw [Route.safeDestination_url offers]
  refine ⟨fun standing => ?_, fun holdsControl => if_pos holdsControl⟩
  rw [standing.noControl, if_neg Bool.false_ne_true]
  exact Route.route?_following_plainPath offers named standing

/-- A visitor who is not signed in is shown the page of an episode that is released. -/
theorem terminal_run_dispatch_episode
    {slug : String}
    {shown : Episode}
    (nonempty : slug ≠ "")
    (signedOut : arrival.session = none)
    (found : stubs.world.catalog.episode? slug = some shown)
    (isReleased : shown.isReleased site.now = true) :
    (arrival.run (site.dispatch (RequestHead.ofRoute (Route.episode slug))) stubs).1.terminal =
      Terminal.html (Page.episode site none shown none) Status.ok := by
  have isOpen : site.isOpen none shown = true := by
    rw [isOpen, isReleased, Bool.or_true]
  have comes : ComesTo arrival (site.episode slug) stubs 0 fun terminal _ =>
      terminal = Terminal.html (Page.episode site none shown none) Status.ok := by
    refine ComesTo.observe ?_
    rw [found]
    refine ComesTo.session ?_
    rw [signedOut, if_pos isOpen]
    exact ComesTo.respond rfl
  have named : (Route.episode slug).NamesNothingEmpty := nonempty
  rw [dispatch_ofRoute site named]
  exact comes.run_spec

/-- A world in which GitHub knows whoever signs in, and in which nobody has signed in before. -/
def firstSignIn (catalog : Catalog) : Stubs World :=
  let profile : Profile := { id := 7, login := "ana", avatarUrl := "", name := none, email := none }
  { pool := {}
    world := { catalog, source := Except.ok catalog }
    answers :=
      [("oauth.access_token", [Except.ok (Answer.token (some "gho"))]),
        ("oauth.profile", [Except.ok (Answer.profile profile)])] }

/-- Whoever signs in for the first time is sent to where the origin leads. -/
theorem terminal_run_firstSignIn
    {origin location : String}
    (clock : site.wallClock = Timestamp.ofUnix 1717232400 0)
    (leads : Url.safeDestination origin = location)
    (catalog : Catalog) :
    (({} : Arrival).run (site.dispatch (RequestHead.following
        (withCode (Route.githubCallback none (some origin)).url "code")))
      (firstSignIn catalog)).1.terminal =
      Terminal.redirect location [("Set-Cookie", Session.cookie (Uuid.drawn 3))] := by
  obtain ⟨_, _, _, _, wallClock⟩ := site
  subst clock leads
  rw [dispatch, route?_following_withCode]
  rfl

/-- A visitor who signs in from the page of an episode whose slug holds reserved characters is led
to the page again. -/
theorem signsInAt_of_shown_episode :
    let released := Timestamp.ofUnix 1717232400 0
    let site : Site := { now := released, baseUrl := "https://example.com/" }
    let slug := "c++ & é"
    let shown : Episode := { (default : Episode) with slug, releasedAt := some released }
    let catalog : Catalog := { Catalog.empty with episodes := [shown] }
    (({} : Arrival).run (site.dispatch (RequestHead.ofRoute (Route.episode slug)))
        (firstSignIn catalog)).1.terminal =
          Terminal.html (Page.episode site none shown none) Status.ok ∧
      Url.StandsForItself slug ∧
      (site.SignsInAt (Route.login (some (Route.episode slug).url)).url fun location =>
        (RequestHead.following location).route? = some (Route.episode slug)) ∧
      (({} : Arrival).run (site.dispatch (RequestHead.following
          (withCode (Route.githubCallback none (some (Route.episode slug).url)).url "code")))
        (firstSignIn catalog)).1.terminal =
          Terminal.redirect "/episodes/c++ & é" [("Set-Cookie", Session.cookie (Uuid.drawn 3))] := by
  intro released site slug shown catalog
  have isReleased : shown.isReleased site.now = true := decide_eq_true (Int.le_refl _)
  have found : catalog.episode? slug = some shown :=
    List.find?_cons_of_pos (beq_self_eq_true slug)
  have nonempty : slug ≠ "" := by decide
  have isShown : (({} : Arrival).run (site.dispatch (RequestHead.ofRoute (Route.episode slug)))
      (firstSignIn catalog)).1.terminal =
        Terminal.html (Page.episode site none shown none) Status.ok :=
    terminal_run_dispatch_episode nonempty rfl found isReleased
  have standing : Url.StandsForItself slug :=
    ⟨by decide, by decide, by decide, by decide +kernel⟩
  have offers : (Route.episode slug).OffersSignIn := trivial
  have named : (Route.episode slug).NamesNothingEmpty := nonempty
  obtain ⟨_, signsIn⟩ := signsInAt_of_shown offers named rfl nofun isShown
  have isTarget : (Route.login (some (Route.episode slug).url)).url ∈
      (Page.episode site none shown none).targets :=
    List.mem_append_left _ (Page.login_mem_linkTargets_layout site _ _)
  have destination : Url.safeDestination (Route.episode slug).url = "/episodes/c++ & é" := by
    decide +kernel
  have clock : site.wallClock = Timestamp.ofUnix 1717232400 0 := rfl
  have welcomed := terminal_run_firstSignIn clock destination catalog
  exact ⟨isShown, standing,
    (signsIn _ isTarget _ (Route.route?_following_login _)).imp fun _ leads => leads.1 standing,
    welcomed⟩

/-- A visitor who signs in from the page of an episode whose slug holds a control character, a
slash, a question mark or an escape is not led to the page again. -/
theorem redirect_of_shown_episode_of_reserved_slug :
    let released := Timestamp.ofUnix 1717232400 0
    let site : Site := { now := released, baseUrl := "https://example.com/" }
    ∀ slug ∈ ["a\tb", "a/b", "a?b", "a%41"],
      let shown : Episode := { (default : Episode) with slug, releasedAt := some released }
      let catalog : Catalog := { Catalog.empty with episodes := [shown] }
      let target := (Route.login (some (Route.episode slug).url)).url
      ∃ page location headers,
        (({} : Arrival).run (site.dispatch (RequestHead.ofRoute (Route.episode slug)))
            (firstSignIn catalog)).1.terminal = Terminal.html page Status.ok ∧
          target ∈ page.linkTargets ∧
          (RequestHead.following target).route? =
            some (Route.login (some (Route.episode slug).url)) ∧
          (({} : Arrival).run (site.dispatch (RequestHead.following
              (withCode (Route.githubCallback none (some (Route.episode slug).url)).url "code")))
            (firstSignIn catalog)).1.terminal = Terminal.redirect location headers ∧
          (RequestHead.following location).route? ≠ some (Route.episode slug) := by
  intro released site slug isSlug shown catalog target
  have isReleased : shown.isReleased site.now = true := decide_eq_true (Int.le_refl _)
  have found : catalog.episode? slug = some shown :=
    List.find?_cons_of_pos (beq_self_eq_true slug)
  have nonempty : slug ≠ "" := by
    rintro rfl
    revert isSlug
    decide
  have leadsElsewhere : ∀ slug ∈ ["a\tb", "a/b", "a?b", "a%41"],
      (RequestHead.following (Url.safeDestination (Route.episode slug).url)).route? ≠
        some (Route.episode slug) := by
    decide +kernel
  have isShown : (({} : Arrival).run (site.dispatch (RequestHead.ofRoute (Route.episode slug)))
      (firstSignIn catalog)).1.terminal =
        Terminal.html (Page.episode site none shown none) Status.ok :=
    terminal_run_dispatch_episode nonempty rfl found isReleased
  have clock : site.wallClock = Timestamp.ofUnix 1717232400 0 := rfl
  have welcomed := terminal_run_firstSignIn clock
    (rfl : Url.safeDestination (Route.episode slug).url = _) catalog
  exact ⟨_, _, _, isShown, Page.login_mem_linkTargets_layout site _ _,
    Route.route?_following_login _, welcomed, leadsElsewhere slug isSlug⟩

end Site

/-! ## What GitHub is told

A visitor who signs in is sent to GitHub with an address to come back to, and that address holds
where the visitor comes from. One is a parameter of the other, so that it is encoded twice. Whoever
reads the parameters finds them as they were, and no origin makes up another parameter.
-/

/-- The parameters of a request. -/
def RequestHead.params (head : RequestHead) : List (String × String) :=
  (head.query.map Url.queryParams).getD []

/-- A target leads back from GitHub to where a visitor comes from: without a code, and with any code
that GitHub adds, it asks for the callback with this origin and nothing else. -/
structure LeadsBack (target origin : String) : Prop where
  route : (RequestHead.following target).route? = some (Route.githubCallback none (some origin))
  params : (RequestHead.following target).params = [("origin", origin)]
  routeWithCode : ∀ code, (RequestHead.following (Site.withCode target code)).route? =
    some (Route.githubCallback (some code) (some origin))
  paramsWithCode : ∀ code, (RequestHead.following (Site.withCode target code)).params =
    [("origin", origin), ("code", code)]

namespace Site

/-- The address to come back to leads back to where the visitor comes from. -/
theorem leadsBack_url (origin : String) :
    LeadsBack (Route.githubCallback none (some origin)).url origin := by
  have noQuery : '?' ∉ "/github-callback".toList := by decide
  have plainOrigin : Url.isPlain "origin" = true := by decide
  have plainCode : Url.isPlain "code" = true := by decide
  have plain : ∀ pair ∈ [("origin", origin)], Url.isPlain pair.1 = true :=
    List.forall_mem_singleton.2 plainOrigin
  obtain ⟨query, asks, read⟩ := following_writtenTarget noQuery plain
  constructor
  case route =>
    rw [url_githubCallback, asks, route?_githubCallback, read]
    rfl
  case params =>
    rw [url_githubCallback, asks]
    exact read
  case routeWithCode => exact route?_following_withCode origin
  case paramsWithCode =>
    intro code
    have plain : ∀ pair ∈ [("origin", origin), ("code", code)], Url.isPlain pair.1 = true :=
      List.forall_mem_cons.2 ⟨plainOrigin, List.forall_mem_singleton.2 plainCode⟩
    obtain ⟨query, asks, read⟩ := following_writtenTarget noQuery plain
    rw [withCode_url, asks]
    exact read

theorem login_eq (site : Site) (origin : Option String) :
    site.login origin = Chain.respond (Terminal.redirect (site.loginUrl origin) []) := by
  have isSafe : (Terminal.redirect (site.loginUrl origin) []).IsSafe :=
    Terminal.isSafe_redirect (Or.inl (site.loginUrl_eq origin)) (site.any_isControl_loginUrl origin)
      (List.forall_mem_nil _)
  rw [login, Chain.redirectTo, Chain.send, isSafe.faultless]

/-- A visitor who signs in is redirected to GitHub with three parameters: the scope, the site, and
the address to come back to. Without an origin the last of them is left out. Behind the address of
the site, the address to come back to leads back to the origin, whatever characters are in it. -/
theorem login_tells_origin (site : Site) (origin : Option String) :
    ∃ address query, site.login origin = Chain.respond (Terminal.redirect address []) ∧
      Text.cut '?' address = some (authorizeUrl, query) ∧
      match origin with
      | none =>
        Url.queryParams query = [("scope", "user:email"), ("client_id", site.githubClientId)]
      | some origin =>
        ∃ back, LeadsBack back origin ∧
          Url.queryParams query =
            [("scope", "user:email"), ("client_id", site.githubClientId),
              ("redirect_uri", Text.trimTrailing '/' site.baseUrl ++ back)] := by
  obtain ⟨query, isCut, read⟩ := site.exists_cut_loginUrl origin
  refine ⟨site.loginUrl origin, query, site.login_eq origin, isCut, ?_⟩
  cases origin with
  | none => exact read
  | some origin => exact ⟨_, leadsBack_url origin, read⟩

end Site

end Screencast
