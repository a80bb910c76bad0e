import Screencast.Proofs.Http.Sendable
import Screencast.Proofs.Serve.Sends
import Screencast.Proofs.Site.Destination
import Screencast.Proofs.Url.Percent
import Screencast.Site.Dispatch

/-!
# Where the site leads visitors, and with which headers

Every terminal of the site can be sent: all its headers are well formed, whatever stands in a
request, in the store or in the answers of others. A redirect leads to the page where visitors sign
in, or to a path on this site.
-/

namespace Screencast

/-! ## Safe terminals -/

namespace Url

/-- A path on this site: it begins with one slash that does not begin a host, and there is no
control character in it. -/
structure IsLocal (path : String) : Prop where
  absolute : path.toList.head? = some '/'
  noHost : path.toList[1]? ≠ some '/' ∧ path.toList[1]? ≠ some '\\'
  noControl : ∀ char ∈ path.toList, Text.isControl char = false

/-- What is taken for a local path is one. -/
theorem isLocal_of_isLocalPath
    {path : String}
    (isLocal : isLocalPath path.toList = true) :
    IsLocal path := by
  unfold isLocalPath at isLocal
  split at isLocal
  next => cases isLocal
  next => cases isLocal
  next rest notTwo notBackslash chars =>
    constructor
    case absolute => rw [chars]; rfl
    case noHost =>
      rw [chars]
      cases rest with
      | nil => exact ⟨(fun same => nomatch same), (fun same => nomatch same)⟩
      | cons second others =>
          have isSecond : ('/' :: second :: others)[1]? = some second := rfl
          rw [isSecond]
          refine ⟨fun same => notTwo others ?_, fun same => notBackslash others ?_⟩
          · rw [Option.some.inj same]
          · rw [Option.some.inj same]
    case noControl =>
      rw [Bool.not_eq_true', List.any_eq_false] at isLocal
      exact fun char present => Bool.eq_false_iff.2 (isLocal char present)
  next => cases isLocal

theorem isLocal_safeDestination (origin : String) : IsLocal (safeDestination origin) := by
  unfold safeDestination
  dsimp only
  split
  next isLocal => exact isLocal_of_isLocalPath isLocal
  next => exact isLocal_of_isLocalPath (by decide)

/-- There is no control character in an encoded text. -/
theorem any_isControl_percentEncode (text : String) :
    (percentEncode text).toList.any Text.isControl = false := by
  rw [List.any_eq_false]
  intro char present isControl
  have isEncoded := isEncodedChar_of_mem_percentEncode present
  by_cases isAlphanum : char.isAlphanum = true
  · rw [Text.isControl_of_isAlphanum isAlphanum] at isControl
    cases isControl
  · simp only [isEncodedChar, isAlphanum, Bool.false_or, Bool.or_eq_true, decide_eq_true_eq]
      at isEncoded
    rcases isEncoded with (((rfl | rfl) | rfl) | rfl) | rfl <;> cases isControl

end Url

open Http

/-- A terminal that can be sent as it is, and that leads nowhere but to the page where visitors sign
in or to a path on this site. -/
structure Terminal.IsSafe (terminal : Terminal) : Prop where
  /-- A redirect leads to the page where visitors sign in, or to a path on this site. -/
  leads : ∀ path headers, terminal = redirect path headers →
    (∃ params, path = Site.authorizeUrl ++ "?" ++ params) ∨ Url.IsLocal path
  /-- The headers that the terminal has of its own are well formed. -/
  faultless : terminal.fault? = none
  /-- The headers with which a server sends the terminal are well formed. -/
  sendable : ∀ files, (Response.draft files terminal).headers.AreSendable

namespace Terminal

theorem isSafe_html (node : Html.Node) (status : Status) : (html node status).IsSafe where
  leads := by rintro path headers ⟨⟩
  faultless := rfl
  sendable := fun _ => Response.areSendable_pageHeaders

/-- A text is safe if its headers can be sent. -/
theorem isSafe_text
    (body : String)
    (status : Status)
    {headers : Headers}
    (areSendable : headers.AreSendable) :
    (text body status headers).IsSafe where
  leads := by rintro path headers ⟨⟩
  faultless := (headerFault?_eq_none_iff headers).2 areSendable
  sendable := fun _ => Response.areSendable_textHeaders areSendable

/-- A file is safe. -/
theorem isSafe_file (path : String) (maxAge : Option Nat) : (file path maxAge).IsSafe where
  leads := by rintro path headers ⟨⟩
  faultless := rfl
  sendable := by
    intro files
    simp only [Response.draft]
    split
    · exact Response.areSendable_fileHeaders path maxAge
    · exact Response.areSendable_pageHeaders

/-- A redirect to one of the two is safe if its headers can be sent. -/
theorem isSafe_redirect
    {path : String}
    {headers : Headers}
    (leads : (∃ params, path = Site.authorizeUrl ++ "?" ++ params) ∨ Url.IsLocal path)
    (noControl : path.toList.any Text.isControl = false)
    (areSendable : headers.AreSendable) :
    (redirect path headers).IsSafe := by
  have sendable : (redirectHeaders path headers).AreSendable :=
    Headers.AreSendable.put areSendable (by decide) noControl
  constructor
  case leads =>
    rintro other more ⟨⟩
    exact leads
  case faultless => exact (headerFault?_eq_none_iff _).2 sendable
  case sendable => exact fun _ => sendable

end Terminal

/-! ## The chains of the site -/

namespace Session

/-- The cookie of a session can be sent. -/
theorem areSendable_cookie (sessionId : Uuid) :
    Headers.AreSendable [("Set-Cookie", cookie sessionId)] := by
  refine Headers.areSendable_singleton (by decide) ?_
  have name : cookieName.toList.any Text.isControl = false := by decide
  have opening : "=\"".toList.any Text.isControl = false := by decide
  have ending : "\"; HttpOnly; Path=/".toList.any Text.isControl = false := by decide
  simp only [cookie, String.toList_append, List.any_append, name, opening, ending,
    Url.isControl_of_isPlain (Route.isPlain_text sessionId), Bool.or_false]

/-- Looking up a session sends nothing but error pages. -/
theorem leavesTerminals_resolve (token : Uuid) :
    (resolve token : Step World (Option Session)).LeavesTerminals Terminal.IsSafe := by
  have asks {result : Type} (issued : Query result) :
      (Step.queryOrFail issued : Step World result).LeavesTerminals Terminal.IsSafe :=
    Step.leavesTerminals_queryOrFail Terminal.isSafe_html issued
  refine (asks _).andThen fun signIn => ?_
  cases signIn with
  | none => exact Step.leavesTerminals_pure _
  | some signIn =>
      refine (asks _).andThen fun user => ?_
      cases user with
      | none => exact Step.leavesTerminals_pure _
      | some user =>
          refine Step.LeavesTerminals.map ((asks _).andThen fun membership => ?_) _
          cases membership with
          | none => exact Step.leavesTerminals_pure _
          | some membership => exact asks _

end Session

namespace Site

open Chain

variable (site : Site)

/-- Every chain of the site sends safe terminals only. -/
abbrev SendsSafely (chain : Chain World) : Prop := chain.SendsOnly Terminal.IsSafe

theorem sendsSafely_fail (error : ServerError) : SendsSafely (Chain.fail error) :=
  sendsOnly_failOwing Terminal.isSafe_html [] error

theorem sendsSafely_page (node : Html.Node) : SendsSafely (Chain.page node) :=
  SendsOnly.respond (Terminal.isSafe_html node Status.ok)

theorem sendsSafely_write (body : String) : SendsSafely (Chain.write body) :=
  SendsOnly.respond (Terminal.isSafe_text body Status.ok (List.forall_mem_nil _))

theorem sendsSafely_logFailure (context : String) (failure : Option String) :
    SendsSafely (Chain.logFailure context failure) :=
  sendsOnly_logFailure (Terminal.isSafe_text "" Status.ok (List.forall_mem_nil _)) context failure

/-- Sending a JSON value is safe. -/
theorem sendsSafely_writeJson (value : Except String Json) :
    SendsSafely (Chain.writeJson value) := by
  cases value with
  | ok value =>
      refine SendsOnly.respond (Terminal.isSafe_text _ _ ?_)
      exact Headers.areSendable_singleton (by decide) (by decide)
  | error detail => exact sendsSafely_fail _

/-! ### Pages -/

theorem leavesTerminals_withProgress (episodes : List Episode) (userId : Option Uuid) :
    (WatchedEpisode.withProgress episodes userId).LeavesTerminals Terminal.IsSafe := by
  cases userId with
  | none => exact Step.leavesTerminals_pure _
  | some userId => exact (Step.leavesTerminals_queryOrFail Terminal.isSafe_html _).map _

theorem leavesTerminals_visibleEpisodes
    (pick : Catalog → Option User → Timestamp → List Episode) :
    (site.visibleEpisodes pick).LeavesTerminals Terminal.IsSafe := by
  refine Step.leavesTerminals_observe.andThen fun world => ?_
  refine Step.leavesTerminals_session.andThen fun session => ?_
  exact (leavesTerminals_withProgress _ _).map _

theorem sendsSafely_collection (slug : String) : SendsSafely (site.collection slug) := by
  refine SendsOnly.observe fun world => ?_
  dsimp only
  split
  · exact sendsSafely_fail _
  · exact (site.leavesTerminals_visibleEpisodes _).finish fun _ => sendsSafely_page _

/-- The page of an episode is sent safely. -/
theorem sendsSafely_episode (slug : String) : SendsSafely (site.episode slug) := by
  refine SendsOnly.observe fun world => ?_
  split
  · exact sendsSafely_fail _
  · refine SendsOnly.session [] fun session => ?_
    split
    · exact (leavesTerminals_withProgress _ _).finish fun _ => sendsSafely_page _
    · exact sendsSafely_fail _

theorem sendsSafely_offerPlans (page : Option Session → Plan → Plan → Html.Node) :
    SendsSafely (offerPlans page) := by
  refine SendsOnly.observe fun world => ?_
  split
  · exact SendsOnly.session [] fun _ => sendsSafely_page _
  · exact sendsSafely_fail _

/-- The page of a coupon is sent safely. -/
theorem sendsSafely_promoCode (code : String) : SendsSafely (site.promoCode code) := by
  refine sendsOnly_awaitOrFail Terminal.isSafe_html _ _ fun coupon => ?_
  split
  · refine SendsOnly.observe fun world => ?_
    split
    · exact SendsOnly.session [] fun _ => sendsSafely_page _
    · exact sendsSafely_fail _
  · exact sendsSafely_fail _

theorem sendsSafely_teamMemberSignup (token : Uuid) :
    SendsSafely (site.teamMemberSignup token) := by
  refine sendsOnly_queryOrFail Terminal.isSafe_html _ fun manager => ?_
  cases manager with
  | none => exact sendsSafely_fail _
  | some manager => exact SendsOnly.session [] fun _ => sendsSafely_page _

theorem sendsSafely_staticFile (segments : List String) :
    SendsSafely (site.staticFile segments) := by
  unfold staticFile
  dsimp only
  split <;> exact SendsOnly.respond (Terminal.isSafe_file _ _)

theorem sendsSafely_rssFeed : SendsSafely site.rssFeed := by
  refine SendsOnly.observe fun world => SendsOnly.respond (Terminal.isSafe_text _ _ ?_)
  exact Headers.areSendable_singleton (by decide) (by decide)

/-! ### Signing in -/

/-- There is no control character in the address to which visitors are sent to sign in. -/
theorem any_isControl_loginUrl (origin : Option String) :
    (site.loginUrl origin).toList.any Text.isControl = false := by
  have page : authorizeUrl.toList.any Text.isControl = false := by decide
  have asking : "?scope=user:email&client_id=".toList.any Text.isControl = false := by decide
  have returning : "&redirect_uri=".toList.any Text.isControl = false := by decide
  unfold loginUrl
  cases origin with
  | none =>
      simp only [String.toList_append, List.any_append, Url.any_isControl_percentEncode, page,
        asking, Bool.or_false]
  | some origin =>
      simp only [String.toList_append, List.any_append, Url.any_isControl_percentEncode, page,
        asking, returning, Bool.or_false]

/-- The address to which visitors are sent to sign in is the page for it, with parameters. -/
theorem loginUrl_eq (origin : Option String) :
    ∃ params, site.loginUrl origin = authorizeUrl ++ "?" ++ params := by
  have asking : "?scope=user:email&client_id=" = "?" ++ "scope=user:email&client_id=" := by decide
  unfold loginUrl
  rw [asking]
  cases origin with
  | none => exact ⟨_, by simp only [String.append_assoc]; rfl⟩
  | some origin => exact ⟨_, by simp only [String.append_assoc]; rfl⟩

theorem sendsSafely_login (origin : Option String) : SendsSafely (site.login origin) := by
  have isSafe : (Terminal.redirect (site.loginUrl origin) []).IsSafe :=
    Terminal.isSafe_redirect (Or.inl (site.loginUrl_eq origin)) (site.any_isControl_loginUrl origin)
      (List.forall_mem_nil _)
  exact sendsOnly_send isSafe isSafe.faultless

/-- Visitors are led back safely. -/
theorem sendsSafely_welcome (origin : Option String) (sessionId : Uuid) :
    SendsSafely (welcome origin sessionId) := by
  have isLocal : Url.IsLocal (destination origin) := by
    cases origin with
    | some origin => exact Url.isLocal_safeDestination origin
    | none => exact Url.isLocal_of_isLocalPath (by decide)
  have noControl : (destination origin).toList.any Text.isControl = false := by
    rw [List.any_eq_false]
    exact fun char present => Bool.eq_false_iff.1 (isLocal.noControl char present)
  exact SendsOnly.respond (Terminal.isSafe_redirect (Or.inr isLocal) noControl
    (Session.areSendable_cookie sessionId))

theorem sendsSafely_startSession (userId : Uuid) (origin : Option String) :
    SendsSafely (site.startSession userId origin) :=
  SendsOnly.fresh fun _ =>
    sendsOnly_queryOrFail Terminal.isSafe_html _ fun id => sendsSafely_welcome origin id

/-- A visitor who comes back with a code is taken in safely. -/
theorem sendsSafely_githubCallback (code origin : Option String) :
    SendsSafely (site.githubCallback code origin) := by
  cases code with
  | none => exact sendsSafely_fail _
  | some code =>
      refine sendsOnly_awaitOrFail Terminal.isSafe_html _ _ fun accessToken => ?_
      cases accessToken with
      | none => exact sendsSafely_fail _
      | some accessToken =>
          refine sendsOnly_awaitOrFail Terminal.isSafe_html _ _ fun profile => ?_
          refine sendsOnly_queryOrFail Terminal.isSafe_html _ fun user => ?_
          cases user with
          | some user => exact site.sendsSafely_startSession user.id origin
          | none =>
              refine SendsOnly.fresh fun teamToken => SendsOnly.fresh fun id => ?_
              exact sendsOnly_queryOrFail Terminal.isSafe_html _ fun userId =>
                site.sendsSafely_startSession userId origin

/-! ### Notices -/

theorem sendsSafely_applyStatus (user : Stored User) (status : SubscriptionStatus) :
    SendsSafely (applyStatus user status) := by
  refine SendsOnly.query [] _ fun outcome => ?_
  cases outcome with
  | ok _ => exact sendsSafely_write ""
  | error _ => exact sendsSafely_logFailure _ _

/-- Finding the user of an account sends an empty text. -/
theorem sendsSafely_updateUser (accountCode : String) (status : SubscriptionStatus) :
    SendsSafely (updateUser accountCode status) := by
  unfold updateUser
  split
  · exact SendsOnly.note
      (Event.isSound_logged (show "account code is not a user id" ≠ _ by decide))
      (sendsSafely_write "")
  · refine SendsOnly.query [] _ fun outcome => ?_
    cases outcome with
    | error _ => exact sendsSafely_logFailure _ _
    | ok found =>
        cases found with
        | some user => exact sendsSafely_applyStatus user status
        | none =>
            exact SendsOnly.note
              (Event.isSound_logged (show "billing webhook for an unknown user" ≠ _ by decide))
              (sendsSafely_write "")

/-- Asking for the status of an account sends an empty text. -/
theorem sendsSafely_syncStatus (accountCode : String) : SendsSafely (syncStatus accountCode) := by
  refine SendsOnly.task [] _ fun outcome => ?_
  cases outcome with
  | error _ => exact sendsSafely_logFailure _ _
  | ok told =>
      cases told with
      | some status => exact sendsSafely_updateUser accountCode status
      | none =>
          exact SendsOnly.note
            (Event.isSound_logged
              (show "billing provider does not know this account" ≠ _ by decide))
            (sendsSafely_write "")

theorem sendsSafely_notify (mail : Email) : SendsSafely (notify mail) := by
  refine SendsOnly.task [] _ fun outcome => ?_
  cases outcome with
  | ok _ => exact sendsSafely_write ""
  | error _ => exact sendsSafely_logFailure _ _

theorem sendsSafely_saveGift (gift : Stored Gift) : SendsSafely (saveGift gift) :=
  sendsOnly_queryOrFail Terminal.isSafe_html _ fun _ => sendsSafely_write ""

/-- Finding the gift that a notice is about, and applying the notice, is safe. -/
theorem sendsSafely_updateGift (subscription : Option SubscriptionNotice) :
    SendsSafely (updateGift subscription) := by
  unfold updateGift
  split
  · exact sendsSafely_write ""
  · refine SendsOnly.observe fun world => ?_
    refine sendsOnly_queryOrFail Terminal.isSafe_html _ fun found => ?_
    cases found with
    | none =>
        exact SendsOnly.note
          (Event.isSound_logged (show "billing webhook for an unknown gift" ≠ _ by decide))
          (SendsOnly.respond (Terminal.isSafe_text _ _ (List.forall_mem_nil _)))
    | some gift =>
        unfold changeGift
        dsimp only
        split
        · exact sendsSafely_saveGift _
        · exact (sendsSafely_notify _).besides (sendsSafely_saveGift _)
        · exact sendsSafely_write ""

/-- A notice of the billing provider is taken in safely. -/
theorem sendsSafely_billingNotice : SendsSafely billingNotice := by
  refine SendsOnly.body [] fun body => ?_
  split
  · exact SendsOnly.note
      (Event.isSound_logged (show "ignoring malformed billing webhook" ≠ _ by decide))
      (sendsSafely_write "")
  · exact (sendsSafely_syncStatus _).besides (sendsSafely_updateGift _)

theorem sendsSafely_contentNotice : SendsSafely contentNotice := by
  refine SendsOnly.besides (SendsOnly.task [] _ fun outcome => ?_) (sendsSafely_write "")
  cases outcome with
  | ok _ => exact sendsSafely_write ""
  | error _ => exact sendsSafely_logFailure _ _

/-! ### Requests -/

/-- The chain of every route sends safe terminals only. -/
theorem sendsSafely_chain (route : Route) : SendsSafely (site.chain route) := by
  cases route with
  | home => exact (site.leavesTerminals_visibleEpisodes _).finish fun _ => sendsSafely_page _
  | episodes => exact (site.leavesTerminals_visibleEpisodes _).finish fun _ => sendsSafely_page _
  | episodesJson =>
      exact SendsOnly.session [] fun _ => SendsOnly.observe fun _ => sendsSafely_writeJson _
  | rssFeed => exact site.sendsSafely_rssFeed
  | collections => exact SendsOnly.session [] fun _ => SendsOnly.observe fun _ => sendsSafely_page _
  | collectionsJson =>
      exact SendsOnly.session [] fun _ => SendsOnly.observe fun _ => sendsSafely_writeJson _
  | collection slug => exact site.sendsSafely_collection slug
  | episode slug => exact site.sendsSafely_episode slug
  | subscribe => exact sendsSafely_offerPlans _
  | subscribeTeam => exact sendsSafely_offerPlans _
  | sitemap => exact SendsOnly.observe fun _ => sendsSafely_write _
  | promoCode code => exact site.sendsSafely_promoCode code
  | teamMemberSignup token => exact site.sendsSafely_teamMemberSignup token
  | staticFile segments => exact site.sendsSafely_staticFile segments
  | login origin => exact site.sendsSafely_login origin
  | githubCallback code origin => exact site.sendsSafely_githubCallback code origin
  | recurlyWebhook => exact sendsSafely_billingNotice
  | githubWebhook => exact sendsSafely_contentNotice

theorem sendsSafely_dispatch (head : RequestHead) : SendsSafely (site.dispatch head) := by
  unfold dispatch
  split
  · exact site.sendsSafely_chain _
  · exact sendsSafely_fail _

/-- Nobody is led astray, and no header is malformed. Every terminal to which a captured run of a
request comes is safe, those of detached chains included, and none is noted as malformed. When a
server answers the request, every thread comes to a safe terminal, and the response for it is put
together as it is drafted: neither the visitor nor the log is ever told of a malformed one. -/
theorem isSafe_of_dispatch (head : RequestHead) :
    (∀ {state : Type} (standIn : StandIn state World) (recording : Recording state),
      let run := (site.dispatch head).capture standIn recording
      (∀ terminal ∈ run.1.allTerminals, terminal.IsSafe) ∧
        ∀ detail, Event.malformed detail ∈ run.2.journal →
          Event.malformed detail ∈ recording.journal) ∧
    ∀ (files : StaticFiles) (taskTimeoutMillis : Option Nat) (line : Serve.RequestLine)
      (scope : Serve.Scope) (shared : Serve.Shared World) (fuel : Nat),
      let start : Serve.System World :=
        { line, shared
          current :=
            some
              { role := Serve.Role.main
                thread := { chain := (site.dispatch head).traced, scope } } }
      let last := start.run (setup files taskTimeoutMillis) fuel
      (∀ thread ∈ last.threads, ∀ terminal, thread.chain = Chain.respond terminal →
        terminal.IsSafe ∧
          (Response.ofTerminal files terminal).1 = (Response.draft files terminal).whole) ∧
      (∀ response, last.response = some response →
        ∃ terminal : Terminal, terminal.IsSafe ∧
          response = (Response.draft files terminal).whole) ∧
      ∀ detail, Event.logged (Event.invalidResponse detail) ∈ last.shared.journal →
        Event.logged (Event.invalidResponse detail) ∈ shared.journal := by
  have only := site.sendsSafely_dispatch head
  constructor
  · intro state standIn recording run
    obtain ⟨terminals, events⟩ := only.capture standIn recording
    refine ⟨terminals, fun detail present => ?_⟩
    exact (events _ present).resolve_right fun sound => sound detail rfl
  · intro files taskTimeoutMillis line scope shared fuel start last
    have atStart : start.SendsOnly (setup files taskTimeoutMillis) Terminal.IsSafe shared.journal :=
      { orderly := List.forall_mem_singleton.2 (Serve.Thread.IsOrderly.idle rfl)
        threads := List.forall_mem_singleton.2 only.traced
        events := fun event present => Or.inl present
        response := fun response same => nomatch same }
    have atLast := atStart.run Terminal.isSafe_html Session.leavesTerminals_resolve fuel
    refine ⟨fun thread present terminal atEnd => ?_, fun response isResponse => ?_,
      fun detail present => ?_⟩
    · have onlySafe := atLast.threads thread present
      rw [atEnd] at onlySafe
      cases onlySafe with
      | respond isSafe =>
          exact ⟨isSafe, Response.ofTerminal_of_areSendable (isSafe.sendable files)⟩
    · obtain ⟨terminal, isSafe, isIt⟩ := atLast.response response isResponse
      refine ⟨terminal, isSafe, isIt.trans ?_⟩
      exact Response.ofTerminal_of_areSendable (isSafe.sendable files)
    · exact (atLast.events _ present).resolve_right fun sound => sound detail rfl

end Site

end Screencast
