import Screencast.Proofs.Account.Visitors
import Screencast.Proofs.Http.Sendable
import Screencast.Proofs.Serve.Reading
import Screencast.Proofs.Site.Faithful
import Screencast.Proofs.Site.Player
import Screencast.Proofs.Site.Route

/-!
# Who sees an episode

A request for the page of an episode, from the records in the tables to the bytes of the response:
the page is there if the episode is released or the visitor is an administrator, and it has a player
if the episode is free or the visitor may see everything.
-/

namespace Screencast

namespace Http

namespace Request

/-- The identifier of the session is the one in the first pair of the cookies that can be read, one
header after the other. -/
theorem sessionToken?_eq (request : Request) :
    request.sessionToken? =
      (request.cookies.flatMap (Text.split ';')).findSome? Session.tokenOfPair? := by
  rw [sessionToken?]
  induction request.cookies with
  | nil => rfl
  | cons header rest inductionHypothesis =>
      rw [List.findSome?_cons, List.flatMap_cons, List.findSome?_append, ← inductionHypothesis,
        ← Session.token?]
      cases Session.token? header <;> rfl

end Request

namespace Response

/-- The response for a page has its status and its markup. -/
theorem status_and_body_of_page
    (files : StaticFiles)
    (node : Html.Node)
    (status : Status) :
    (ofTerminal files (Terminal.html node status)).1.status = status ∧
      (ofTerminal files (Terminal.html node status)).1.body = Text.encode node.renderDocument := by
  obtain ⟨sameStatus, sameBody, _⟩ :=
    (carries_ofPage node status).whole areSendable_pageHeaders
  exact ⟨sameStatus, sameBody⟩

end Response

end Http

namespace Site

variable {site : Site} {slug : String} {world : World} {pool : Pool} {session : Option Session}

/-- What a visitor is told about an episode that is not there. -/
def episodeMissing : Terminal :=
  Terminal.html (ServerError.notFound noSuchEpisode).page Status.notFound

/-- An episode that is not there for the visitor is not found. -/
theorem reads_episode_of_hidden
    (hidden : ∀ shown, world.catalog.episode? slug = some shown →
      site.isOpen session shown = false) :
    (site.episode slug).Reads pool session world 18 episodeMissing := by
  refine Chain.Reads.observe ?_
  split
  · exact Chain.Reads.respond 16 episodeMissing
  · next shown found =>
      refine Chain.Reads.session ?_
      rw [if_neg (by simp [hidden shown found])]
      exact Chain.Reads.respond 3 episodeMissing

/-- An episode that is there for the visitor is shown, with some progress. -/
theorem reads_episode_of_open
    {shown : Episode}
    {entries : List (Stored PlayProgress)}
    (holds : Pool.Holds (pool.rows (Record.table PlayProgress)) entries)
    (found : world.catalog.episode? slug = some shown)
    (isOpen : site.isOpen session shown = true) :
    ∃ progress, (site.episode slug).Reads pool session world 18
      (Terminal.html (Page.episode site session shown progress) Status.ok) := by
  cases session with
  | none =>
      refine ⟨none, Chain.Reads.observe ?_⟩
      rw [found]
      refine Chain.Reads.session ?_
      rw [if_pos isOpen]
      exact Chain.Reads.respond 3 _
  | some session =>
      obtain ⟨watched, areFound⟩ :=
        holds.exists_ask_select [("user_id", Row.ofUuid session.userId)]
          (some { column := "episode_number", descending := true }) none
      refine ⟨WatchedEpisode.progressIn watched shown, Chain.Reads.observe ?_⟩
      rw [found]
      refine Chain.Reads.session ?_
      rw [if_pos isOpen]
      exact Chain.Reads.query rfl rfl areFound (Chain.Reads.respond 0 _)

/-- A request that is read in as many steps as a server has patience for is answered with the
response for its terminal. -/
theorem handle_of_reads
    {files : Http.StaticFiles}
    {limit : Option Nat}
    {request : Http.Request}
    {shared : Serve.Shared World}
    {most : Nat}
    {terminal : Terminal}
    (reads : (site.dispatch (head request)).Reads shared.pool session shared.world most terminal)
    (inTime : most ≤ Serve.System.patience)
    (named : Session.IsNamedBy request.sessionToken? shared.pool session)
    (ready : shared.IsReady) :
    let last := site.handle (setup files limit) request shared
    last.step? (setup files limit) = none ∧
      last.response = some (Http.Response.ofTerminal files terminal).1 := by
  intro last
  have isNamed : Session.IsNamedBy (scope request).token shared.pool session := named
  have resolver : (setup files limit).resolver = Session.resolve := rfl
  obtain ⟨ending, within, halted, response⟩ :=
    Serve.System.leadsWithin_of_reads reads.traced resolver isNamed ready fun _ => rfl
  have isLast : last = ending := within.run_eq halted inTime
  rw [isLast]
  exact ⟨halted, response⟩

section Visitor

variable (site : Site) (membership : Membership) (token : Option Uuid) (shown : Episode)

/-- An episode is there for a visitor if it is released, or if the visitor is an administrator. -/
theorem isOpen_iff :
    site.isOpen (token.bind membership.session?) shown = true ↔
      shown.isReleased site.now = true ∨
        ∃ user, token.bind membership.visitor? = some user ∧ user.data.admin = true := by
  rw [membership.bind_visitor? token, isOpen, Bool.or_eq_true, or_comm]
  refine or_congr_right ?_
  cases token.bind membership.session? with
  | none => simp [visitor, Catalog.isAdmin]
  | some session => simp [visitor, Catalog.isAdmin]

/-- An episode is not closed to a visitor if it is not for subscribers, or if the visitor may see
everything. -/
theorem isLocked_eq_false_iff :
    Page.isLocked (token.bind membership.session?) shown = false ↔
      shown.subscriptionOnly = false ∨
        ∃ user, token.bind membership.visitor? = some user ∧ membership.HasPremium user := by
  rw [membership.bind_visitor? token, Page.isLocked, Bool.and_eq_false_iff]
  refine or_congr_right ?_
  cases found : token.bind membership.session? with
  | none => simp
  | some session => simp [Membership.hasAccess_session? found]

end Visitor

/-- A request for the page of an episode, where the tables hold records and nothing stands in the
way, is answered. The page is not found if there is no such episode, or if it is not released and
the visitor is not an administrator. Otherwise it is shown, and it is marked with the player exactly
if the episode is not for subscribers or the visitor may see everything. -/
theorem handle_episode
    (files : Http.StaticFiles)
    (limit : Option Nat)
    {request : Http.Request}
    {shared : Serve.Shared World}
    {membership : Membership}
    {entries : List (Stored PlayProgress)}
    (isGet : head request = RequestHead.ofRoute (Route.episode slug))
    (nonempty : slug ≠ "")
    (isIn : membership.IsIn shared.pool)
    (holds : Pool.Holds (shared.pool.rows (Record.table PlayProgress)) entries)
    (faults : shared.pool.faults = [])
    (planned : shared.planned = [])
    (available : shared.pool.held < shared.pool.capacity) :
    let last := site.handle (setup files limit) request shared
    let token := (request.cookies.flatMap (Text.split ';')).findSome? Session.tokenOfPair?
    let visitor := token.bind membership.visitor?
    let isThere (shown : Episode) : Prop :=
      shown.isReleased site.now = true ∨ ∃ user, visitor = some user ∧ user.data.admin = true
    last.step? (setup files limit) = none ∧ ∃ response, last.response = some response ∧
      ((∀ shown, shared.world.catalog.episode? slug = some shown → ¬ isThere shown) →
        response.status = Status.notFound) ∧
      ∀ shown, shared.world.catalog.episode? slug = some shown → isThere shown →
        response.status = Status.ok ∧
          (Page.playerMark <:+: (Text.decodeLossy response.body).toList ↔
            shown.subscriptionOnly = false ∨
              ∃ user, visitor = some user ∧ membership.HasPremium user) := by
  intro last token visitor isThere
  have named : Session.IsNamedBy request.sessionToken? shared.pool
      (token.bind membership.session?) := by
    rw [request.sessionToken?_eq]
    exact isIn.isNamedBy token
  have ready : shared.IsReady := ⟨faults, planned, available⟩
  have dispatched : site.dispatch (head request) = site.episode slug := by
    rw [isGet]
    exact dispatch_ofRoute site nonempty
  by_cases there : ∃ shown, shared.world.catalog.episode? slug = some shown ∧ isThere shown
  case pos =>
    obtain ⟨shown, found, isShown⟩ := there
    have isOpen := (isOpen_iff site membership token shown).2 isShown
    obtain ⟨progress, reads⟩ := reads_episode_of_open holds found isOpen
    obtain ⟨halted, response⟩ := handle_of_reads (dispatched ▸ reads) (by decide) named ready
    refine ⟨halted, _, response, fun hidden => absurd isShown (hidden shown found), ?_⟩
    intro other isFound _
    obtain rfl := Option.some.inj (found.symm.trans isFound)
    obtain ⟨status, body⟩ := Http.Response.status_and_body_of_page files
      (Page.episode site (token.bind membership.session?) shown progress) Status.ok
    refine ⟨status, ?_⟩
    rw [body, Text.decodeLossy_encode, Page.playerMark_infix_episode_iff]
    exact isLocked_eq_false_iff membership token shown
  case neg =>
    have hidden : ∀ shown, shared.world.catalog.episode? slug = some shown →
        site.isOpen (token.bind membership.session?) shown = false := by
      intro shown found
      refine Bool.eq_false_iff.2 fun isOpen => there ⟨shown, found, ?_⟩
      exact (isOpen_iff site membership token shown).1 isOpen
    have reads : (site.episode slug).Reads shared.pool (token.bind membership.session?) shared.world
        18 episodeMissing :=
      reads_episode_of_hidden hidden
    obtain ⟨halted, response⟩ := handle_of_reads (dispatched ▸ reads) (by decide) named ready
    refine ⟨halted, _, response, fun _ => (Http.Response.status_and_body_of_page files _ _).1, ?_⟩
    exact fun shown found isShown => absurd ⟨shown, found, isShown⟩ there

/-- An episode for subscribers, whose title looks like a player, has one for a member of a team that
a subscriber pays for, and none for a visitor who is not signed in. -/
theorem handle_episode_of_team_member :
    let date := Timestamp.ofUnix 1717232400 0
    let manager : Stored User :=
      { id := Uuid.drawn 1
        data := { User.fresh "bo@example.com" (Uuid.drawn 8) date with subscriber := true } }
    let user : Stored User :=
      { id := Uuid.drawn 2, data := User.fresh "ana@example.com" (Uuid.drawn 9) date }
    let membership : Membership :=
      { users := [manager, user]
        signIns := [{ id := Uuid.drawn 3, data := { userId := user.id, createdAt := date } }]
        members :=
          [{ id := Uuid.drawn 4
             data := { userId := user.id, teamManagerId := manager.id, createdAt := date } }] }
    let shown : Episode :=
      { number := 1, slug := "first", title := "<p class=\"player\">", synopsis := ""
        subscriptionOnly := true, releasedAt := some date, collections := []
        durationSeconds := 90 }
    let catalog : Catalog := { episodes := [shown], collections := [], plans := [] }
    let pool : Pool :=
      { tables :=
          [("sessions", Pool.rowsOf membership.signIns),
            ("team_members", Pool.rowsOf membership.members),
            ("users", Pool.rowsOf membership.users)] }
    let shared : Serve.Shared World := { pool, world := { catalog, source := Except.ok catalog } }
    let request (headers : List (String × Bytes)) : Http.Request :=
      { method := "GET", target := { path := "/episodes/first", query := none }, headers
        body := some [] }
    let cookie := ("cookie", Text.encode ("sessionid=" ++ (Uuid.drawn 3).text))
    let site : Site := { now := date }
    let markup (headers : List (String × Bytes)) : Option (List Char) :=
      (site.handle (setup [] none) (request headers) shared).response.map fun response =>
        (Text.decodeLossy response.body).toList
    (∃ chars, markup [cookie] = some chars ∧ Page.playerMark <:+: chars) ∧
      ∃ chars, markup [] = some chars ∧ ¬ Page.playerMark <:+: chars := by
  intro date manager user membership shown catalog pool shared request cookie site markup
  have clock : date.IsReadable := by constructor <;> decide +kernel
  have fits (someone : User) (createdAt : someone.createdAt = date)
      (githubUid : someone.githubUid = none) (credits : someone.downloadCredits = 0) :
      someone.IsStorable :=
    { createdAt := createdAt ▸ clock
      githubUid := fun _ isSome => by simp [githubUid] at isSome
      downloadCredits := credits ▸ ⟨by decide, by decide⟩ }
  have isIn : membership.IsIn pool := by
    constructor
    case users =>
      refine Pool.holds_rowsOf ?_ (by decide)
      exact List.forall_mem_cons.2 ⟨fits manager.data rfl rfl rfl,
        List.forall_mem_singleton.2 (fits user.data rfl rfl rfl)⟩
    case signIns =>
      exact Pool.holds_rowsOf (List.forall_mem_singleton.2 clock) (List.nodup_singleton _)
    case members =>
      exact Pool.holds_rowsOf (List.forall_mem_singleton.2 clock) (List.nodup_singleton _)
  have isGet (headers : List (String × Bytes)) :
      head (request headers) = RequestHead.ofRoute (Route.episode "first") := by
    change ({ method := "GET", path := "/episodes/first", query := none } : RequestHead) = _
    decide +kernel
  have isFound : catalog.episode? "first" = some shown := by decide +kernel
  have isReleased : shown.isReleased site.now = true := by decide +kernel
  have isShown (headers : List (String × Bytes)) : ∃ chars, markup headers = some chars ∧
      (Page.playerMark <:+: chars ↔ shown.subscriptionOnly = false ∨
        ∃ visitor, (((request headers).cookies.flatMap (Text.split ';')).findSome?
            Session.tokenOfPair?).bind membership.visitor? = some visitor ∧
          membership.HasPremium visitor) := by
    obtain ⟨_, response, sent, _, shows⟩ := @handle_episode site "first" [] none (request headers)
      shared membership [] (isGet headers) (by decide) isIn Pool.holds_nil rfl rfl (by decide)
    refine ⟨_, congrArg (Option.map _) sent, ?_⟩
    exact (shows shown isFound (Or.inl isReleased)).2
  obtain ⟨member, isMember, memberShown⟩ := isShown [cookie]
  obtain ⟨guest, isGuest, guestShown⟩ := isShown []
  have isUser : (((request [cookie]).cookies.flatMap (Text.split ';')).findSome?
      Session.tokenOfPair?).bind membership.visitor? = some user := by
    decide +kernel
  refine ⟨⟨member, isMember, memberShown.2 (Or.inr ⟨user, isUser, Or.inr (Or.inr ?_)⟩)⟩,
    guest, isGuest, fun isThere => ?_⟩
  · exact ⟨manager, by decide +kernel, rfl⟩
  · rcases guestShown.1 isThere with isFree | ⟨_, isSomebody, _⟩
    · cases isFree
    · cases isSomebody

end Site

end Screencast
