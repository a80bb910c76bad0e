import Screencast.Proofs.Effect.Serves
import Screencast.Proofs.Store.Keyed
import Screencast.Site.Dispatch

/-!
# What visitors are shown

Whatever the site is asked for, it shows a page that reports an error, or one of nine views to the
visitor who asks. On the way it asks for no play progress but the visitor's own.
-/

namespace Screencast

/-- What the site shows to a visitor, besides who that is. -/
inductive View
  | home (recent : List WatchedEpisode)
  | episodes (listed : List WatchedEpisode)
  | collections (listed : List (Collection × Nat))
  | collection (shown : Collection) (listed : List WatchedEpisode)
  | episode (shown : Episode) (progress : Option Nat)
  | subscribe (monthly yearly : Plan)
  | subscribeTeam (monthly yearly : Plan)
  | promoCode (coupon : Coupon) (monthly yearly : Plan)
  | teamMemberSignup (manager : Stored User)

namespace View

/-- The page of a view. -/
def page (site : Site) (session : Option Session) : View → Html.Node
  | home recent => Page.home site session recent
  | episodes listed => Page.episodes site session listed
  | collections listed => Page.collections site session listed
  | collection shown listed => Page.collection site session shown listed
  | episode shown progress => Page.episode site session shown progress
  | subscribe monthly yearly => Page.subscribe site session monthly yearly
  | subscribeTeam monthly yearly => Page.subscribeTeam site session monthly yearly
  | promoCode coupon monthly yearly => Page.promoCode site session coupon monthly yearly
  | teamMemberSignup manager =>
    Page.teamMemberSignup site session manager (Page.TeamSignup.ofSession session manager.id)

end View

namespace Site

/-! ## What is asked and shown -/

/-- A page that a visitor may be sent reports an error, or is one of the views. -/
def ShowsView (site : Site) (visitor : Option Session) (terminal : Terminal) : Prop :=
  ∀ page status, terminal = Terminal.html page status →
    (∃ message, page = Html.errorPage message) ∨ ∃ view : View, page = view.page site visitor

/-- A statement is about another table than the one of play progress, or it selects the entries of
the visitor in the order in which the site asks for them. -/
def AsksFor (visitor : Option Session) (statement : Statement) : Prop :=
  statement.table = Record.table PlayProgress →
    ∃ session, visitor = some session ∧
      statement = (WatchedEpisode.entriesOf session.userId).statement

open Chain

variable (site : Site) {visitor : Option Session}

/-- A chain that asks for no play progress but the visitor's own, and shows an error page or one of
the views. -/
abbrev ServesVisitor (visitor : Option Session) (chain : Chain World) : Prop :=
  chain.Serves visitor (AsksFor visitor) (site.ShowsView visitor)

theorem asksFor_of_table_ne
    {statement : Statement}
    (isOther : statement.table ≠ Record.table PlayProgress) :
    AsksFor visitor statement :=
  fun same => absurd same isOther

/-- Records of another table are selected without asking for play progress. -/
theorem asksFor_selectBy
    {record : Type}
    [Record record]
    (isOther : Record.table record ≠ Record.table PlayProgress)
    (column : String)
    (value : Json) :
    AsksFor visitor (Stored.selectBy record column value).statement :=
  asksFor_of_table_ne isOther

/-- A record of another table is written without asking for play progress. -/
theorem asksFor_insert
    {record : Type}
    [Record record]
    (isOther : Record.table record ≠ Record.table PlayProgress)
    (id : Uuid)
    (data : record) :
    AsksFor visitor (Stored.insert id data).statement := by
  refine asksFor_of_table_ne fun same => isOther ?_
  rw [← same, Stored.insert]
  split <;> rfl

/-- A record of another table is changed without asking for play progress. -/
theorem asksFor_update
    {record : Type}
    [Record record]
    (isOther : Record.table record ≠ Record.table PlayProgress)
    (stored : Stored record) :
    AsksFor visitor stored.update.statement :=
  asksFor_of_table_ne fun same => isOther (Pool.table_update.symm.trans same)

theorem showsView_error (error : ServerError) :
    site.ShowsView visitor (Terminal.html error.page error.status) := by
  rintro page status ⟨⟩
  exact Or.inl ⟨_, rfl⟩

theorem showsView_text (body : String) (status : Status) (headers : Headers) :
    site.ShowsView visitor (Terminal.text body status headers) := nofun

/-! ## The chains of the site -/

theorem servesVisitor_fail (error : ServerError) :
    site.ServesVisitor visitor (Chain.fail error) :=
  serves_failOwing (site.showsView_error error) []

theorem servesVisitor_page (view : View) :
    site.ServesVisitor visitor (Chain.page (view.page site visitor)) := by
  refine Serves.respond ?_
  rintro page status ⟨⟩
  exact Or.inr ⟨view, rfl⟩

theorem servesVisitor_write (body : String) : site.ServesVisitor visitor (Chain.write body) :=
  Serves.respond (site.showsView_text body _ _)

theorem servesVisitor_logFailure (context : String) (failure : Option String) :
    site.ServesVisitor visitor (Chain.logFailure context failure) :=
  serves_logFailure (site.showsView_text "" _ _) context failure

theorem servesVisitor_writeJson (value : Except String Json) :
    site.ServesVisitor visitor (Chain.writeJson value) := by
  cases value with
  | ok value => exact Serves.respond (site.showsView_text _ _ _)
  | error detail => exact site.servesVisitor_fail _

/-! ### Pages -/

/-- Adding the progress of a visitor asks for the visitor's own entries only. -/
theorem servesVisitor_withProgress
    {next : List WatchedEpisode → Chain World}
    (follow : ∀ watched, site.ServesVisitor visitor (next watched))
    (episodes : List Episode) :
    site.ServesVisitor visitor
      ((WatchedEpisode.withProgress episodes (visitor.map Session.userId)).finish next) := by
  cases visitor with
  | none => exact follow _
  | some session =>
      refine Serves.query [] (fun _ => ⟨session, rfl, rfl⟩) fun outcome => ?_
      cases outcome with
      | ok entries => exact follow _
      | error error => exact site.servesVisitor_fail (ServerError.ofQuery error)

theorem servesVisitor_visibleEpisodes
    {next : Option Session × List WatchedEpisode → Chain World}
    (follow : ∀ listed, site.ServesVisitor visitor (next (visitor, listed)))
    (pick : Catalog → Option User → Timestamp → List Episode) :
    site.ServesVisitor visitor ((site.visibleEpisodes pick).finish next) :=
  Serves.observe fun _ => Serves.session [] (site.servesVisitor_withProgress follow _)

/-- The page of a collection is a view. -/
theorem servesVisitor_collection (slug : String) :
    site.ServesVisitor visitor (site.collection slug) := by
  refine Serves.observe fun world => ?_
  dsimp only
  split
  next => exact site.servesVisitor_fail _
  next shown _ =>
    exact site.servesVisitor_visibleEpisodes
      (fun listed => site.servesVisitor_page (View.collection shown listed)) _

/-- The page of an episode is a view. -/
theorem servesVisitor_episode (slug : String) :
    site.ServesVisitor visitor (site.episode slug) := by
  refine Serves.observe fun world => ?_
  split
  next => exact site.servesVisitor_fail _
  next shown _ =>
    refine Serves.session [] ?_
    split
    next =>
      exact site.servesVisitor_withProgress
        (fun watched => site.servesVisitor_page (View.episode shown _)) _
    next => exact site.servesVisitor_fail _

/-- A page that offers plans is a view. -/
theorem servesVisitor_offerPlans
    {page : Option Session → Plan → Plan → Html.Node}
    (isView : ∀ monthly yearly, ∃ view : View, page visitor monthly yearly = view.page site visitor) :
    site.ServesVisitor visitor (offerPlans page) := by
  refine Serves.observe fun world => ?_
  split
  next monthly yearly _ _ =>
    obtain ⟨view, same⟩ := isView monthly yearly
    exact Serves.session [] (same ▸ site.servesVisitor_page view)
  next => exact site.servesVisitor_fail _

/-- The page of a coupon is a view. -/
theorem servesVisitor_promoCode (code : String) :
    site.ServesVisitor visitor (site.promoCode code) := by
  refine serves_awaitOrFail site.showsView_error _ _ fun coupon => ?_
  split
  next =>
    refine Serves.observe fun world => ?_
    split
    next monthly yearly _ _ =>
      exact Serves.session [] (site.servesVisitor_page (View.promoCode coupon monthly yearly))
    next => exact site.servesVisitor_fail _
  next => exact site.servesVisitor_fail _

/-- The page behind the link into a team is a view. -/
theorem servesVisitor_teamMemberSignup (token : Uuid) :
    site.ServesVisitor visitor (site.teamMemberSignup token) := by
  refine serves_queryOrFail site.showsView_error (asksFor_selectBy (by decide) _ _) fun manager => ?_
  cases manager with
  | none => exact site.servesVisitor_fail _
  | some manager =>
      exact Serves.session [] (site.servesVisitor_page (View.teamMemberSignup manager))

theorem servesVisitor_staticFile (segments : List String) :
    site.ServesVisitor visitor (site.staticFile segments) := by
  unfold staticFile
  dsimp only
  split <;> exact Serves.respond nofun

/-! ### Signing in -/

theorem servesVisitor_startSession (userId : Uuid) (origin : Option String) :
    site.ServesVisitor visitor (site.startSession userId origin) := by
  refine Serves.fresh fun id => ?_
  exact serves_queryOrFail site.showsView_error (asksFor_insert (by decide) _ _) fun _ =>
    Serves.respond nofun

/-- Taking in a visitor who comes back with a code shows no page but an error page. -/
theorem servesVisitor_githubCallback (code origin : Option String) :
    site.ServesVisitor visitor (site.githubCallback code origin) := by
  cases code with
  | none => exact site.servesVisitor_fail _
  | some code =>
      refine serves_awaitOrFail site.showsView_error _ _ fun accessToken => ?_
      cases accessToken with
      | none => exact site.servesVisitor_fail _
      | some accessToken =>
          refine serves_awaitOrFail site.showsView_error _ _ fun profile => ?_
          refine serves_queryOrFail site.showsView_error (asksFor_selectBy (by decide) _ _)
            fun user => ?_
          cases user with
          | some user => exact site.servesVisitor_startSession user.id origin
          | none =>
              refine Serves.fresh fun teamToken => Serves.fresh fun id => ?_
              exact serves_queryOrFail site.showsView_error (asksFor_insert (by decide) _ _)
                fun userId => site.servesVisitor_startSession userId origin

/-! ### Notices -/

theorem servesVisitor_applyStatus (user : Stored User) (status : SubscriptionStatus) :
    site.ServesVisitor visitor (applyStatus user status) := by
  refine Serves.query [] (asksFor_update (by decide) _) fun outcome => ?_
  cases outcome with
  | ok _ => exact site.servesVisitor_write ""
  | error _ => exact site.servesVisitor_logFailure _ _

/-- Finding the user of an account shows no page. -/
theorem servesVisitor_updateUser (accountCode : String) (status : SubscriptionStatus) :
    site.ServesVisitor visitor (updateUser accountCode status) := by
  unfold updateUser
  split
  next => exact Serves.note _ (site.servesVisitor_write "")
  next =>
    refine Serves.query [] (asksFor_selectBy (by decide) _ _) fun outcome => ?_
    cases outcome with
    | error _ => exact site.servesVisitor_logFailure _ _
    | ok found =>
        cases found with
        | some user => exact site.servesVisitor_applyStatus user status
        | none => exact Serves.note _ (site.servesVisitor_write "")

/-- Asking for the status of an account shows no page. -/
theorem servesVisitor_syncStatus (accountCode : String) :
    site.ServesVisitor visitor (syncStatus accountCode) := by
  refine Serves.task [] _ fun outcome => ?_
  cases outcome with
  | error _ => exact site.servesVisitor_logFailure _ _
  | ok told =>
      cases told with
      | some status => exact site.servesVisitor_updateUser accountCode status
      | none => exact Serves.note _ (site.servesVisitor_write "")

theorem servesVisitor_notify (mail : Email) : site.ServesVisitor visitor (notify mail) := by
  refine Serves.task [] _ fun outcome => ?_
  cases outcome with
  | ok _ => exact site.servesVisitor_write ""
  | error _ => exact site.servesVisitor_logFailure _ _

theorem servesVisitor_saveGift (gift : Stored Gift) :
    site.ServesVisitor visitor (saveGift gift) :=
  serves_queryOrFail site.showsView_error (asksFor_update (by decide) _) fun _ =>
    site.servesVisitor_write ""

/-- Applying a notice to the gift that it is about shows no page but an error page. -/
theorem servesVisitor_updateGift (subscription : Option SubscriptionNotice) :
    site.ServesVisitor visitor (updateGift subscription) := by
  unfold updateGift
  split
  next => exact site.servesVisitor_write ""
  next =>
    refine Serves.observe fun world => ?_
    refine serves_queryOrFail site.showsView_error (asksFor_selectBy (by decide) _ _) fun found => ?_
    cases found with
    | none => exact Serves.note _ (Serves.respond (site.showsView_text _ _ _))
    | some gift =>
        unfold changeGift
        dsimp only
        split
        next => exact site.servesVisitor_saveGift _
        next => exact (site.servesVisitor_notify _).besides (site.servesVisitor_saveGift _)
        next => exact site.servesVisitor_write ""

theorem servesVisitor_billingNotice : site.ServesVisitor visitor billingNotice := by
  refine Serves.body [] fun body => ?_
  split
  next => exact Serves.note _ (site.servesVisitor_write "")
  next => exact (site.servesVisitor_syncStatus _).besides (site.servesVisitor_updateGift _)

theorem servesVisitor_contentNotice : site.ServesVisitor visitor contentNotice := by
  refine Serves.besides (show site.ServesVisitor visitor _ from Serves.task [] _ fun outcome => ?_)
    (site.servesVisitor_write "")
  cases outcome with
  | ok _ => exact site.servesVisitor_write ""
  | error _ => exact site.servesVisitor_logFailure _ _

/-! ### Requests -/

/-- The chain of every route asks for no play progress but the visitor's own, and shows an error
page or one of the views. -/
theorem servesVisitor_chain (route : Route) : site.ServesVisitor visitor (site.chain route) := by
  cases route with
  | home =>
      exact site.servesVisitor_visibleEpisodes
        (fun recent => site.servesVisitor_page (View.home recent)) _
  | episodes =>
      exact site.servesVisitor_visibleEpisodes
        (fun listed => site.servesVisitor_page (View.episodes listed)) _
  | episodesJson =>
      exact Serves.session [] (Serves.observe fun _ => site.servesVisitor_writeJson _)
  | rssFeed => exact Serves.observe fun _ => Serves.respond (site.showsView_text _ _ _)
  | collections =>
      exact Serves.session []
        (Serves.observe fun _ => site.servesVisitor_page (View.collections _))
  | collectionsJson =>
      exact Serves.session [] (Serves.observe fun _ => site.servesVisitor_writeJson _)
  | collection slug => exact site.servesVisitor_collection slug
  | episode slug => exact site.servesVisitor_episode slug
  | subscribe =>
      exact site.servesVisitor_offerPlans fun monthly yearly => ⟨View.subscribe monthly yearly, rfl⟩
  | subscribeTeam =>
      exact site.servesVisitor_offerPlans fun monthly yearly =>
        ⟨View.subscribeTeam monthly yearly, rfl⟩
  | sitemap => exact Serves.observe fun _ => site.servesVisitor_write _
  | promoCode code => exact site.servesVisitor_promoCode code
  | teamMemberSignup token => exact site.servesVisitor_teamMemberSignup token
  | staticFile segments => exact site.servesVisitor_staticFile segments
  | login origin => exact serves_send nofun
  | githubCallback code origin => exact site.servesVisitor_githubCallback code origin
  | recurlyWebhook => exact site.servesVisitor_billingNotice
  | githubWebhook => exact site.servesVisitor_contentNotice

/-- The chain of every request asks for no play progress but the visitor's own, and shows an error
page or one of the views. -/
theorem servesVisitor_dispatch (head : RequestHead) :
    site.ServesVisitor visitor (site.dispatch head) := by
  unfold dispatch
  split
  next => exact site.servesVisitor_chain _
  next => exact site.servesVisitor_fail _

end Site

end Screencast
