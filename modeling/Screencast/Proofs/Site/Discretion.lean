import Screencast.Proofs.Effect.Discretion
import Screencast.Site.Dispatch

/-!
# What visitors learn from failures

Every chain of the site is discreet: whatever the details of failed queries and tasks are, the same
response is sent, and the same statements and tasks are issued.
-/

namespace Screencast

namespace WatchedEpisode

theorem isDiscreet_withProgress (episodes : List Episode) (userId : Option Uuid) :
    (withProgress episodes userId).IsDiscreet := by
  cases userId with
  | none => exact Step.isDiscreet_pure _
  | some userId => exact (Step.isDiscreet_queryOrFail _).map _

end WatchedEpisode

namespace Site

open Chain

variable (site : Site)

/-! ## Pages -/

theorem isDiscreet_visibleEpisodes
    (pick : Catalog → Option User → Timestamp → List Episode) :
    (site.visibleEpisodes pick).IsDiscreet := by
  refine Step.isDiscreet_observe.andThen fun world => ?_
  refine Step.isDiscreet_session.andThen fun session => ?_
  exact (WatchedEpisode.isDiscreet_withProgress _ _).map _

theorem isDiscreet_home : site.home.IsDiscreet :=
  (site.isDiscreet_visibleEpisodes _).finish fun _ => Alike.respond _

theorem isDiscreet_episodes : site.episodes.IsDiscreet :=
  (site.isDiscreet_visibleEpisodes _).finish fun _ => Alike.respond _

theorem isDiscreet_episodesJson : site.episodesJson.IsDiscreet :=
  Alike.session [] fun _ => Alike.observe fun _ => isDiscreet_writeJson _

theorem isDiscreet_collections : site.collections.IsDiscreet :=
  Alike.session [] fun _ => Alike.observe fun _ => Alike.respond _

theorem isDiscreet_collectionsJson : site.collectionsJson.IsDiscreet :=
  Alike.session [] fun _ => Alike.observe fun _ => isDiscreet_writeJson _

theorem isDiscreet_collection (slug : String) : (site.collection slug).IsDiscreet := by
  refine Alike.observe fun world => ?_
  dsimp only
  split
  · exact isDiscreet_fail _
  · exact (site.isDiscreet_visibleEpisodes _).finish fun _ => Alike.respond _

/-- The page of an episode is discreet. -/
theorem isDiscreet_episode (slug : String) : (site.episode slug).IsDiscreet := by
  refine Alike.observe fun world => ?_
  split
  · exact isDiscreet_fail _
  · refine Alike.session [] fun session => ?_
    split
    · exact (WatchedEpisode.isDiscreet_withProgress _ _).finish fun _ => Alike.respond _
    · exact isDiscreet_fail _

theorem isDiscreet_offerPlans (page : Option Session → Plan → Plan → Html.Node) :
    (offerPlans page).IsDiscreet := by
  refine Alike.observe fun world => ?_
  split
  · exact Alike.session [] fun _ => Alike.respond _
  · exact isDiscreet_fail _

/-- The page of a coupon is discreet. -/
theorem isDiscreet_promoCode (code : String) : (site.promoCode code).IsDiscreet := by
  refine isDiscreet_awaitOrFail _ _ fun coupon => ?_
  split
  · refine Alike.observe fun world => ?_
    split
    · exact Alike.session [] fun _ => Alike.respond _
    · exact isDiscreet_fail _
  · exact isDiscreet_fail _

theorem isDiscreet_teamMemberSignup (token : Uuid) : (site.teamMemberSignup token).IsDiscreet := by
  refine isDiscreet_queryOrFail _ fun manager => ?_
  cases manager with
  | none => exact isDiscreet_fail _
  | some manager => exact Alike.session [] fun _ => Alike.respond _

/-- Answering with a file is discreet. -/
theorem isDiscreet_staticFile (segments : List String) :
    (site.staticFile segments).IsDiscreet := by
  unfold staticFile
  dsimp only
  split
  · exact Alike.respond _
  · exact Alike.respond _

/-! ## Signing in -/

theorem isDiscreet_startSession (userId : Uuid) (origin : Option String) :
    (site.startSession userId origin).IsDiscreet :=
  Alike.fresh fun _ => isDiscreet_queryOrFail _ fun _ => Alike.respond _

theorem isDiscreet_register (accessToken : String) (profile : Profile) (origin : Option String) :
    (site.register accessToken profile origin).IsDiscreet :=
  Alike.fresh fun _ => Alike.fresh fun _ =>
    isDiscreet_queryOrFail _ fun userId => site.isDiscreet_startSession userId origin

/-- Taking in a visitor who comes back with a code is discreet. -/
theorem isDiscreet_githubCallback (code origin : Option String) :
    (site.githubCallback code origin).IsDiscreet := by
  cases code with
  | none => exact isDiscreet_fail _
  | some code =>
      refine isDiscreet_awaitOrFail _ _ fun accessToken => ?_
      cases accessToken with
      | none => exact isDiscreet_fail _
      | some accessToken =>
          refine isDiscreet_awaitOrFail _ _ fun profile => ?_
          refine isDiscreet_queryOrFail _ fun user => ?_
          cases user with
          | none => exact site.isDiscreet_register accessToken profile origin
          | some user => exact site.isDiscreet_startSession user.id origin

/-! ## Notices -/

theorem isDiscreet_applyStatus (user : Stored User) (status : SubscriptionStatus) :
    (applyStatus user status).IsDiscreet := by
  refine Alike.query [] _ fun outcome changed same => ?_
  cases same with
  | ok => exact Alike.respond _
  | error => exact alike_logFailure _ _ _

/-- Finding the user of an account is discreet. -/
theorem isDiscreet_updateUser (accountCode : String) (status : SubscriptionStatus) :
    (updateUser accountCode status).IsDiscreet := by
  unfold updateUser
  split
  · exact Alike.note _ (Alike.respond _)
  · refine Alike.query [] _ fun outcome changed same => ?_
    cases same with
    | ok found =>
        cases found with
        | none => exact Alike.note _ (Alike.respond _)
        | some user => exact isDiscreet_applyStatus user status
    | error => exact alike_logFailure _ _ _

/-- Asking for the status of an account is discreet. -/
theorem isDiscreet_syncStatus (accountCode : String) : (syncStatus accountCode).IsDiscreet := by
  refine Alike.task [] _ fun outcome changed same => ?_
  cases same with
  | ok told =>
      cases told with
      | none => exact Alike.note _ (Alike.respond _)
      | some status => exact isDiscreet_updateUser accountCode status
  | error => exact alike_logFailure _ _ _

theorem isDiscreet_notify (mail : Email) : (notify mail).IsDiscreet := by
  refine Alike.task [] _ fun outcome changed same => ?_
  cases same with
  | ok => exact Alike.respond _
  | error => exact alike_logFailure _ _ _

theorem isDiscreet_saveGift (gift : Stored Gift) : (saveGift gift).IsDiscreet :=
  isDiscreet_queryOrFail _ fun _ => Alike.respond _

/-- Applying a notice to a gift is discreet. -/
theorem isDiscreet_changeGift
    (catalog : Catalog)
    (notice : SubscriptionNotice)
    (gift : Stored Gift) :
    (changeGift catalog notice gift).IsDiscreet := by
  unfold changeGift
  split
  · exact isDiscreet_saveGift _
  · exact (isDiscreet_notify _).besides (isDiscreet_saveGift _)
  · exact Alike.respond _

/-- Finding the gift that a notice is about is discreet. -/
theorem isDiscreet_updateGift (subscription : Option SubscriptionNotice) :
    (updateGift subscription).IsDiscreet := by
  unfold updateGift
  split
  · exact Alike.respond _
  · refine Alike.observe fun world => isDiscreet_queryOrFail _ fun found => ?_
    cases found with
    | none => exact Alike.note _ (Alike.respond _)
    | some gift => exact isDiscreet_changeGift world.catalog _ gift

theorem isDiscreet_billingNotice : billingNotice.IsDiscreet := by
  refine Alike.body [] fun body => ?_
  split
  · exact Alike.note _ (Alike.respond _)
  · exact (isDiscreet_syncStatus _).besides (isDiscreet_updateGift _)

theorem isDiscreet_contentNotice : contentNotice.IsDiscreet := by
  unfold contentNotice
  refine Alike.besides (Alike.task [] _ fun outcome changed same => ?_) (Alike.respond _)
  cases same with
  | ok => exact Alike.respond _
  | error => exact alike_logFailure _ _ _

/-! ## Requests -/

/-- The chain of every route is discreet. -/
theorem isDiscreet_chain (route : Route) : (site.chain route).IsDiscreet := by
  cases route with
  | home => exact site.isDiscreet_home
  | episodes => exact site.isDiscreet_episodes
  | episodesJson => exact site.isDiscreet_episodesJson
  | rssFeed => exact Alike.observe fun _ => Alike.respond _
  | collections => exact site.isDiscreet_collections
  | collectionsJson => exact site.isDiscreet_collectionsJson
  | collection slug => exact site.isDiscreet_collection slug
  | episode slug => exact site.isDiscreet_episode slug
  | subscribe => exact isDiscreet_offerPlans _
  | subscribeTeam => exact isDiscreet_offerPlans _
  | sitemap => exact Alike.observe fun _ => Alike.respond _
  | promoCode code => exact site.isDiscreet_promoCode code
  | teamMemberSignup token => exact site.isDiscreet_teamMemberSignup token
  | staticFile segments => exact site.isDiscreet_staticFile segments
  | login origin => exact isDiscreet_send _
  | githubCallback code origin => exact site.isDiscreet_githubCallback code origin
  | recurlyWebhook => exact isDiscreet_billingNotice
  | githubWebhook => exact isDiscreet_contentNotice

theorem isDiscreet_dispatch (head : RequestHead) : (site.dispatch head).IsDiscreet := by
  unfold dispatch
  split
  · exact site.isDiscreet_chain _
  · exact isDiscreet_fail _

variable {state other : Type}

/-- No detail of a failure reaches a visitor or has an effect. If two stand-ins give the same
answers to all queries and tasks, and fail at the same ones with any details, a request is answered
by the same terminal with both, and the main chain and every detached chain issue the same
statements and tasks in the same order. The journals are the same but for the log, and what the
stand-ins have been left in belongs together still. -/
theorem capture_dispatch_of_agreesWith
    {first : StandIn state World}
    {second : StandIn other World}
    {belong : state → other → Prop}
    {left : state}
    {right : other}
    (head : RequestHead)
    (agree : first.AgreesWith second belong)
    (together : belong left right) :
    let one := (site.dispatch head).capture first { state := left }
    let two := (site.dispatch head).capture second { state := right }
    one.1.terminal = two.1.terminal ∧
      one.1.queries = two.1.queries ∧ one.1.tasks = two.1.tasks ∧
      one.1.detached = two.1.detached ∧
      one.1.trace = two.1.trace ∧
      Event.unlogged one.2.journal = Event.unlogged two.2.journal ∧
      belong one.2.state two.2.state := by
  have start : Recording.GoesWith belong { state := left } { state := right } :=
    ⟨together, rfl, rfl⟩
  obtain ⟨outcomes, states⟩ := Alike.capture (site.isDiscreet_dispatch head) agree start
  dsimp only
  rw [outcomes]
  exact ⟨rfl, rfl, rfl, rfl, rfl, states.journal, states.state⟩

/-- A notice that is taken in while the provider and the store fail is answered by the same page,
after the same steps, whatever the failures tell. -/
theorem capture_dispatch_of_failing_store :
    let site : Site := { now := default }
    let head := RequestHead.ofRoute Route.recurlyWebhook
    let body := Text.encode "[[\"ana\"],[\"sub-1\",[\"gift-3-months\"],\"active\",null]]"
    let standIn : StandIn (Stubs World) World := Stubs.standIn none body
    let failing (status : TaskError) (store : QueryError) : Stubs World :=
      { pool := {}
        world := { catalog := Catalog.empty, source := Except.ok Catalog.empty }
        answers := [("billing.subscription_status", [Except.error status])]
        planned := [some store] }
    let left := failing TaskError.cancelled (QueryError.acquire "no route to 10.0.0.7")
    let right := failing (TaskError.failed "token 5ec7e7") (QueryError.parse RowError.missingItems)
    standIn.AgreesWith standIn Stubs.DiffersInFailures ∧ left.DiffersInFailures right ∧
      ((site.dispatch head).capture standIn { state := left }).1.terminal =
        ((site.dispatch head).capture standIn { state := right }).1.terminal ∧
      ((site.dispatch head).capture standIn { state := left }).1.trace =
        ((site.dispatch head).capture standIn { state := right }).1.trace := by
  intro site head body standIn failing left right
  have agree : standIn.AgreesWith standIn Stubs.DiffersInFailures :=
    Stubs.agreesWith_standIn none body
  have differ : left.DiffersInFailures right := by
    constructor
    case pool => rfl
    case world => rfl
    case answers =>
      have answered : List.Forall₂ SameButFailure
          [(Except.error TaskError.cancelled : Except TaskError Answer)]
          [Except.error (TaskError.failed "token 5ec7e7")] :=
        List.Forall₂.cons (SameButFailure.error _ _) List.Forall₂.nil
      exact List.Forall₂.cons ⟨rfl, answered⟩ List.Forall₂.nil
    case planned => exact List.Forall₂.cons (Option.Rel.some trivial) List.Forall₂.nil
  obtain ⟨sameTerminal, _, _, _, sameTrace, _⟩ :=
    capture_dispatch_of_agreesWith site head agree differ
  exact ⟨agree, differ, sameTerminal, sameTrace⟩

end Site

end Screencast
