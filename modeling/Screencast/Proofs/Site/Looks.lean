import Screencast.Proofs.Effect.Looks
import Screencast.Site.Dispatch

/-!
# Requests that look at the catalog once

Whatever a visitor asks for, the chain of the request looks at the catalog between two things that
it waits for, if it looks at it at all. There is one lemma for each kind of page.
-/

namespace Screencast

open Chain

namespace WatchedEpisode

/-- Adding the progress of a visitor does not look at the world if what follows does not. -/
theorem unlooking_withProgress
    {episodes : List Episode}
    {userId : Option Uuid}
    {rest : Rest World (List WatchedEpisode)}
    (unlooking : ∀ watched, (rest.next watched).Unlooking) :
    ((withProgress episodes userId).run rest).Unlooking := by
  cases userId with
  | none => exact unlooking _
  | some userId =>
      intro outcome
      cases outcome with
      | ok entries => exact unlooking _
      | error error => exact unlooking_failOwing rest.owed (ServerError.ofQuery error)

end WatchedEpisode

namespace Site

variable (site : Site)

/-! ## Pages -/

theorem looksNow_visibleEpisodes
    {pick : Catalog → Option User → Timestamp → List Episode}
    {page : Option Session × List WatchedEpisode → Chain World}
    (unlooking : ∀ shown, (page shown).Unlooking) :
    ((site.visibleEpisodes pick).finish page).LooksNow :=
  fun _ _ => WatchedEpisode.unlooking_withProgress fun _ => unlooking _

theorem looksNow_home : site.home.LooksNow := site.looksNow_visibleEpisodes fun _ => trivial

theorem looksNow_episodes : site.episodes.LooksNow := site.looksNow_visibleEpisodes fun _ => trivial

theorem looksNow_collection (slug : String) : (site.collection slug).LooksNow := by
  intro world
  dsimp only
  split
  · exact (unlooking_fail _).looksNow
  · exact site.looksNow_visibleEpisodes fun _ => trivial

/-- The page of an episode looks at the catalog at once. -/
theorem looksNow_episode (slug : String) : (site.episode slug).LooksNow := by
  intro world
  dsimp only
  split
  · exact (unlooking_fail _).looksNow
  · intro session
    dsimp only
    split
    · exact WatchedEpisode.unlooking_withProgress fun _ => trivial
    · exact unlooking_fail _

/-- Offering plans looks at the catalog at once. -/
theorem looksNow_offerPlans (page : Option Session → Plan → Plan → Html.Node) :
    (offerPlans page).LooksNow := by
  intro world
  dsimp only
  split
  · exact fun _ => trivial
  · exact (unlooking_fail _).looksNow

/-- The page of a coupon looks at the catalog when the coupon is there. -/
theorem looksOnce_promoCode (code : String) : (site.promoCode code).LooksOnce := by
  refine LooksOnce.awaitOrFail fun coupon => ?_
  split
  · intro world
    dsimp only
    split
    · exact fun _ => trivial
    · exact (unlooking_fail _).looksNow
  · exact (unlooking_fail _).looksOnce

theorem unlooking_teamMemberSignup (token : Uuid) :
    (site.teamMemberSignup token).Unlooking := by
  refine Unlooking.queryOrFail fun manager => ?_
  cases manager with
  | none => exact unlooking_fail _
  | some manager => exact fun _ => trivial

theorem unlooking_staticFile (segments : List String) : (site.staticFile segments).Unlooking := by
  unfold staticFile
  dsimp only
  split
  · trivial
  · trivial

/-! ## Signing in -/

theorem unlooking_login (origin : Option String) : (site.login origin).Unlooking :=
  unlooking_send _

theorem unlooking_startSession (userId : Uuid) (origin : Option String) :
    (site.startSession userId origin).Unlooking :=
  fun _ => Unlooking.queryOrFail fun _ => trivial

/-- Taking in a visitor who comes back with a code does not depend on the catalog. -/
theorem unlooking_githubCallback (code origin : Option String) :
    (site.githubCallback code origin).Unlooking := by
  cases code with
  | none => exact unlooking_fail _
  | some code =>
      refine Unlooking.awaitOrFail fun accessToken => ?_
      cases accessToken with
      | none => exact unlooking_fail _
      | some accessToken =>
          refine Unlooking.awaitOrFail fun profile => ?_
          refine Unlooking.queryOrFail fun user => ?_
          cases user with
          | none =>
              intro teamToken id
              exact Unlooking.queryOrFail fun userId => site.unlooking_startSession userId origin
          | some user => exact site.unlooking_startSession user.id origin

/-! ## Notices -/

theorem unlooking_applyStatus (user : Stored User) (status : SubscriptionStatus) :
    (applyStatus user status).Unlooking := by
  intro outcome
  cases outcome with
  | ok => trivial
  | error error => exact unlooking_logFailure _ (some error.message)

/-- Finding the user of an account does not depend on the catalog. -/
theorem unlooking_updateUser (accountCode : String) (status : SubscriptionStatus) :
    (updateUser accountCode status).Unlooking := by
  unfold updateUser
  split
  · trivial
  · intro outcome
    cases outcome with
    | ok found =>
        cases found with
        | none => trivial
        | some user => exact unlooking_applyStatus user status
    | error error => exact unlooking_logFailure _ (some error.message)

/-- Asking for the status of an account does not depend on the catalog. -/
theorem unlooking_syncStatus (accountCode : String) : (syncStatus accountCode).Unlooking := by
  intro outcome
  cases outcome with
  | ok told =>
      cases told with
      | none => trivial
      | some status => exact unlooking_updateUser accountCode status
  | error error => exact unlooking_logFailure _ (some error.message)

theorem unlooking_notify (mail : Email) : (notify mail).Unlooking := by
  intro outcome
  cases outcome with
  | ok => trivial
  | error error => exact unlooking_logFailure _ (some error.message)

/-- What a notice changes about a gift depends on the catalog that was looked at before. -/
theorem unlooking_changeGift
    (catalog : Catalog)
    (notice : SubscriptionNotice)
    (gift : Stored Gift) :
    (changeGift catalog notice gift).Unlooking := by
  have saved : ∀ gift : Stored Gift, (saveGift gift).Unlooking :=
    fun gift => Unlooking.queryOrFail fun _ => trivial
  unfold changeGift
  split
  · exact saved _
  · exact (unlooking_notify _).besides (saved _)
  · trivial

/-- Finding the gift that a notice is about looks at the catalog at once. -/
theorem looksNow_updateGift (subscription : Option SubscriptionNotice) :
    (updateGift subscription).LooksNow := by
  unfold updateGift
  split
  · trivial
  · intro world
    refine Unlooking.queryOrFail fun found => ?_
    cases found with
    | none => trivial
    | some gift => exact unlooking_changeGift world.catalog _ gift

theorem looksOnce_billingNotice : billingNotice.LooksOnce := by
  intro body
  dsimp only
  split
  · trivial
  · exact LooksOnce.besides (unlooking_syncStatus _) (looksNow_updateGift _).looksOnce

/-- Taking in that the content has changed does not look at the catalog, also not once it is loaded
again. -/
theorem unlooking_contentNotice : contentNotice.Unlooking := by
  refine Unlooking.besides (fun outcome => ?_) trivial
  cases outcome with
  | ok => trivial
  | error error => exact unlooking_logFailure _ (some error.message)

/-! ## Requests -/

/-- The chain of every route looks at the world once at most. -/
theorem looksOnce_chain (route : Route) : (site.chain route).LooksOnce := by
  cases route with
  | home => exact site.looksNow_home.looksOnce
  | episodes => exact site.looksNow_episodes.looksOnce
  | episodesJson => exact fun _ _ => (unlooking_writeJson _).looksNow
  | rssFeed => exact fun _ => trivial
  | collections => exact fun _ _ => trivial
  | collectionsJson => exact fun _ _ => (unlooking_writeJson _).looksNow
  | collection slug => exact (site.looksNow_collection slug).looksOnce
  | episode slug => exact (site.looksNow_episode slug).looksOnce
  | subscribe => exact (looksNow_offerPlans _).looksOnce
  | subscribeTeam => exact (looksNow_offerPlans _).looksOnce
  | sitemap => exact fun _ => trivial
  | promoCode code => exact site.looksOnce_promoCode code
  | teamMemberSignup token => exact (site.unlooking_teamMemberSignup token).looksOnce
  | staticFile segments => exact (site.unlooking_staticFile segments).looksOnce
  | login origin => exact (site.unlooking_login origin).looksOnce
  | githubCallback code origin => exact (site.unlooking_githubCallback code origin).looksOnce
  | recurlyWebhook => exact looksOnce_billingNotice
  | githubWebhook => exact unlooking_contentNotice.looksOnce

theorem looksOnce_dispatch (head : RequestHead) : (site.dispatch head).LooksOnce := by
  unfold dispatch
  split
  · exact site.looksOnce_chain _
  · exact (unlooking_fail _).looksOnce

end Site

end Screencast
