import Screencast.Effect.Step
import Screencast.Site.Basic
import Screencast.Site.Progress

/-!
# Watching

The episodes of a listing, each with the point at which the visitor left off.
-/

namespace Screencast

/-- An episode with the point at which the visitor left off, in seconds. -/
structure WatchedEpisode where
  episode : Episode
  progress : Option Nat
  deriving DecidableEq

namespace WatchedEpisode

/-- An episode that the visitor has not watched, as far as is known. -/
def unwatched (episode : Episode) : WatchedEpisode where
  episode := episode
  progress := none

/-- The progress in an episode, by the first entry for its number. -/
def progressIn (entries : List (Stored PlayProgress)) (episode : Episode) : Option Nat :=
  (entries.find? fun entry => entry.data.episodeNumber = episode.number).map
    fun entry => entry.data.progress

/-- An episode with the progress that the entries of a visitor tell. -/
def ofEntries (entries : List (Stored PlayProgress)) (episode : Episode) : WatchedEpisode where
  episode := episode
  progress := progressIn entries episode

/-- The entries of a user, the highest episode first. -/
def entriesOf (userId : Uuid) : Query (List (Stored PlayProgress)) :=
  Stored.select PlayProgress [("user_id", Row.ofUuid userId)]
    (some { column := "episode_number", descending := true }) none

/-- Add the progress of a visitor to episodes. Only the progress of users is known. -/
def withProgress (episodes : List Episode) (userId : Option Uuid) :
    Step World (List WatchedEpisode) :=
  match userId with
  | none => Step.pure (episodes.map unwatched)
  | some userId => (Step.queryOrFail (entriesOf userId)).map fun entries =>
      episodes.map (ofEntries entries)

end WatchedEpisode

namespace Site

/-- The visitor, and the episodes that are picked for the visitor from the catalog of the moment at
which the request arrives. -/
def visibleEpisodes (site : Site)
    (pick : Catalog → Option User → Timestamp → List Episode) :
    Step World (Option Session × List WatchedEpisode) :=
  Step.observe.andThen fun world =>
    Step.session.andThen fun session =>
      let user := session.map fun session => session.user.data
      (WatchedEpisode.withProgress (pick world.catalog user site.now)
        (session.map Session.userId)).map fun episodes => (session, episodes)

end Site

end Screencast
