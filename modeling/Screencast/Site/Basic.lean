import Screencast.Effect.Describe
import Screencast.Site.Assets
import Screencast.Site.World

/-!
# The site

What all pages of a site have in common, whoever asks for them.
-/

namespace Screencast

/-- What the pages of a site depend on besides the request and the world outside. A site has a clock
of its own, by which episodes are released. Records are dated by the clock on the wall, which the
other one follows unless it is set. -/
structure Site where
  assets : Assets := Assets.empty
  baseUrl : String := "http://localhost:8080"
  githubClientId : String := ""
  now : Timestamp
  wallClock : Timestamp := now

namespace Site

/-- A site with the catalog that it shows, in short. -/
def describe (site : Site) (catalog : Catalog) : String :=
  Chain.showFields "Site"
    [("base_url", Text.quoted site.baseUrl), ("episodes", toString catalog.episodes.length)] false

end Site

end Screencast
