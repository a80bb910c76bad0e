import Screencast.Store.Query

/-!
# Play progress

How far users got in the episodes they watch.
-/

namespace Screencast

/-- How far a user got in an episode, in seconds. -/
structure PlayProgress where
  userId : Uuid
  episodeNumber : Nat
  progress : Nat
  furthestWatched : Nat
  deriving DecidableEq

namespace PlayProgress

/-- The row of a play progress. -/
def encode (entry : PlayProgress) : Except RowError Row :=
  Except.ok
    [("episode_number", Json.integer entry.episodeNumber),
      ("furthest_watched", Json.integer entry.furthestWatched),
      ("progress", Json.integer entry.progress),
      ("user_id", Row.ofUuid entry.userId)]

/-- Read a play progress from a row. -/
def read (row : Row) : Except RowError PlayProgress := do
  let userId ← row.required "user_id" ColumnType.uuid
  let episodeNumber ← row.required "episode_number" ColumnType.word
  let progress ← row.required "progress" ColumnType.word
  let furthestWatched ← row.required "furthest_watched" ColumnType.word
  pure { userId, episodeNumber, progress, furthestWatched }

instance : Record PlayProgress where
  name := "PlayProgressData"
  table := "play_progress"
  columns :=
    [("user_id", ColumnType.uuid.check), ("episode_number", ColumnType.word.check),
      ("progress", ColumnType.word.check), ("furthest_watched", ColumnType.word.check)]
  encode := encode
  read := read

end PlayProgress

end Screencast
