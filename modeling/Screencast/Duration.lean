import Screencast.Text.Split

/-!
# Lengths of time

Lengths of time are counted in milliseconds. They are written in seconds from one second on, with as
many places as are needed.
-/

namespace Screencast

namespace Duration

/-- The decimal places for thousandths, without trailing zeros. -/
def places (thousandths : Nat) : String :=
  if thousandths = 0 then "" else "." ++ Text.trimTrailing '0' (Text.padded 3 thousandths)

/-- The text of a number of milliseconds. -/
def text (millis : Nat) : String :=
  if millis = 0 then "0ns"
  else if millis < 1000 then toString millis ++ "ms"
  else toString (millis / 1000) ++ places (millis % 1000) ++ "s"

end Duration

end Screencast
