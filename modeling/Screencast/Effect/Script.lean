import Screencast.KeyMap

/-!
# Scripts

A script holds the answers of somebody outside by the names of the calls. The answers to calls of
one name are given one after another, and the last one is given again and again.
-/

namespace Screencast

/-- The answers to calls, by the names of the calls. -/
abbrev Script (answer : Type) := KeyMap (List answer)

namespace Script

variable {answer : Type}

/-- Take the next answer to a call, if there is one. -/
def next (script : Script answer) (name : String) : Option answer × Script answer :=
  match script.find? name with
  | none => (none, script)
  | some [] => (none, script)
  | some [last] => (some last, script)
  | some (first :: rest) => (some first, script.put name rest)

end Script

end Screencast
