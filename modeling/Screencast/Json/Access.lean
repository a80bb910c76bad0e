import Screencast.Json.Basic

/-!
# Looking into JSON values

What is not there, or is of another kind, reads as `null` or as nothing.
-/

namespace Screencast

namespace Json

/-- The fields of an object. -/
def fields : Json → List (String × Json)
  | object fields => fields
  | _ => []

/-- Whether an object has a field. -/
def has (value : Json) (name : String) : Bool := (value.fields.lookup name).isSome

/-- The value of a field. -/
def field (value : Json) (name : String) : Json := (value.fields.lookup name).getD null

/-- The items of an array. -/
def items : Json → List Json
  | array items => items
  | _ => []

/-- The item at a position. -/
def item (value : Json) (index : Nat) : Json := value.items.getD index null

/-- Whether a value is `null`. -/
def isNull : Json → Bool
  | null => true
  | _ => false

/-- Whether a value is `true`. -/
def isTrue : Json → Bool
  | bool value => value
  | _ => false

/-- The text of a string. -/
def text? : Json → Option String
  | string text => some text
  | _ => none

/-- The text of a string, or the empty text. -/
def text (value : Json) : String := value.text?.getD ""

/-- The value of an integer. -/
def integer? : Json → Option Int
  | number (Number.integer value) => some value
  | _ => none

/-- The value of an integer, or zero. -/
def toInt (value : Json) : Int := value.integer?.getD 0

/-- The value of an integer that is not negative. -/
def natural? (value : Json) : Option Nat := value.integer?.bind Int.toNat?

/-- Read a value, unless it is `null`. -/
def given? {result : Type} (read : Json → result) (value : Json) : Option result :=
  if value.isNull then none else some (read value)

end Json

end Screencast
