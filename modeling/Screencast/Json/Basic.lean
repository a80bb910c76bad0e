import Screencast.Decimal.Binary64
import Screencast.KeyMap

/-!
# JSON values

Numbers keep their kind: an integer and a double are different values even when they are equal as
numbers. The fields of an object are sorted by name.
-/

namespace Screencast

/-- A JSON number: an integer of at most 64 bits, or a double. -/
inductive Number
  | integer (value : Int)
  | double (value : Binary64)
  deriving DecidableEq, Repr, Inhabited

namespace Number

/-- Whether two numbers are the same value of the same kind. Both zeros of the doubles are the
same. -/
def same : Number → Number → Bool
  | integer left, integer right => left == right
  | double left, double right => left.rank == right.rank
  | _, _ => false

/-- The double nearest to a number. -/
def toBinary64 : Number → Binary64
  | integer value => Binary64.ofInt value
  | double value => value

end Number

/-- A JSON value. -/
inductive Json
  | null
  | bool (value : Bool)
  | number (value : Number)
  | string (value : String)
  | array (items : List Json)
  | object (fields : List (String × Json))
  deriving Inhabited

namespace Json

/-- The JSON value of an integer. -/
def integer (value : Int) : Json := number (Number.integer value)

/-- The JSON value of an optional value. -/
def ofOption {value : Type} (encode : value → Json) : Option value → Json
  | none => null
  | some entry => encode entry

mutual

/-- Whether two JSON values are equal. -/
def same : Json → Json → Bool
  | null, null => true
  | bool left, bool right => left == right
  | number left, number right => left.same right
  | string left, string right => left == right
  | array left, array right => sameItems left right
  | object left, object right => sameFields left right
  | _, _ => false

/-- Whether two lists of JSON values are equal item by item. -/
def sameItems : List Json → List Json → Bool
  | [], [] => true
  | left :: lefts, right :: rights => same left right && sameItems lefts rights
  | _, _ => false

/-- Whether two lists of fields are equal field by field. -/
def sameFields : List (String × Json) → List (String × Json) → Bool
  | [], [] => true
  | (leftName, left) :: lefts, (rightName, right) :: rights =>
    leftName == rightName && same left right && sameFields lefts rights
  | _, _ => false

end

end Json

end Screencast
