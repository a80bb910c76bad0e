import Screencast.Decimal.Bounds
import Screencast.Json.Source

/-!
# Values of JSON texts

What a JSON text stands for. Integers that do not fit 64 bits, and numbers with a point or an
exponent, become doubles; a number beyond the finite doubles is refused. A string must be valid
UTF-8 with its surrogate escapes in pairs. Arrays and objects nest at most 127 deep.
-/

namespace Screencast

namespace NumberSource

/-- Collect leading digits into an integer as long as it fits, and return the digits left over. -/
def collect (start : Nat) : List Nat → Nat × List Nat
  | [] => (start, [])
  | digit :: rest =>
    if Bounds.greatestLong < start * 10 + digit then (start, digit :: rest)
    else collect (start * 10 + digit) rest

/-- The value of decimal digits. -/
def valueOfDigits (digits : List Nat) : Nat :=
  digits.foldl (fun value digit => value * 10 + digit) 0

/-- The double for a collected integer times a power of ten. -/
def toDouble? (literal : NumberSource) (collected : Nat) (power : Int) : Option Number := do
  let magnitude ←
    match literal.exponent with
    | none => Binary64.scaleByTen 4 (Binary64.roundNat collected) power
    | some (negative, digits) =>
      let size := valueOfDigits digits
      if 2147483648 ≤ size then
        if collected ≠ 0 ∧ !negative then none else some 0
      else
        let shift : Int := if negative then -(size : Int) else size
        Binary64.scaleByTen 4 (Binary64.roundNat collected) (power + shift)
  pure (Number.double ⟨literal.negative, magnitude⟩)

/-- The number that a literal stands for. Digits that do not fit 64 bits are not looked at, only
counted when they stand before the point. -/
def toNumber? (literal : NumberSource) : Option Number :=
  let (whole, dropped) := collect 0 literal.whole
  if literal.fraction.isEmpty then
    if literal.exponent.isNone ∧ dropped.isEmpty then
      if literal.negative then
        if whole = 0 ∨ Bounds.leastSigned.natAbs < whole then literal.toDouble? whole 0
        else some (Number.integer (-(whole : Int)))
      else some (Number.integer whole)
    else literal.toDouble? whole dropped.length
  else
    let (collected, unused) := collect whole literal.fraction
    literal.toDouble? collected
      ((dropped.length : Int) - ((literal.fraction.length - unused.length : Nat) : Int))

end NumberSource

namespace StringPart

/-- The bytes of a written string, or `none` if a surrogate has no partner. -/
def bytes? : List StringPart → Option Bytes
  | [] => some []
  | byte value :: rest => (bytes? rest).map (value :: ·)
  | unit value :: rest =>
    if 0xD800 ≤ value ∧ value ≤ 0xDBFF then
      match rest with
      | unit low :: rest =>
        if 0xDC00 ≤ low ∧ low ≤ 0xDFFF then
          let code := 0x10000 + (value - 0xD800) * 0x400 + (low - 0xDC00)
          (bytes? rest).map (String.utf8EncodeChar (Char.ofNat code) ++ ·)
        else none
      | _ => none
    else if 0xDC00 ≤ value ∧ value ≤ 0xDFFF then none
    else (bytes? rest).map (String.utf8EncodeChar (Char.ofNat value) ++ ·)

/-- The text of a written string. -/
def text? (parts : List StringPart) : Option String := bytes? parts >>= Text.decode?

end StringPart

namespace JsonSource

/-- The nesting allowance of a whole text. -/
def nesting : Nat := 128

/-- The allowance inside one more bracket. -/
def enter? (allowance : Nat) : Option Nat := if allowance ≤ 1 then none else some (allowance - 1)

mutual

/-- The value of a tree, within a nesting allowance. -/
def toJson? (allowance : Nat) : JsonSource → Option Json
  | null => some Json.null
  | bool value => some (Json.bool value)
  | number literal => literal.toNumber?.map Json.number
  | string parts => (StringPart.text? parts).map Json.string
  | array items => do
    let allowance ← enter? allowance
    let items ← toItems? allowance items
    pure (Json.array items)
  | object fields => do
    let allowance ← enter? allowance
    let fields ← toFields? allowance fields
    pure (Json.object (KeyMap.ofList fields))

/-- The values of items. -/
def toItems? (allowance : Nat) : List JsonSource → Option (List Json)
  | [] => some []
  | item :: rest => do
    let item ← toJson? allowance item
    let rest ← toItems? allowance rest
    pure (item :: rest)

/-- The names and values of fields, in the order in which they are written. -/
def toFields? (allowance : Nat) :
    List (List StringPart × JsonSource) → Option (List (String × Json))
  | [] => some []
  | (name, field) :: rest => do
    let name ← StringPart.text? name
    let field ← toJson? allowance field
    let rest ← toFields? allowance rest
    pure ((name, field) :: rest)

end

end JsonSource

namespace Json

/-- Read a text as one JSON value. -/
def read? (bytes : Bytes) : Option Json :=
  JsonSource.read? bytes >>= JsonSource.toJson? JsonSource.nesting

end Json

end Screencast
