import Screencast.Decimal.Binary64
import Screencast.Text.Split

/-!
# Shortest decimal texts

The text of a double has the fewest digits that read back as the same double, and of the candidates
with that many digits the one nearest to it. Numbers from one hundred-thousandth up to ten to the
sixteenth are written in positional notation with at least one digit after the point, all others
with an exponent that carries its sign.
-/

namespace Screencast

namespace Binary64

/-- Whether `left · 10 ^ ten ≤ right · 2 ^ two`. -/
def decimalAtMost (left : Nat) (ten : Int) (right : Nat) (two : Int) : Bool :=
  let (tenUp, tenDown) := powerRatio 10 ten
  let (twoUp, twoDown) := powerRatio 2 two
  left * tenUp * twoDown ≤ right * twoUp * tenDown

/-- Whether `left · 2 ^ two ≤ right · 10 ^ ten`. -/
def binaryAtMost (left : Nat) (two : Int) (right : Nat) (ten : Int) : Bool :=
  let (tenUp, tenDown) := powerRatio 10 ten
  let (twoUp, twoDown) := powerRatio 2 two
  left * twoUp * tenDown ≤ right * tenUp * twoDown

/-- The reals that round to a positive magnitude, in quarters of its last place: the lower end, the
number itself, the upper end, and whether the ends belong. -/
def roundingInterval (magnitude : Nat) : Nat × Nat × Nat × Bool :=
  let quarters := 4 * significand magnitude
  let below := if magnitude % octave = 0 ∧ octave < magnitude then 1 else 2
  (quarters - below, quarters, quarters + 2, significand magnitude % 2 == 0)

/-- Whether `digits · 10 ^ ten` rounds to a positive magnitude. -/
def readsBack (magnitude digits : Nat) (ten : Int) : Bool :=
  let (low, _, high, endsBelong) := roundingInterval magnitude
  let two := exponent magnitude - 2
  if endsBelong then binaryAtMost low two digits ten && decimalAtMost digits ten high two
  else !decimalAtMost digits ten low two && !binaryAtMost high two digits ten

/-- The power of ten at or below a positive magnitude, searched downwards. -/
def decimalLog (magnitude : Nat) : Nat → Int → Int
  | 0, power => power
  | fuel + 1, power =>
    if decimalAtMost 1 power (significand magnitude) (exponent magnitude) then power
    else decimalLog magnitude fuel (power - 1)

/-- The multiple of a power of ten that reads back and is nearest to the number, if any does. -/
def nearestOnGrid (magnitude : Nat) (ten : Int) : Option Nat :=
  let (above, below) := ratio magnitude
  let (tenUp, tenDown) := powerRatio 10 ten
  let scaledAbove := above * tenDown
  let scaledBelow := below * tenUp
  let lower := scaledAbove / scaledBelow
  let twice := 2 * (scaledAbove % scaledBelow)
  let lowerReads := readsBack magnitude lower ten
  let upperReads := readsBack magnitude (lower + 1) ten
  if lowerReads && upperReads then
    if twice < scaledBelow then some lower
    else if scaledBelow < twice then some (lower + 1)
    else some (lower + lower % 2)
  else if lowerReads then some lower
  else if upperReads then some (lower + 1)
  else none

/-- The shortest digits with their power of ten, trying ever finer grids. -/
def shortestFrom (magnitude : Nat) : Nat → Int → Nat × Int
  | 0, ten => ((nearestOnGrid magnitude ten).getD 0, ten)
  | fuel + 1, ten =>
    match nearestOnGrid magnitude ten with
    | some digits => (digits, ten)
    | none => shortestFrom magnitude fuel (ten - 1)

/-- The shortest digits of a positive magnitude with their power of ten. -/
def shortest (magnitude : Nat) : Nat × Int :=
  shortestFrom magnitude 17 (decimalLog magnitude 640 309)

/-- Drop trailing zeros from digits, raising the power of ten. -/
def dropZeros : Nat → Nat → Int → Nat × Int
  | 0, digits, ten => (digits, ten)
  | fuel + 1, digits, ten =>
    if digits ≠ 0 ∧ digits % 10 = 0 then dropZeros fuel (digits / 10) (ten + 1) else (digits, ten)

/-- The text of digits times a power of ten. -/
def decimalText (digits : Nat) (ten : Int) : String :=
  let chars := Nat.toDigits 10 digits
  let point : Int := chars.length + ten
  if 0 ≤ ten ∧ point ≤ 16 then
    String.ofList (chars ++ List.replicate ten.toNat '0') ++ ".0"
  else if 0 < point ∧ point ≤ 16 then
    String.ofList (chars.take point.toNat) ++ "." ++ String.ofList (chars.drop point.toNat)
  else if -5 < point ∧ point ≤ 0 then
    "0." ++ String.ofList (List.replicate (-point).toNat '0' ++ chars)
  else
    let sign := if point - 1 < 0 then "-" else "+"
    let tail := match chars.drop 1 with
      | [] => ""
      | rest => "." ++ String.ofList rest
    String.ofList (chars.take 1) ++ tail ++ "e" ++ sign ++ toString (point - 1).natAbs

/-- The shortest text that reads back as the number. -/
def text (number : Binary64) : String :=
  let sign := if number.negative then "-" else ""
  if number.magnitude = 0 then sign ++ "0.0"
  else
    let (digits, ten) := shortest number.magnitude
    let (digits, ten) := dropZeros 20 digits ten
    sign ++ decimalText digits ten

end Binary64

end Screencast
