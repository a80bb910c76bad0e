/-!
# Double-precision numbers

A finite double is a sign and a magnitude. The magnitude is the number of doubles between zero and
the absolute value, which is also its bit pattern without the sign, so that the order of absolute
values is the order of magnitudes. Rounding and arithmetic are exact on ratios of natural numbers
followed by one rounding to the nearest double, halves to the even neighbour.
-/

namespace Screencast

/-- A finite double-precision number. -/
structure Binary64 where
  negative : Bool
  magnitude : Nat
  deriving DecidableEq, Repr, Inhabited

namespace Binary64

/-- The number of magnitudes from one power of two to the next: two to the power of 52. -/
def octave : Nat := 4503599627370496

/-- The first magnitude that is no finite number. -/
def infinite : Nat := 2047 * octave

/-- The significand of a magnitude. -/
def significand (magnitude : Nat) : Nat :=
  if magnitude / octave = 0 then magnitude else magnitude % octave + octave

/-- The power of two that the significand is multiplied by. -/
def exponent (magnitude : Nat) : Int :=
  if magnitude / octave = 0 then -1074 else (magnitude / octave : Nat) - 1075

/-- A power of a base as a ratio, for exponents of either sign. -/
def powerRatio (base : Nat) (power : Int) : Nat × Nat :=
  if 0 ≤ power then (Nat.pow base power.toNat, 1) else (1, Nat.pow base (-power).toNat)

/-- The absolute value as a ratio. -/
def ratio (magnitude : Nat) : Nat × Nat :=
  let (above, below) := powerRatio 2 (exponent magnitude)
  (significand magnitude * above, below)

/-- The quotient of two numbers rounded to the nearest natural number, halves to the even one. -/
def divideRounding (above below : Nat) : Nat :=
  let quotient := above / below
  let twice := 2 * (above % below)
  if twice < below then quotient
  else if below < twice then quotient + 1
  else quotient + quotient % 2

/-- The power of two at or below a positive ratio. -/
def binaryLog (above below : Nat) : Int :=
  let guess : Int := (Nat.log2 above : Int) - (Nat.log2 below : Int)
  let (up, down) := powerRatio 2 guess
  if below * up ≤ above * down then guess else guess - 1

/-- The magnitude of the double nearest to a ratio. -/
def round (above below : Nat) : Nat :=
  if above = 0 then 0
  else
    let power := max (binaryLog above below - 52) (-1074)
    let (up, down) := powerRatio 2 power
    (power + 1074).toNat * octave + divideRounding (above * down) (below * up)

/-- The double nearest to a natural number. -/
def roundNat (number : Nat) : Nat := round number 1

/-- The magnitude of the product of two magnitudes. -/
def multiply (left right : Nat) : Nat :=
  let (leftAbove, leftBelow) := ratio left
  let (rightAbove, rightBelow) := ratio right
  round (leftAbove * rightAbove) (leftBelow * rightBelow)

/-- The magnitude of the quotient of two magnitudes. -/
def divide (left right : Nat) : Nat :=
  let (leftAbove, leftBelow) := ratio left
  let (rightAbove, rightBelow) := ratio right
  round (leftAbove * rightBelow) (leftBelow * rightAbove)

/-- The position of a number in the order of all doubles, with one place for both zeros. -/
def rank (number : Binary64) : Int :=
  if number.negative then -(number.magnitude : Int) else number.magnitude

/-- The double nearest to an integer. -/
def ofInt (number : Int) : Binary64 := ⟨decide (number < 0), roundNat number.natAbs⟩

/-- Scale a magnitude by a power of ten, dividing by at most the largest power that is a double at
a time. `none` stands for a result beyond the finite doubles. -/
def scaleByTen (fuel : Nat) (magnitude : Nat) (power : Int) : Option Nat :=
  match fuel with
  | 0 => some 0
  | fuel + 1 =>
    if power.natAbs ≤ 308 then
      if 0 ≤ power then
        let product := multiply magnitude (roundNat (Nat.pow 10 power.natAbs))
        if infinite ≤ product then none else some product
      else some (divide magnitude (roundNat (Nat.pow 10 power.natAbs)))
    else if magnitude = 0 then some 0
    else if 0 ≤ power then none
    else scaleByTen fuel (divide magnitude (roundNat (Nat.pow 10 308))) (power + 308)

end Binary64

end Screencast
