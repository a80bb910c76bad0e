import Mathlib.Algebra.Group.Nat.Defs
import Mathlib.Order.Monotone.Basic
import Screencast.Json.Basic

/-!
# The nearest double

Every double is a multiple of the least positive one, and so is every integer. Values are counted in
these units here, so that they are integers and no fractions are needed. A number is rounded to a
double that no other is nearer to than it: rounding never turns the order of two numbers round, and
integers with at most 53 bits are doubles themselves.
-/

namespace Screencast

namespace Binary64

/-- The number of least positive doubles that one is made of. -/
def one : Nat := 2 ^ 1074

/-- The absolute value of the doubles with a magnitude. -/
def absolute (magnitude : Nat) : Nat :=
  significand magnitude * 2 ^ (exponent magnitude + 1074).toNat

/-- The value of a double. -/
def value (number : Binary64) : Int :=
  if number.negative then -(absolute number.magnitude : Int) else absolute number.magnitude

/-- A double is nearest to a number if no other double is nearer to it. -/
def IsNearestTo (number : Binary64) (target : Int) : Prop :=
  ∀ other : Binary64, (number.value - target).natAbs ≤ (other.value - target).natAbs

theorem one_pos : 0 < one := by
  rw [one]
  generalize 1074 = power
  exact Nat.two_pow_pos power

theorem eq_of_mul_one_eq
    {left right : Int}
    (same : left * one = right * one) :
    left = right :=
  Int.eq_of_mul_eq_mul_right (Int.natCast_ne_zero.2 (Nat.ne_of_gt one_pos)) same

/-! ## The order of magnitudes -/

/-- Digits with a power of two stand for their product, also those that are one too many for the
power. -/
theorem absolute_eq
    {power digits : Nat}
    (isNormal : power = 0 ∨ octave ≤ digits)
    (isWithin : digits ≤ 2 * octave) :
    absolute (power * octave + digits) = digits * 2 ^ power := by
  unfold absolute significand exponent
  unfold octave at *
  rcases Nat.lt_or_ge digits 4503599627370496 with isSmall | isLarge
  · obtain rfl : power = 0 := by omega
    rw [if_pos (by omega), if_pos (by omega)]
    simp
  · rcases Nat.lt_or_ge digits (2 * 4503599627370496) with isBelow | isEnd
    · have quotient : (power * 4503599627370496 + digits) / 4503599627370496 = power + 1 := by omega
      rw [quotient, if_neg (by omega), if_neg (by omega)]
      congr 2 <;> omega
    · obtain rfl : digits = 2 * 4503599627370496 := by omega
      have quotient : (power * 4503599627370496 + 2 * 4503599627370496) / 4503599627370496 =
          power + 2 := by omega
      rw [quotient, if_neg (by omega), if_neg (by omega),
        show (((power + 2 : Nat) : Int) - 1075 + 1074).toNat = power + 1 by omega, Nat.pow_succ',
        show (power * 4503599627370496 + 2 * 4503599627370496) % 4503599627370496 = 0 by omega,
        Nat.zero_add, ← Nat.mul_assoc, Nat.mul_comm 2]

/-- Every magnitude is made of digits and a power of two. -/
theorem exists_digits (magnitude : Nat) :
    ∃ power digits : Nat, magnitude = power * octave + digits ∧
      (power = 0 ∨ octave ≤ digits) ∧ digits < 2 * octave := by
  rcases Nat.lt_or_ge magnitude octave with isSmall | isLarge
  · exact ⟨0, magnitude, by omega, Or.inl rfl, by omega⟩
  · refine ⟨magnitude / octave - 1, magnitude % octave + octave, ?_, ?_, ?_⟩ <;>
      unfold octave at * <;> omega

theorem strictMono_absolute : StrictMono absolute := by
  refine strictMono_nat_of_lt_succ fun magnitude => ?_
  obtain ⟨power, digits, rfl, isNormal, isWithin⟩ := exists_digits magnitude
  rw [absolute_eq isNormal (by omega), Nat.add_assoc,
    absolute_eq (isNormal.imp_right fun _ => by omega) (by omega)]
  exact Nat.mul_lt_mul_of_pos_right (by omega) (Nat.two_pow_pos power)

@[simp] theorem absolute_zero : absolute 0 = 0 := by
  rw [absolute, significand, Nat.zero_div, if_pos rfl, Nat.zero_mul]

/-- One double comes before another in their order exactly if its value is less. -/
theorem rank_lt_rank_iff (left right : Binary64) :
    left.rank < right.rank ↔ left.value < right.value := by
  have magnitudes := strictMono_absolute.lt_iff_lt (a := left.magnitude) (b := right.magnitude)
  have reversed := strictMono_absolute.lt_iff_lt (a := right.magnitude) (b := left.magnitude)
  have leftSign := strictMono_absolute.lt_iff_lt (a := 0) (b := left.magnitude)
  have rightSign := strictMono_absolute.lt_iff_lt (a := 0) (b := right.magnitude)
  rw [absolute_zero] at leftSign rightSign
  unfold rank value
  split <;> split <;> omega

theorem compare_rank (left right : Binary64) :
    compare left.rank right.rank = compare left.value right.value := by
  have before := rank_lt_rank_iff left right
  have after := rank_lt_rank_iff right left
  simp only [compare, compareOfLessAndEq]
  grind

/-! ## Rounding natural numbers -/

/-- A quotient is rounded down or up, to the nearer side. -/
theorem divideRounding_cases (above below : Nat) :
    (divideRounding above below = above / below ∧ 2 * (above % below) ≤ below) ∨
      (divideRounding above below = above / below + 1 ∧ below ≤ 2 * (above % below)) := by
  unfold divideRounding
  rcases Nat.lt_trichotomy (2 * (above % below)) below with isLess | isHalf | isMore
  · exact Or.inl ⟨if_pos isLess, Nat.le_of_lt isLess⟩
  · simp only [isHalf, Nat.lt_irrefl, if_false]
    omega
  · exact Or.inr ⟨by rw [if_neg (Nat.lt_asymm isMore), if_pos isMore], Nat.le_of_lt isMore⟩

/-- The power of two at or below a positive number is that of its binary length. -/
theorem binaryLog_one
    {number : Nat}
    (isPositive : 0 < number) :
    binaryLog number 1 = Nat.log2 number := by
  have isAtMost : Nat.pow 2 (Nat.log2 number) ≤ number := Nat.log2_self_le (Nat.ne_of_gt isPositive)
  have logOne : Nat.log2 1 = 0 := rfl
  simp only [binaryLog, logOne, powerRatio, Int.natCast_zero, Int.sub_zero,
    if_pos (Int.natCast_nonneg _), Int.toNat_natCast, Nat.one_mul, Nat.mul_one, if_pos isAtMost]

/-- A power of two as a ratio: one of the two numbers is one. -/
theorem powerRatio_two (power : Int) :
    powerRatio 2 power = (2 ^ power.toNat, 2 ^ (-power).toNat) := by
  unfold powerRatio
  split
  next isLarge =>
    rw [show (-power).toNat = 0 by omega]
    rfl
  next isSmall =>
    rw [show power.toNat = 0 by omega]
    rfl

/-- A positive number has 53 digits when it is multiplied by a power of two, and it is rounded to
these digits. It is not divided if it has no more digits itself. -/
theorem exists_roundNat_eq
    {number : Nat}
    (isPositive : 0 < number) :
    ∃ power up down : Nat, 0 < up ∧ down * 2 ^ power = up * one ∧
      octave * up ≤ number * down ∧ number * down < 2 * octave * up ∧
      (number < 2 * octave → up = 1) ∧
      roundNat number = power * octave + divideRounding (number * down) up := by
  have isAtMost : 2 ^ Nat.log2 number ≤ number := Nat.log2_self_le (Nat.ne_of_gt isPositive)
  have isAbove : number < 2 ^ (Nat.log2 number + 1) := Nat.lt_log2_self
  generalize lengthIs : Nat.log2 number = length at isAtMost isAbove
  have octaveIs : octave = 2 ^ 52 := rfl
  have normal : octave * 2 ^ (length - 52) = 2 ^ length * 2 ^ (52 - length) := by
    rw [octaveIs, ← Nat.pow_add, ← Nat.pow_add]
    exact congrArg (2 ^ ·) (by omega)
  refine ⟨length + 1022, 2 ^ (length - 52), 2 ^ (52 - length), Nat.two_pow_pos _,
    ?_, ?_, ?_, ?_, ?_⟩
  · rw [one, ← Nat.pow_add, ← Nat.pow_add]
    exact congrArg (2 ^ ·) (by omega)
  · rw [normal]
    exact Nat.mul_le_mul_right _ isAtMost
  · rw [Nat.mul_assoc, normal, ← Nat.mul_assoc, ← Nat.pow_succ']
    exact Nat.mul_lt_mul_of_pos_right isAbove (Nat.two_pow_pos _)
  · intro isShort
    have isBelow : length < 53 := by
      rw [← lengthIs, Nat.log2_lt (Nat.ne_of_gt isPositive)]
      exact isShort
    rw [show length - 52 = 0 by omega]
    rfl
  · have power : max (binaryLog number 1 - 52) (-1074) = (length : Int) - 52 := by
      rw [binaryLog_one isPositive]
      omega
    unfold roundNat round
    simp only [if_neg (Nat.ne_of_gt isPositive), power, powerRatio_two, Nat.one_mul]
    congr 4 <;> omega

/-- A positive number lies between two neighbouring magnitudes and is rounded to the nearer one. -/
theorem exists_roundNat_between
    {number : Nat}
    (isPositive : 0 < number) :
    ∃ low : Nat, absolute low ≤ number * one ∧ number * one ≤ absolute (low + 1) ∧
      ((roundNat number = low ∧ 2 * (number * one) ≤ absolute low + absolute (low + 1)) ∨
        (roundNat number = low + 1 ∧ absolute low + absolute (low + 1) ≤ 2 * (number * one))) := by
  obtain ⟨power, up, down, upPositive, scaled, isNormal, isWithin, -, rounded⟩ :=
    exists_roundNat_eq isPositive
  have isLarge : octave ≤ number * down / up := (Nat.le_div_iff_mul_le upPositive).2 isNormal
  have isSmall : number * down / up < 2 * octave := (Nat.div_lt_iff_lt_mul upPositive).2 isWithin
  have isBelow : number * down % up < up := Nat.mod_lt _ upPositive
  have divided := Nat.div_add_mod (number * down) up
  have toNearer := divideRounding_cases (number * down) up
  -- The number and a magnitude are compared as the numbers that are divided in the rounding.
  have exact : number * one * up = number * down * 2 ^ power := by
    rw [Nat.mul_assoc, Nat.mul_comm one, ← scaled, Nat.mul_assoc]
  have leftIs (factor : Nat) :
      factor * (number * one) * up = factor * (number * down) * 2 ^ power := by
    rw [Nat.mul_assoc, exact, ← Nat.mul_assoc]
  have isAtMost {factor bound : Nat} (isLess : factor * (number * down) ≤ bound * up) :
      factor * (number * one) ≤ bound * 2 ^ power := by
    refine Nat.le_of_mul_le_mul_right ?_ upPositive
    rw [leftIs, Nat.mul_right_comm bound]
    exact Nat.mul_le_mul_right _ isLess
  have isAtLeast {factor bound : Nat} (isMore : bound * up ≤ factor * (number * down)) :
      bound * 2 ^ power ≤ factor * (number * one) := by
    refine Nat.le_of_mul_le_mul_right ?_ upPositive
    rw [leftIs, Nat.mul_right_comm bound]
    exact Nat.mul_le_mul_right _ isMore
  generalize number * down / up = digits at *
  generalize number * down % up = rest at *
  have lowIs : absolute (power * octave + digits) = digits * 2 ^ power :=
    absolute_eq (Or.inr isLarge) (Nat.le_of_lt isSmall)
  have highIs : absolute (power * octave + digits + 1) = (digits + 1) * 2 ^ power := by
    rw [Nat.add_assoc]
    exact absolute_eq (Or.inr (Nat.le_succ_of_le isLarge)) isSmall
  have middleIs : absolute (power * octave + digits) + absolute (power * octave + digits + 1) =
      (2 * digits + 1) * 2 ^ power := by
    rw [lowIs, highIs, ← Nat.add_mul]
    congr 1
    omega
  refine ⟨power * octave + digits, ?_, ?_, ?_⟩
  · rw [lowIs, ← Nat.one_mul (number * one)]
    exact isAtLeast (by rw [Nat.mul_comm digits]; omega)
  · rw [highIs, ← Nat.one_mul (number * one)]
    exact isAtMost (by rw [Nat.add_mul, Nat.mul_comm digits]; omega)
  · have middle : (2 * digits + 1) * up = 2 * (up * digits) + up := by
      rw [Nat.add_mul, Nat.mul_assoc, Nat.one_mul, Nat.mul_comm digits]
    rw [middleIs, rounded, Nat.add_assoc]
    refine toNearer.imp ?_ ?_
    · rintro ⟨isDown, isNear⟩
      exact ⟨by rw [isDown], isAtMost (by omega)⟩
    · rintro ⟨isUp, isNear⟩
      exact ⟨by rw [isUp], isAtLeast (by omega)⟩

/-- No magnitude is nearer to a natural number than the one that it is rounded to. -/
theorem absolute_roundNat_sub_le (number other : Nat) :
    ((absolute (roundNat number) : Int) - (number * one : Nat)).natAbs ≤
      ((absolute other : Int) - (number * one : Nat)).natAbs := by
  rcases Nat.eq_zero_or_pos number with rfl | isPositive
  · rw [show roundNat 0 = 0 from rfl, absolute_zero]
    omega
  · obtain ⟨low, isLow, isHigh, isNearer⟩ := exists_roundNat_between isPositive
    have outside : absolute other ≤ absolute low ∨ absolute (low + 1) ≤ absolute other :=
      (Nat.lt_or_ge low other).symm.imp
        (fun isBefore => strictMono_absolute.monotone isBefore)
        (fun isAfter => strictMono_absolute.monotone isAfter)
    rcases isNearer with ⟨rounded, isNearer⟩ | ⟨rounded, isNearer⟩ <;> rw [rounded] <;> omega

/-! ## Rounding integers -/

/-- An integer is rounded to a double that no other is nearer to. -/
theorem isNearestTo_ofInt (number : Int) : (ofInt number).IsNearestTo (number * one) := by
  intro other
  have nearest := absolute_roundNat_sub_le number.natAbs other.magnitude
  have notZero := absolute_roundNat_sub_le number.natAbs 0
  rw [absolute_zero] at notZero
  have size : (number * one).natAbs = number.natAbs * one := Int.natAbs_mul number one
  have sign : number * one < 0 ↔ number < 0 := by
    have positive : (0 : Int) < one := Int.natCast_pos.2 one_pos
    exact ⟨fun isNegative => Int.not_le.1 fun isNot => Int.not_le.2 isNegative
        (Int.mul_nonneg isNot (Int.le_of_lt positive)),
      fun isNegative => Int.mul_neg_of_neg_of_pos isNegative positive⟩
  simp only [← size] at nearest notZero
  simp only [ofInt, value, decide_eq_true_eq, ← sign]
  generalize number * (one : Int) = target at *
  split <;> split <;> omega

/-- What is nearest to the smaller of two numbers is not above what is nearest to the larger. -/
theorem value_le_value_of_isNearestTo
    {left right : Binary64}
    {small large : Int}
    (leftNearest : left.IsNearestTo small)
    (rightNearest : right.IsNearestTo large)
    (inOrder : small < large) :
    left.value ≤ right.value := by
  have isNearer := leftNearest right
  have isNearerToLarge := rightNearest left
  omega

/-- If a number is the value of a double, that is the value nearest to it. -/
theorem IsNearestTo.value_eq
    {number : Binary64}
    (isNearest : number.IsNearestTo target)
    (exact : Binary64)
    (isExact : exact.value = target) :
    number.value = target := by
  have isNearer := isNearest exact
  omega

theorem isNearestTo_value (number : Binary64) : number.IsNearestTo number.value := by
  intro other
  omega

/-- A natural number with at most 53 binary digits is the absolute value of a double. -/
theorem exists_absolute_eq
    {number : Nat}
    (isShort : number ≤ 2 * octave) :
    ∃ magnitude : Nat, absolute magnitude = number * one := by
  rcases Nat.eq_zero_or_pos number with rfl | isPositive
  · exact ⟨0, by rw [absolute_zero, Nat.zero_mul]⟩
  · rcases Nat.lt_or_eq_of_le isShort with isBelow | rfl
    · obtain ⟨power, up, down, -, scaled, isNormal, isWithin, isWhole, -⟩ :=
        exists_roundNat_eq isPositive
      obtain rfl := isWhole isBelow
      rw [Nat.mul_one] at isNormal isWithin
      refine ⟨power * octave + number * down, ?_⟩
      rw [absolute_eq (Or.inr isNormal) (Nat.le_of_lt isWithin), Nat.mul_assoc, scaled, Nat.one_mul]
    · refine ⟨1074 * octave + 2 * octave, ?_⟩
      rw [absolute_eq (Or.inr (by omega)) (Nat.le_refl _), one]

/-- An integer with at most 53 binary digits is rounded to itself. -/
theorem value_ofInt
    {number : Int}
    (isShort : number.natAbs ≤ 2 * octave) :
    (ofInt number).value = number * one := by
  obtain ⟨magnitude, isExact⟩ := exists_absolute_eq isShort
  refine (isNearestTo_ofInt number).value_eq ⟨decide (number < 0), magnitude⟩ ?_
  rw [value, isExact, Int.natCast_mul, ← Int.neg_mul]
  simp only [decide_eq_true_eq]
  split
  next isNegative => rw [Int.ofNat_natAbs_of_nonpos (Int.le_of_lt isNegative), Int.neg_neg]
  next isPositive => rw [Int.natAbs_of_nonneg (Int.not_lt.1 isPositive)]

end Binary64

namespace Number

/-- The value of a number, counted in least positive doubles. -/
def value : Number → Int
  | integer number => number * Binary64.one
  | double number => number.value

theorem isNearestTo_toBinary64 (number : Number) : number.toBinary64.IsNearestTo number.value := by
  cases number with
  | integer number => exact Binary64.isNearestTo_ofInt number
  | double number => exact number.isNearestTo_value

/-- Equal numbers are rounded to equal doubles, also if one of them is an integer and the other
one is not. -/
theorem value_toBinary64_eq_of_value_eq
    {left right : Number}
    (same : left.value = right.value) :
    left.toBinary64.value = right.toBinary64.value := by
  cases left with
  | integer left =>
      cases right with
      | integer right =>
          rw [Binary64.eq_of_mul_one_eq same]
      | double right =>
          exact ((Binary64.isNearestTo_ofInt left).value_eq right same.symm).trans same
  | double left =>
      cases right with
      | integer right =>
          exact same.trans ((Binary64.isNearestTo_ofInt right).value_eq left same).symm
      | double right => exact same

/-- Rounding keeps the order of numbers. -/
theorem value_toBinary64_le
    {left right : Number}
    (inOrder : left.value ≤ right.value) :
    left.toBinary64.value ≤ right.toBinary64.value := by
  rcases Int.lt_or_eq_of_le inOrder with isLess | same
  · exact Binary64.value_le_value_of_isNearestTo left.isNearestTo_toBinary64
      right.isNearestTo_toBinary64 isLess
  · exact Int.le_of_eq (value_toBinary64_eq_of_value_eq same)

end Number

end Screencast
