import Screencast.Proofs.Decimal.Nearest
import Screencast.Proofs.Store.Ordering

/-!
# Comparing the values of a column

An order compares the values of a column. Null comes first, and values of one kind are in an order
of their own. Values of two kinds are not told apart, which is why the comparison is no order on
values of several kinds: two of them may be told apart while neither is told apart from a third.
-/

namespace Screencast

namespace Pool

/-- The kinds of values in a column. A missing value counts as null. -/
inductive Kind
  | null
  | truth
  | number
  | text
  | nested
  deriving DecidableEq, Repr

/-- The kind of a value. -/
def kindOf : Option Json → Kind
  | none => Kind.null
  | some Json.null => Kind.null
  | some (Json.bool _) => Kind.truth
  | some (Json.number _) => Kind.number
  | some (Json.string _) => Kind.text
  | some (Json.array _) => Kind.nested
  | some (Json.object _) => Kind.nested

/-- Whether one value comes after another, when numbers are in the order of a measure. -/
def comesAfter (measure : Number → Int) : Option Json → Option Json → Bool
  | some (Json.number left), some (Json.number right) => measure right < measure left
  | some (Json.string left), some (Json.string right) => right < left
  | some (Json.bool left), some (Json.bool right) => left && !right
  | left, right => kindOf left != Kind.null && kindOf right == Kind.null

/-- The value of the double nearest to a number. -/
def nearest (number : Number) : Int := number.toBinary64.value

variable {measure : Number → Int} {left right first second third : Option Json}

theorem comesAfter_of_null_left
    (isNull : kindOf left = Kind.null) :
    comesAfter measure left right = false := by
  rcases left with _ | _ | _ <;> simp_all [kindOf, comesAfter]

theorem comesAfter_of_null_right
    (isNull : kindOf right = Kind.null) :
    comesAfter measure left right = (kindOf left != Kind.null) := by
  rcases right with _ | _ | _ <;> simp_all [kindOf, comesAfter]

theorem comesAfter_of_kindOf_ne
    (isValue : kindOf right ≠ Kind.null)
    (apart : kindOf left ≠ kindOf right) :
    comesAfter measure left right = false := by
  rcases left with _ | _ | _ <;> rcases right with _ | _ | _ <;> simp_all [kindOf, comesAfter]

/-- One of two values does not come after the other. -/
theorem comesAfter_asymm
    (isAfter : comesAfter measure left right = true) :
    comesAfter measure right left = false := by
  unfold comesAfter at isAfter
  split at isAfter
  next left right => exact decide_eq_false (Int.lt_asymm (of_decide_eq_true isAfter))
  next left right => exact decide_eq_false (String.lt_asymm (of_decide_eq_true isAfter))
  next left right => cases left <;> cases right <;> trivial
  next =>
    rw [Bool.and_eq_true_iff, beq_iff_eq] at isAfter
    exact comesAfter_of_null_left isAfter.2

/-- What comes after a value comes after all that is not before it, unless that is of another
kind. -/
theorem comesAfter_or_comesAfter
    (isAfter : comesAfter measure first third = true)
    (alike : kindOf second = Kind.null ∨ kindOf third = Kind.null ∨ kindOf second = kindOf first) :
    comesAfter measure first second = true ∨ comesAfter measure second third = true := by
  have isValue : kindOf first ≠ Kind.null := by
    intro isNull
    rw [comesAfter_of_null_left isNull] at isAfter
    exact nomatch isAfter
  by_cases secondNull : kindOf second = Kind.null
  · left
    rw [comesAfter_of_null_right secondNull]
    exact bne_iff_ne.2 isValue
  by_cases thirdNull : kindOf third = Kind.null
  · right
    rw [comesAfter_of_null_right thirdNull]
    exact bne_iff_ne.2 secondNull
  -- All three are of one kind, and each kind has an order of its own.
  have sameAsFirst : kindOf second = kindOf first := by
    simpa only [secondNull, thirdNull, false_or] using alike
  have sameAsThird : kindOf first = kindOf third := by
    by_contra apart
    rw [comesAfter_of_kindOf_ne thirdNull apart] at isAfter
    exact nomatch isAfter
  rcases first with _ | _ | first | first | first | _ | _ <;>
    rcases second with _ | _ | second | second | second | _ | _ <;>
    simp [kindOf] at isValue sameAsFirst
  all_goals
    rcases third with _ | _ | third | third | third | _ | _ <;>
      simp [kindOf] at sameAsThird
  all_goals simp only [comesAfter, decide_eq_true_eq] at isAfter ⊢
  · cases first <;> cases second <;> simp_all
  · omega
  · by_cases isBefore : second < first
    · exact Or.inl isBefore
    · exact Or.inr (Std.lt_of_lt_of_le isAfter (String.not_lt.1 isBefore))
  all_goals exact nomatch isAfter

/-- The comparison finds a value greater if it comes after the other one. -/
theorem compareValues_eq_gt_iff :
    compareValues left right = .gt ↔ comesAfter nearest left right = true := by
  rcases left with _ | _ | left | left | left | _ | _ <;>
    rcases right with _ | _ | right | right | right | _ | _
  case some.number.some.number =>
      rw [compareValues, Binary64.compare_rank, Std.compare_eq_gt, comesAfter, decide_eq_true_eq]
      rfl
  case some.string.some.string =>
      rw [compareValues, comesAfter, decide_eq_true_eq]
      exact compareOfLessAndEq_eq_gt String.le_antisymm String.le_total String.not_le left right
  case some.bool.some.bool => cases left <;> cases right <;> decide
  all_goals simp [kindOf, comesAfter, compareValues]

/-- Comparing two values the other way round gives the reverse. -/
theorem compareValues_swap (left right : Option Json) :
    compareValues right left = (compareValues left right).swap := by
  rcases left with _ | _ | left | left | left | _ | _ <;>
    rcases right with _ | _ | right | right | right | _ | _ <;>
    simp only [compareValues, Ordering.swap]
  · exact Std.OrientedOrd.eq_swap
  · exact Std.OrientedOrd.eq_swap
  · exact Std.OrientedOrd.eq_swap

/-- A value comes after another one while neither is told apart in this direction from a third
exactly if that is of a kind of its own. -/
theorem compareValues_skips_iff (first second third : Option Json) :
    (compareValues first second ≠ .gt ∧ compareValues second third ≠ .gt ∧
        compareValues first third = .gt) ↔
      compareValues first third = .gt ∧ kindOf second ≠ Kind.null ∧ kindOf third ≠ Kind.null ∧
        kindOf second ≠ kindOf first := by
  simp only [ne_eq, compareValues_eq_gt_iff, Bool.not_eq_true]
  constructor
  · rintro ⟨before, after, isAfter⟩
    have apart : ¬ (kindOf second = Kind.null ∨ kindOf third = Kind.null ∨
        kindOf second = kindOf first) := by
      intro alike
      have between := comesAfter_or_comesAfter isAfter alike
      rw [before, after] at between
      simp at between
    exact ⟨isAfter, by simpa only [not_or] using apart⟩
  · rintro ⟨isAfter, isValue, thirdIsValue, apart⟩
    have sameKind : kindOf first = kindOf third := by
      by_contra others
      rw [comesAfter_of_kindOf_ne thirdIsValue others] at isAfter
      exact nomatch isAfter
    exact ⟨comesAfter_of_kindOf_ne isValue (Ne.symm apart),
      comesAfter_of_kindOf_ne thirdIsValue (sameKind ▸ apart), isAfter⟩

theorem compareValues_number (left right : Number) :
    compareValues (some (Json.number left)) (some (Json.number right)) =
      compare (nearest left) (nearest right) :=
  Binary64.compare_rank left.toBinary64 right.toBinary64

theorem comesAfter_value_integer (left right : Int) :
    comesAfter Number.value (some (Json.integer left)) (some (Json.integer right)) =
      decide (right < left) := by
  have isPositive : (0 : Int) < Binary64.one := Int.natCast_pos.2 Binary64.one_pos
  rw [Json.integer, Json.integer, comesAfter, Number.value, Number.value, decide_eq_decide]
  exact Int.mul_lt_mul_right isPositive

/-- Integers are in their order, unless they are different and have the same double: then they are
not told apart. -/
theorem compareValues_integer (left right : Int) :
    compareValues (some (Json.integer left)) (some (Json.integer right)) =
      if (Binary64.ofInt left).value = (Binary64.ofInt right).value then .eq
      else compare left right := by
  have sameOrder (small large : Int) (inOrder : small ≤ large) :
      (Binary64.ofInt small).value ≤ (Binary64.ofInt large).value :=
    @Number.value_toBinary64_le (Number.integer small) (Number.integer large)
      (Int.mul_le_mul_of_nonneg_right inOrder (Int.natCast_nonneg _))
  rw [Json.integer, Json.integer, compareValues_number, nearest, nearest, Number.toBinary64,
    Number.toBinary64]
  split
  next same => exact Std.LawfulEqCmp.compare_eq_iff_eq.2 same
  next apart =>
    rcases Int.lt_trichotomy left right with isLess | rfl | isMore
    · have notAfter := sameOrder left right (Int.le_of_lt isLess)
      rw [Std.compare_eq_lt.2 isLess, Std.compare_eq_lt]
      omega
    · exact absurd rfl apart
    · have notAfter := sameOrder right left (Int.le_of_lt isMore)
      rw [Std.compare_eq_gt.2 isMore, Std.compare_eq_gt]
      omega

/-- The comparison tells a value from another one in both directions alike. It is transitive on
nulls and the values of one kind, and fails to be exactly at a value of a kind of its own between
two others. Two integers are in their order, unless the nearest double of both is the same: then
they are not told apart. Integers with at most 53 binary digits are doubles themselves. -/
theorem compareValues_order (first second third : Option Json) (left right : Int) :
    compareValues first first = .eq ∧
      compareValues second first = (compareValues first second).swap ∧
      ((compareValues first second ≠ .gt ∧ compareValues second third ≠ .gt ∧
          compareValues first third = .gt) ↔
        compareValues first third = .gt ∧ kindOf second ≠ Kind.null ∧ kindOf third ≠ Kind.null ∧
          kindOf second ≠ kindOf first) ∧
      compareValues (some (Json.integer left)) (some (Json.integer right)) =
        (if (Binary64.ofInt left).value = (Binary64.ofInt right).value then .eq
        else compare left right) ∧
      (Binary64.ofInt left).IsNearestTo (left * Binary64.one) ∧
      (left.natAbs ≤ 2 * Binary64.octave → right.natAbs ≤ 2 * Binary64.octave →
        compareValues (some (Json.integer left)) (some (Json.integer right)) =
          compare left right) := by
  refine ⟨compareValues_self first, compareValues_swap first second,
    compareValues_skips_iff first second third, compareValues_integer left right,
    Binary64.isNearestTo_ofInt left, fun leftIsShort rightIsShort => ?_⟩
  rw [compareValues_integer, Binary64.value_ofInt leftIsShort, Binary64.value_ofInt rightIsShort]
  split
  next same =>
    obtain rfl : left = right := Binary64.eq_of_mul_one_eq same
    exact Std.ReflCmp.compare_self.symm
  next => rfl

/-- A number between two texts is told apart from none of them, though they are told apart, and a
number that is no double is not told apart from the one below it. -/
theorem compareValues_no_order :
    (compareValues (some (Json.string "b")) (some (Json.integer 0)) ≠ .gt ∧
        compareValues (some (Json.integer 0)) (some (Json.string "a")) ≠ .gt ∧
        compareValues (some (Json.string "b")) (some (Json.string "a")) = .gt) ∧
      compareValues (some (Json.integer 9007199254740993)) (some (Json.integer 9007199254740992)) ≠
        compare 9007199254740993 9007199254740992 := by
  decide

/-- Five comes before seven, and a text is between them. -/
theorem compareValues_five_seven :
    compareValues (some (Json.integer 5)) (some (Json.integer 7)) = .lt ∧
      compareValues (some (Json.integer 7)) (some (Json.string "a")) ≠ .gt ∧
      compareValues (some (Json.string "a")) (some (Json.integer 5)) ≠ .gt := by
  have ordered := compareValues_order (some (Json.integer 7)) (some (Json.string "a"))
    (some (Json.integer 5)) 5 7
  obtain ⟨-, -, skips, -, -, areShort⟩ := ordered
  have isGreater : compareValues (some (Json.integer 7)) (some (Json.integer 5)) = .gt := by decide
  have isBetween := skips.2 ⟨isGreater, by decide, by decide, by decide⟩
  exact ⟨areShort (by decide) (by decide), isBetween.1, isBetween.2.1⟩

end Pool

end Screencast
