import Mathlib.Algebra.Order.Field.Rat
import Mathlib.Order.WithBot
import RecordRules.Number.Decimal
import RecordRules.Number.Double

/-!
# The order of numbers

Decimals are ordered as the rational numbers that they stand for, whatever their scales,
and floating-point numbers by their places in the order, which NaN alone does not have.
Numbers of equal value therefore compare alike with every other number.
-/

namespace RecordRules

theorem compare_natCast (a b : Nat) : compare (a : Int) (b : Int) = compare a b := by
  cases compared : compare a b with
  | lt => exact Int.compare_eq_lt.mpr (Int.ofNat_lt.mpr (Nat.compare_eq_lt.mp compared))
  | eq => exact Int.compare_eq_eq.mpr (congrArg Int.ofNat (Nat.compare_eq_eq.mp compared))
  | gt => exact Int.compare_eq_gt.mpr (Int.ofNat_lt.mpr (Nat.compare_eq_gt.mp compared))

namespace Decimal

def value (d : Decimal) : ℚ :=
  (d.signed : ℚ) / (tenTo d.scale : ℚ)

theorem order_eq_compare_value (left right : Decimal) :
    left.order right = compare left.value right.value := by
  have leftPos : (0 : ℚ) < tenTo left.scale := by exact_mod_cast tenTo_pos left.scale
  have rightPos : (0 : ℚ) < tenTo right.scale := by exact_mod_cast tenTo_pos right.scale
  unfold order
  symm
  cases compared : compare (left.signed * tenTo right.scale) (right.signed * tenTo left.scale) with
  | lt =>
      have less := compare_lt_iff_lt.mp compared
      rw [compare_lt_iff_lt, value, value, div_lt_div_iff₀ leftPos rightPos]
      exact_mod_cast less
  | eq =>
      have same := compare_eq_iff_eq.mp compared
      rw [compare_eq_iff_eq, value, value, div_eq_div_iff leftPos.ne' rightPos.ne']
      exact_mod_cast same
  | gt =>
      have more := compare_gt_iff_gt.mp compared
      rw [compare_gt_iff_gt, value, value, div_lt_div_iff₀ rightPos leftPos]
      exact_mod_cast more

theorem order_congr_left {first second : Decimal} (equal : first.order second = .eq)
    (other : Decimal) : first.order other = second.order other := by
  rw [order_eq_compare_value, compare_eq_iff_eq] at equal
  rw [order_eq_compare_value, order_eq_compare_value, equal]

end Decimal

namespace Double

open BinaryFormat

theorem rank?_eq_none_iff (number : Double) : number.rank? = none ↔ number = .nan := by
  cases number <;> simp [rank?]

theorem order?_finite_self (negative : Bool) (units : Nat) :
    (finite negative units).order? (finite negative units) = some .eq := by
  simp [order?, rank?]

/-- NaN is what keeps two floating-point numbers from having an order. -/
theorem order?_eq_none_iff (left right : Double) :
    left.order? right = none ↔ left = .nan ∨ right = .nan := by
  rw [← rank?_eq_none_iff, ← rank?_eq_none_iff, order?]
  cases left.rank? with
  | none => simp
  | some leftRank =>
      cases right.rank? with
      | none => simp
      | some rightRank => simp

theorem rank?_eq_of_order?_eq {first second : Double} (equal : first.order? second = some .eq) :
    first.rank? = second.rank? := by
  unfold order? at equal
  cases firstRank : first.rank? with
  | none => simp [firstRank] at equal
  | some a =>
      cases secondRank : second.rank? with
      | none => simp [firstRank, secondRank] at equal
      | some b =>
          simp only [firstRank, secondRank, Option.some.injEq, Ordering.then_eq_eq,
            compare_eq_iff_eq] at equal
          rw [Prod.ext equal.1 equal.2]

theorem order?_congr_left {first second : Double} (equal : first.order? second = some .eq)
    (other : Double) : first.order? other = second.order? other := by
  simp only [order?, rank?_eq_of_order?_eq equal]

/-! ## What floating-point numbers stand for -/

def finiteValue (negative : Bool) (units : Nat) : ℚ :=
  ((if negative then -(units : Int) else units : Int) : ℚ) / (twoTo binary64.scale : ℚ)

/-- What a floating-point number stands for: a number, or one of the infinities around them. -/
def value? : Double → Option (WithBot (WithTop ℚ))
  | .nan => none
  | .infinite negative => some (if negative then ⊥ else ⊤)
  | .finite negative units => some ((finiteValue negative units : WithTop ℚ) : WithBot (WithTop ℚ))

theorem compare_finiteValue (negative other : Bool) (units otherUnits : Nat) :
    compare (finiteValue negative units) (finiteValue other otherUnits) =
      compare (if negative then -(units : Int) else units : Int)
        (if other then -(otherUnits : Int) else otherUnits : Int) := by
  have positive : (0 : ℚ) < twoTo binary64.scale := by exact_mod_cast twoTo_pos binary64.scale
  unfold finiteValue
  generalize (if negative then -(units : Int) else units : Int) = a
  generalize (if other then -(otherUnits : Int) else otherUnits : Int) = b
  cases compared : compare a b with
  | lt =>
      have less : (a : ℚ) < b := by exact_mod_cast Int.compare_eq_lt.mp compared
      exact compare_lt_iff_lt.mpr (div_lt_div_of_pos_right less positive)
  | eq =>
      rw [Int.compare_eq_eq.mp compared]
      exact compare_eq_iff_eq.mpr rfl
  | gt =>
      have more : (b : ℚ) < a := by exact_mod_cast Int.compare_eq_gt.mp compared
      exact compare_gt_iff_gt.mpr (div_lt_div_of_pos_right more positive)

theorem compare_coe (a b : ℚ) :
    compare ((a : WithTop ℚ) : WithBot (WithTop ℚ)) ((b : WithTop ℚ) : WithBot (WithTop ℚ)) =
      compare a b := by
  cases compared : compare a b with
  | lt =>
      have less := compare_lt_iff_lt.mp compared
      exact compare_lt_iff_lt.mpr (by exact_mod_cast less)
  | eq =>
      rw [compare_eq_iff_eq.mp compared]
      exact compare_eq_iff_eq.mpr rfl
  | gt =>
      have more := compare_gt_iff_gt.mp compared
      exact compare_gt_iff_gt.mpr (by exact_mod_cast more)

theorem order?_infinite_finite (negative other : Bool) (units : Nat) :
    (infinite negative).order? (finite other units) =
      some (compare (if negative then ⊥ else ⊤)
        ((finiteValue other units : WithTop ℚ) : WithBot (WithTop ℚ))) := by
  cases negative with
  | false =>
      have above := WithBot.coe_lt_coe.mpr (WithTop.coe_lt_top (finiteValue other units))
      exact congrArg some (compare_gt_iff_gt.mpr above).symm
  | true =>
      have below := WithBot.bot_lt_coe (finiteValue other units : WithTop ℚ)
      exact congrArg some (compare_lt_iff_lt.mpr below).symm

theorem order?_swap (left right : Double) :
    left.order? right = (right.order? left).map Ordering.swap := by
  unfold order?
  cases left.rank? with
  | none => cases right.rank? <;> rfl
  | some a =>
      cases right.rank? with
      | none => rfl
      | some b =>
          simp only [Option.map_some, Ordering.swap_then, ← Std.OrientedOrd.eq_swap]

/-- Floating-point numbers are in the order of what they stand for. -/
theorem order?_eq_compare_value {left right : Double} {a b : WithBot (WithTop ℚ)}
    (leftValue : left.value? = some a) (rightValue : right.value? = some b) :
    left.order? right = some (compare a b) := by
  cases left with
  | nan => cases leftValue
  | infinite negative =>
      obtain rfl := Option.some.inj leftValue
      cases right with
      | nan => cases rightValue
      | infinite other =>
          obtain rfl := Option.some.inj rightValue
          cases negative <;> cases other <;> decide
      | finite other units =>
          obtain rfl := Option.some.inj rightValue
          exact order?_infinite_finite negative other units
  | finite negative units =>
      obtain rfl := Option.some.inj leftValue
      cases right with
      | nan => cases rightValue
      | infinite other =>
          obtain rfl := Option.some.inj rightValue
          rw [order?_swap, order?_infinite_finite, Option.map_some, ← Std.OrientedOrd.eq_swap]
      | finite other otherUnits =>
          obtain rfl := Option.some.inj rightValue
          rw [compare_coe, compare_finiteValue]
          rfl

theorem value?_eq_none_iff (number : Double) : number.value? = none ↔ number = .nan := by
  cases number <;> simp [value?]

end Double

end RecordRules
