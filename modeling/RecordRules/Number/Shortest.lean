import RecordRules.Number.Double
import RecordRules.Text.Digits

/-!
# The shortest decimal form

A finite number is written with the fewest digits that read back as the same number.
The numbers that round to it form an interval; of each count of digits the two
neighbours on that decimal grid are tried, the first count with a neighbour inside
the interval wins, and of two the nearer one.  A tie goes up or to the even digit.
-/

namespace RecordRules

open Text BinaryFormat

/-- Digits without trailing zeros, and the power of ten of the last one. -/
structure ShortForm where
  digits : List Char
  exponent : Int
deriving DecidableEq, Repr

namespace ShortForm

/-- The place of the decimal point, counted from the first digit. -/
def point (form : ShortForm) : Int :=
  form.digits.length + form.exponent

def ofMultiple (multiple : Nat) (exponent : Int) : ShortForm :=
  let digits := decimalDigits multiple
  let kept := (digits.reverse.dropWhile (· == '0')).reverse
  ⟨kept, exponent + (digits.length - kept.length : Nat)⟩

end ShortForm

/-- Which of two multiples of a power of ten a number halfway between them goes to. -/
inductive Tie where
  | up
  | even
deriving DecidableEq, Repr

def Tie.goesUp (tie : Tie) (below twiceRest step : Nat) : Bool :=
  step < twiceRest || (step == twiceRest && (tie == .up || below % 2 == 1))

/-- The quotients that round to one number: between `low` and `high` over `den`, around `value`. -/
structure RoundingInterval where
  low : Nat
  value : Nat
  high : Nat
  den : Nat
  /-- Whether the two ends belong to the interval. -/
  closed : Bool

namespace RoundingInterval

/-- The interval around a positive magnitude; below a power of two it is half as wide. -/
def ofUnits (units : Nat) : RoundingInterval :=
  let excess := binary64.excess units
  let step := twoTo excess
  let significand := units / step
  { low := 4 * units - (if significand = twoTo 52 ∧ 0 < excess then step else 2 * step)
    value := 4 * units
    high := 4 * units + 2 * step
    den := 4 * twoTo binary64.scale
    closed := significand % 2 == 0 }

/-- Whether the quotient `num / (den * scale)` lies in the interval. -/
def holds (interval : RoundingInterval) (num scale : Nat) : Bool :=
  let low := interval.low * scale
  let high := interval.high * scale
  (low < num && num < high) || (interval.closed && (num == low || num == high))

/-- The better multiple of a power of ten inside the interval, if there is one. -/
def onGrid? (interval : RoundingInterval) (tie : Tie) (exponent : Int) : Option Nat :=
  let up := tenTo exponent.toNat
  let down := tenTo (-exponent).toNat
  let unit := interval.den * up
  let value := interval.value * down
  let below := value / unit
  let rest := value % unit
  let lower := interval.holds (below * unit) down
  let upper := interval.holds ((below + 1) * unit) down
  if upper && (!lower || tie.goesUp below (2 * rest) unit) then some (below + 1)
  else if lower then some below
  else none

/-- The first of the grids from `exponent` downwards that has a hit; `count` grids are tried. -/
def search (interval : RoundingInterval) (tie : Tie) (exponent : Int) : Nat → ShortForm
  | 0 => .ofMultiple 0 0
  | count + 1 =>
      match interval.onGrid? tie exponent with
      | some multiple => .ofMultiple multiple exponent
      | none => search interval tie (exponent - 1) count

end RoundingInterval

/-- The power of ten just above a positive magnitude. -/
def decimalMagnitude (units : Nat) : Int :=
  (decimalDigits (units * tenTo 400 / twoTo binary64.scale)).length - 400

/-- The shortest form of a positive magnitude. -/
def ShortForm.ofUnits (tie : Tie) (units : Nat) : ShortForm :=
  (RoundingInterval.ofUnits units).search tie (decimalMagnitude units - 1) 18

end RecordRules
