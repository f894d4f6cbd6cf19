import RecordRules.Number.Power
import RecordRules.Text.Digits

/-!
# Fixed-point decimals

A decimal is a sign, a coefficient below two to the power of 96 and a scale of at
most 28 digits after the point.  Its value is the signed coefficient divided by the
power of ten of the scale; `1.5` and `1.50` are different decimals of equal value.
So are the two zeros: a zero that is written out has no sign, and one that remains when
a negative number is divided by a power of ten keeps it.
-/

namespace RecordRules

open Text

/-- A decimal number with a fixed number of digits after the point. -/
structure Decimal where
  negative : Bool
  coefficient : Nat
  scale : Nat
deriving DecidableEq, Repr

namespace Decimal

def coefficientBound : Nat := twoTo 96

def maxScale : Nat := 28

/-- The decimal of a sign, a coefficient and a scale, if they are within the bounds.  The sign of
zero is dropped. -/
def ofParts? (negative : Bool) (coefficient scale : Nat) : Option Decimal :=
  if coefficient < coefficientBound ∧ scale ≤ maxScale then
    some ⟨negative && coefficient != 0, coefficient, scale⟩
  else none

def signed (d : Decimal) : Int :=
  if d.negative then -(d.coefficient : Int) else d.coefficient

/-- The order of the values, whatever the scales. -/
def order (left right : Decimal) : Ordering :=
  compare (left.signed * tenTo right.scale) (right.signed * tenTo left.scale)

/-- The digits of the coefficient with the point before the last `scale` of them. -/
def write (d : Decimal) : List Char :=
  let digits := padZeros (d.scale + 1) (decimalDigits d.coefficient)
  let whole := digits.take (digits.length - d.scale)
  let fraction := digits.drop (digits.length - d.scale)
  (if d.negative then ['-'] else [])
    ++ (if d.scale = 0 then whole else whole ++ '.' :: fraction)

def isDigitOrGap (c : Char) : Bool :=
  isDigit c || c == '_'

/-- A coefficient rounded by the digits that it has no room for, of which the first decides. -/
def roundedBy? (negative : Bool) (coefficient scale : Nat) (rest : List Char) :
    Option Decimal :=
  if rest.all isDigitOrGap then
    if ((rest.find? isDigit).map digitValue).any (5 ≤ ·) then
      if coefficient + 1 < coefficientBound then ofParts? negative (coefficient + 1) scale
      -- Rounding leaves the bound, so one more digit after the point is given up.
      else if scale = 0 then none
      else ofParts? negative ((coefficient + 5) / 10) (scale - 1)
    else ofParts? negative coefficient scale
  else none

/-- The digits of a decimal, among which underscores may stand after the first digit. -/
def readDigits? (negative : Bool) :
    (pointSeen digitSeen : Bool) → (coefficient scale : Nat) → List Char → Option Decimal
  | _, digitSeen, coefficient, scale, [] =>
      if digitSeen then ofParts? negative coefficient scale else none
  | pointSeen, digitSeen, coefficient, scale, c :: rest =>
      if isDigit c then
        let extended := 10 * coefficient + digitValue c
        if extended < coefficientBound then
          let places := if pointSeen then scale + 1 else 0
          if maxScale ≤ places then roundedBy? negative extended places rest
          else readDigits? negative pointSeen true extended places rest
        -- Digits that do not fit are rounded away, unless they belong to the whole part.
        else if pointSeen then roundedBy? negative coefficient scale (c :: rest)
        else none
      else if c == '.' && !pointSeen then
        readDigits? negative true digitSeen coefficient scale rest
      else if c == '_' && digitSeen then
        readDigits? negative pointSeen true coefficient scale rest
      else none

def readPlain? : List Char → Option Decimal
  | '-' :: rest => readDigits? true false false 0 0 rest
  | '+' :: rest => readDigits? false false false 0 0 rest
  | text => readDigits? false false false 0 0 text

/-- The decimal with at most the given number of digits after the point; halves go up. -/
def roundedTo (d : Decimal) (places : Nat) : Decimal :=
  if d.scale ≤ places then d
  else
    let unit := tenTo (d.scale - places)
    ⟨d.negative, (d.coefficient + unit / 2) / unit, places⟩

/-- A decimal divided by a power of ten of at most `maxScale`. -/
def dividedByPowerOfTen? (d : Decimal) (exponent : Nat) : Option Decimal :=
  if maxScale < exponent then none
  else
    -- Digits that the scale has no room for are rounded away; a zero that is left keeps its sign.
    let kept := d.roundedTo (maxScale - exponent)
    some ⟨kept.negative, kept.coefficient, kept.scale + exponent⟩

/-- A decimal times a power of ten, as much of which as possible the scale absorbs. -/
def timesPowerOfTen? (d : Decimal) (exponent : Nat) : Option Decimal :=
  if exponent ≤ d.scale then ofParts? d.negative d.coefficient (d.scale - exponent)
  else if maxScale < exponent then none
  else ofParts? d.negative (d.coefficient * tenTo (exponent - d.scale)) 0

def power? : List Char → Option Nat
  | '+' :: rest => natural? rest
  | text => natural? text

/-- A decimal moved by what stands behind the mark `e`: an optional minus sign and a power. -/
def moved? (d : Decimal) : List Char → Option Decimal
  | '-' :: rest => (power? rest).bind d.dividedByPowerOfTen?
  | text => (power? text).bind d.timesPowerOfTen?

def isExponentMark (c : Char) : Bool :=
  c == 'e' || c == 'E'

def read? (text : List Char) : Option Decimal :=
  match text.dropWhile (!isExponentMark ·) with
  | [] => readPlain? text
  | _ :: tail => (readPlain? (text.takeWhile (!isExponentMark ·))).bind (·.moved? tail)

end Decimal

end RecordRules
