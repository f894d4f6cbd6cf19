import RecordRules.Number.Shortest

/-!
# Texts of floating-point numbers

A style says for which places of the decimal point a number is written out and
whether a whole number keeps a zero after the point.  Other numbers are written with
one digit before the point and an exponent.
-/

namespace RecordRules

open Text

/-- The decisions of one way to write floating-point numbers. -/
structure DoubleStyle where
  /-- Numbers whose point lies above this place and up to `highest` are written out. -/
  lowest : Int
  highest : Int
  /-- Whether a whole number ends in `.0`. -/
  keepsFraction : Bool
  /-- Whether an exponent that is not below zero has a plus sign. -/
  signsExponent : Bool
  /-- Where a number halfway between two shortest forms goes. -/
  tie : Tie
deriving DecidableEq, Repr

namespace DoubleStyle

/-- Every number is written out, a whole one without a point. -/
def plain : DoubleStyle := ⟨-1000, 1000, false, false, .up⟩

/-- Below `0.0001` and from `1e16` on an exponent is used, and whole numbers keep `.0`. -/
def detailed : DoubleStyle := ⟨-4, 16, true, false, .up⟩

/-- Below `0.00001` and from `1e+16` on an exponent with a sign is used, and whole numbers keep
`.0`. -/
def document : DoubleStyle := ⟨-5, 16, true, true, .even⟩

def positional (style : DoubleStyle) (form : ShortForm) : List Char :=
  if form.point ≤ 0 then
    '0' :: '.' :: (List.replicate (-form.point).toNat '0' ++ form.digits)
  else if 0 ≤ form.exponent then
    form.digits ++ List.replicate form.exponent.toNat '0'
      ++ (if style.keepsFraction then ['.', '0'] else [])
  else
    form.digits.take form.point.toNat ++ '.' :: form.digits.drop form.point.toNat

def scientific (style : DoubleStyle) (form : ShortForm) : List Char :=
  let power := integerDigits (form.point - 1)
  let exponent :=
    'e' :: (if style.signsExponent && 1 ≤ form.point then '+' :: power else power)
  match form.digits with
  | [] => exponent
  | [digit] => digit :: exponent
  | digit :: rest => digit :: '.' :: (rest ++ exponent)

def magnitude (style : DoubleStyle) (units : Nat) : List Char :=
  if units = 0 then if style.keepsFraction then ['0', '.', '0'] else ['0']
  else
    let form := ShortForm.ofUnits style.tie units
    if style.lowest < form.point && form.point ≤ style.highest then style.positional form
    else style.scientific form

/-- A number in the style; the sign of zero is written. -/
def write (style : DoubleStyle) : Double → List Char
  | .nan => "NaN".toList
  | .infinite negative => if negative then "-inf".toList else "inf".toList
  | .finite negative units =>
      if negative then '-' :: style.magnitude units else style.magnitude units

end DoubleStyle

end RecordRules
