import RecordRules.Number.Rounding

/-!
# Floating-point numbers of 64 bits

A number is kept exactly: a finite one as its sign and its magnitude in units of
the smallest positive number, two to the power of minus 1074.  The order is then
the order of integers, and the encoding in bits is a quotient by a power of two.
-/

namespace RecordRules

open BinaryFormat

/-- A floating-point number of 64 bits; every NaN is the same one. -/
inductive Double where
  | nan
  | infinite (negative : Bool)
  | finite (negative : Bool) (units : Nat)
deriving DecidableEq, Repr

namespace Double

/-- A magnitude in units, infinite from the format's upper bound. -/
def ofUnits (negative : Bool) (units : Nat) : Double :=
  if units < twoTo binary64.top then .finite negative units else .infinite negative

/-- The number nearest to a quotient among those of a format that is no wider than 64 bits. -/
def ofRatio (format : BinaryFormat) (negative : Bool) (num den : Nat) : Double :=
  let units := format.roundUnits (num * twoTo format.scale) den
  if units < twoTo format.top then
    .finite negative (units * twoTo (binary64.scale - format.scale))
  else .infinite negative

def ofInt (n : Int) : Double :=
  ofRatio binary64 (n < 0) n.natAbs 1

def isZero : Double → Bool
  | .finite _ units => units == 0
  | _ => false

/-- The place of a number in the order: the infinities lie outside the finite numbers, both zeros
share one place, and NaN has none. -/
def rank? : Double → Option (Int × Int)
  | .nan => none
  | .infinite negative => some (if negative then -1 else 1, 0)
  | .finite negative units => some (0, if negative then -(units : Int) else units)

def order? (left right : Double) : Option Ordering :=
  match left.rank?, right.rank? with
  | some a, some b => some ((compare a.1 b.1).then (compare a.2 b.2))
  | _, _ => none

/-- The encoding in 64 bits; NaN has many and is given none. -/
def bits? : Double → Option Nat
  | .nan => none
  | .infinite negative => some ((if negative then twoTo 63 else 0) + 2047 * twoTo 52)
  | .finite negative units =>
      let excess := binary64.excess units
      some ((if negative then twoTo 63 else 0) + (excess * twoTo 52 + units / twoTo excess))

def toNat? : Double → Option Nat
  | .finite false units =>
      if units % twoTo binary64.scale = 0 then some (units / twoTo binary64.scale) else none
  | _ => none

end Double

end RecordRules
