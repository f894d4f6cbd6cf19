import RecordRules.Number.Power

/-!
# Rounding to binary precision

A binary format is described by its number of significant bits, its smallest unit
and the magnitude from which numbers are infinite.  Magnitudes are counted in
smallest units, so that rounding is arithmetic on natural numbers: a quotient is
rounded to the nearest multiple of the power of two that leaves the format's number
of bits, and a tie goes to the even multiple.
-/

namespace RecordRules

/-- The natural number nearest to a quotient; a tie goes to the even one. -/
def divNearestEven (num den : Nat) : Nat :=
  let quotient := num / den
  let rest := num % den
  if 2 * rest < den then quotient
  else if den < 2 * rest then quotient + 1
  else if quotient % 2 = 0 then quotient
  else quotient + 1

/-- The shape of a binary floating-point format. -/
structure BinaryFormat where
  /-- The number of significant bits. -/
  precision : Nat
  /-- The smallest positive number is two to the power of minus the scale. -/
  scale : Nat
  /-- Magnitudes of two to the power of `top` smallest units and above are infinite. -/
  top : Nat
deriving DecidableEq, Repr

namespace BinaryFormat

def binary64 : BinaryFormat := ⟨53, 1074, 2098⟩

def binary32 : BinaryFormat := ⟨24, 149, 277⟩

/-- How many low bits of a magnitude lie below its significant bits. -/
def excess (format : BinaryFormat) (units : Nat) : Nat :=
  units.log2 + 1 - format.precision

/-- The magnitude of the format nearest to a quotient of units, without an upper bound. -/
def roundUnits (format : BinaryFormat) (num den : Nat) : Nat :=
  let step := twoTo (format.excess (num / den))
  divNearestEven num (den * step) * step

end BinaryFormat

end RecordRules
