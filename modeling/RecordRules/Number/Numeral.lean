import RecordRules.Number.Double
import RecordRules.Text.Casing
import RecordRules.Text.Digits

/-!
# Decimal numerals

A numeral is a sign, a whole number of digits and a power of ten.  The reader takes
an optional sign, digits with an optional point, and an optional exponent; the
number nearest to a numeral is found by one exact division.
-/

namespace RecordRules

open Text BinaryFormat

/-- The number `digits * 10 ^ exponent` with a sign. -/
structure Numeral where
  negative : Bool
  digits : Nat
  exponent : Int
deriving DecidableEq, Repr

namespace Numeral

def takeSign : List Char → Bool × List Char
  | '-' :: rest => (true, rest)
  | '+' :: rest => (false, rest)
  | text => (false, text)

def exponent? (text : List Char) : Option Int :=
  let (negative, digits) := takeSign text
  (natural? digits).map fun n => if negative then -(n : Int) else n

def tail? : List Char → Option Int
  | [] => some 0
  | 'e' :: rest => exponent? rest
  | 'E' :: rest => exponent? rest
  | _ => none

def unsigned? (negative : Bool) (text : List Char) : Option Numeral :=
  let (whole, rest) := takeDigits text
  let (fraction, rest) := match rest with
    | '.' :: rest => takeDigits rest
    | rest => ([], rest)
  if whole.isEmpty && fraction.isEmpty then none
  else
    (tail? rest).map fun exponent =>
      ⟨negative, natValue (whole ++ fraction), exponent - fraction.length⟩

/-- A numeral with an optional sign, at least one digit, an optional point and exponent. -/
def read? (text : List Char) : Option Numeral :=
  let (negative, rest) := takeSign text
  unsigned? negative rest

/-- The floating-point number of a format nearest to a numeral. -/
def toDouble (format : BinaryFormat) (numeral : Numeral) : Double :=
  if numeral.digits = 0 then .finite numeral.negative 0
  else
    let magnitude := (decimalDigits numeral.digits).length + numeral.exponent
    -- Far from the numbers of the format no power of ten is computed.
    if magnitude < -330 then .finite numeral.negative 0
    else if 310 < magnitude then .infinite numeral.negative
    else
      Double.ofRatio format numeral.negative
        (numeral.digits * tenTo numeral.exponent.toNat) (tenTo (-numeral.exponent).toNat)

end Numeral

namespace Double

def ofName? (negative : Bool) (text : List Char) : Option Double :=
  let name := text.map asciiLower
  if name = "nan".toList then some .nan
  else if name = "inf".toList || name = "infinity".toList then some (.infinite negative)
  else none

/-- A floating-point number written as a numeral, or as `inf`, `infinity` or `nan` in any case. -/
def read? (format : BinaryFormat) (text : List Char) : Option Double :=
  let (negative, rest) := Numeral.takeSign text
  match ofName? negative rest with
  | some number => some number
  | none => (Numeral.unsigned? negative rest).map (Numeral.toDouble format)

end Double

end RecordRules
