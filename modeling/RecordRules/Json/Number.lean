import RecordRules.Json.Fault

/-!
# Numbers of a JSON text

Digits are gathered in a word of 64 bits.  A number without fraction and exponent that
fits is whole; otherwise the gathered word is rounded to a floating-point number and
multiplied or divided by a rounded power of ten, so that two or more roundings may
happen.  Digits that no longer fit the word count only by their places.
-/

namespace RecordRules.Json

open Text BinaryFormat

/-- A number as it was read: a whole one in 64 bits, or a floating-point one. -/
inductive Number where
  | whole (value : Int)
  | float (value : Double)
deriving DecidableEq, Repr

def Number.toDouble : Number → Double
  | .whole value => .ofInt value
  | .float value => value

def Number.found : Number → Found
  | .whole value => .integer value
  | .float value => .float value

/-- Gathered digits stay below this bound. -/
def significandBound : Nat := twoTo 64

/-- The greatest power of ten that is a finite floating-point number. -/
def maxPower : Nat := 308

/-- Digits gathered behind others as long as they fit, and those that do not. -/
def gather (significand : Nat) : List Char → Nat × List Char
  | [] => (significand, [])
  | c :: rest =>
      let extended := 10 * significand + digitValue c
      if extended < significandBound then gather extended rest else (significand, c :: rest)

/-- A power of ten, rounded, in units of the smallest positive number. -/
def powerUnits (exponent : Nat) : Nat :=
  binary64.roundUnits (tenTo exponent * twoTo binary64.scale) 1

def timesPower (units exponent : Nat) : Nat :=
  binary64.roundUnits (units * powerUnits exponent) (twoTo binary64.scale)

def overPower (units exponent : Nat) : Nat :=
  binary64.roundUnits (units * twoTo binary64.scale) (powerUnits exponent)

/-- A magnitude below two to the power of 64 divided by any power of ten. -/
def overAnyPower (units exponent : Nat) : Nat :=
  if exponent ≤ maxPower then overPower units exponent
  -- A power that is no finite number is divided by in two steps, beyond which nothing is left.
  else if exponent ≤ 2 * maxPower then
    overPower (overPower units maxPower) (exponent - maxPower)
  else 0

def scaled (negative : Bool) (significand : Nat) (exponent : Int) : Except Fault Double :=
  let units := binary64.roundUnits (significand * twoTo binary64.scale) 1
  if exponent < 0 then .ok (.finite negative (overAnyPower units exponent.natAbs))
  else if exponent.natAbs ≤ maxPower then
    let product := timesPower units exponent.natAbs
    if product < twoTo binary64.top then .ok (.finite negative product)
    else .error .numberOutOfRange
  else if units = 0 then .ok (.finite negative 0)
  else .error .numberOutOfRange

/-- The greatest exponent that is read; larger ones make a number infinite or zero. -/
def maxExponent : Nat := twoTo 31 - 1

def exponentPart (negative : Bool) (significand : Nat) (places : Int) : Reader Double := fun text =>
  let (down, text) := match text with
    | '+' :: rest => (false, rest)
    | '-' :: rest => (true, rest)
    | rest => (false, rest)
  let (digits, rest) := takeDigits text
  if digits.isEmpty then .error (if rest.isEmpty then .endInValue else .invalidNumber)
  else
    let exponent := natValue digits
    if maxExponent < exponent then
      if significand != 0 && !down then .error .numberOutOfRange
      else .ok (.finite negative 0, rest)
    else do
      let number ← scaled negative significand
        (if down then places - exponent else places + exponent)
      .ok (number, rest)

def exponentOrEnd (negative : Bool) (significand : Nat) (places : Int) : Reader Double
  | 'e' :: rest => exponentPart negative significand places rest
  | 'E' :: rest => exponentPart negative significand places rest
  | text => do
      let number ← scaled negative significand places
      .ok (number, text)

def fractionPart (negative : Bool) (significand : Nat) (places : Int) : Reader Double := fun text =>
  let (digits, rest) := takeDigits text
  if digits.isEmpty then .error (if rest.isEmpty then .endInValue else .invalidNumber)
  else
    let (significand, dropped) := gather significand digits
    exponentOrEnd negative significand
      (places - ((digits.length - dropped.length : Nat) : Int)) rest

/-- A whole number of 64 bits; minus zero and magnitudes without a place become floating point. -/
def wholeNumber (negative : Bool) (significand : Nat) : Number :=
  if !negative then .whole significand
  else if significand = 0 || twoTo 63 < significand then
    .float (.ofRatio binary64 true significand 1)
  else .whole (-(significand : Int))

/-- A number after its whole digits, some of which may have been dropped. -/
def afterWhole (negative : Bool) (significand dropped : Nat) : Reader Number
  | '.' :: rest => do
      let (number, rest) ← fractionPart negative significand dropped rest
      .ok (.float number, rest)
  | text =>
      match text with
      | c :: _ =>
          if c = 'e' || c = 'E' || dropped != 0 then do
            let (number, rest) ← exponentOrEnd negative significand dropped text
            .ok (.float number, rest)
          else .ok (wholeNumber negative significand, text)
      | [] =>
          if dropped != 0 then do
            let (number, rest) ← exponentOrEnd negative significand dropped text
            .ok (.float number, rest)
          else .ok (wholeNumber negative significand, text)

def unsignedNumber (negative : Bool) : Reader Number := fun text =>
  let (digits, rest) := takeDigits text
  match digits with
  | [] => .error (if rest.isEmpty then .endInValue else .invalidNumber)
  | '0' :: _ :: _ => .error .invalidNumber
  | digits =>
      let (significand, dropped) := gather 0 digits
      afterWhole negative significand dropped.length rest

/-- A number from its sign or first digit on. -/
def numberValue : Reader Number
  | '-' :: rest => unsignedNumber true rest
  | text => unsignedNumber false text

/-! ## Numbers that are passed over -/

/-- The end of a number from the mark of its exponent, without looking at its size. -/
def skipExponent : List Char → Except Fault (List Char)
  | [] => .ok []
  | c :: rest =>
      if c = 'e' || c = 'E' then
        let text := match rest with
          | '+' :: rest => rest
          | '-' :: rest => rest
          | rest => rest
        let (digits, rest) := takeDigits text
        if digits.isEmpty then .error .invalidNumber else .ok rest
      else .ok (c :: rest)

def skipFraction : List Char → Except Fault (List Char)
  | '.' :: rest =>
      let (digits, rest) := takeDigits rest
      if digits.isEmpty then .error .invalidNumber else skipExponent rest
  | text => skipExponent text

def skipUnsigned (text : List Char) : Except Fault (List Char) :=
  let (digits, rest) := takeDigits text
  match digits with
  | [] => .error .invalidNumber
  | '0' :: _ :: _ => .error .invalidNumber
  | _ => skipFraction rest

def skipNumber : List Char → Except Fault (List Char)
  | '-' :: rest => skipUnsigned rest
  | text => skipUnsigned text

end RecordRules.Json
