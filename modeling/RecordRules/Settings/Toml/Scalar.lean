import RecordRules.Settings.Setting
import RecordRules.Settings.Toml.Moment

/-!
# Values without quotes in TOML

Truth values, integers in four bases, floating-point numbers, dates and times.  Single
underscores may stand between digits, and a whole number has no needless zero in front.
-/

namespace RecordRules.Toml

open Text

/-- Digits with single underscores between them, without the underscores. -/
def spacedDigits? (accepts : Char → Bool) : (afterDigit : Bool) → List Char → Option (List Char)
  | afterDigit, [] => if afterDigit then some [] else none
  | afterDigit, c :: rest =>
      if accepts c then (spacedDigits? accepts true rest).map (c :: ·)
      else if c = '_' && afterDigit then spacedDigits? accepts false rest
      else none

/-- Whole decimal digits without a needless zero in front. -/
def wholeDigits? (text : List Char) : Option (List Char) :=
  match spacedDigits? isDigit false text with
  | some ('0' :: _ :: _) => none
  | digits => digits

def basedNumber? (base : Nat) (text : List Char) : Option Int := do
  let below (c : Char) : Bool := (hexValue? c).any (· < base)
  let digits ← spacedDigits? below false text
  let n := digits.foldl (fun n c => base * n + (hexValue? c).getD 0) 0
  if n < twoTo 63 then some n else none

/-- An integer in one of four bases. -/
def integer? (text : List Char) : Option Int :=
  match text with
  | '0' :: 'x' :: rest => basedNumber? 16 rest
  | '0' :: 'o' :: rest => basedNumber? 8 rest
  | '0' :: 'b' :: rest => basedNumber? 2 rest
  | _ => do
      let (negative, rest) := Numeral.takeSign text
      let digits ← wholeDigits? rest
      let value : Int := if negative then -(natValue digits : Int) else natValue digits
      if Setting.isWord value then some value else none

def exponent? (text : List Char) : Option Int := do
  let (negative, rest) := Numeral.takeSign text
  let digits ← spacedDigits? isDigit false rest
  some (if negative then -(natValue digits : Int) else natValue digits)

def isExponentMark (c : Char) : Bool :=
  c == 'e' || c == 'E'

def numeral? (negative : Bool) (text : List Char) : Option Numeral := do
  let mantissa := text.takeWhile (!isExponentMark ·)
  let exponent ← match text.drop mantissa.length with
    | [] => some 0
    | _ :: rest => exponent? rest
  let whole := mantissa.takeWhile (· != '.')
  let wholePart ← wholeDigits? whole
  match mantissa.drop whole.length with
  | [] =>
      if mantissa.length = text.length then none
      else some ⟨negative, natValue wholePart, exponent⟩
  | _ :: fraction =>
      let digits ← spacedDigits? isDigit false fraction
      some ⟨negative, natValue (wholePart ++ digits), exponent - digits.length⟩

/-- A floating-point number that is not too large, or the name of one. -/
def float? (text : List Char) : Option Double :=
  let (negative, rest) := Numeral.takeSign text
  if rest = "inf".toList then some (Double.infinite negative)
  else if rest = "nan".toList then some Double.nan
  else
    match (numeral? negative rest).map (·.toDouble .binary64) with
    | some (Double.infinite _) => none
    | found => found

def bareValue? (text : List Char) : Option Setting :=
  if text = "true".toList then some (.bool true)
  else if text = "false".toList then some (.bool false)
  else
    match integer? text with
    | some value => some (.whole value)
    | none =>
        match float? text with
        | some value => some (.float value)
        | none => (moment? text).map (.text <| String.ofList ·)

def isBare (c : Char) : Bool :=
  isAsciiLetter c || isDigit c || c == '+' || c == '-' || c == '_' || c == '.' || c == ':'

/-- A date and a time with a blank between them, given the characters up to the blank. -/
def spacedMoment? (date rest : List Char) : Option (Setting × List Char) :=
  match rest with
  | ' ' :: rest =>
      let time := rest.takeWhile isBare
      (moment? (date ++ ' ' :: time)).map fun value =>
        (.text (String.ofList value), rest.drop time.length)
  | _ => none

def bareFront : Front Setting := fun text =>
  let token := text.takeWhile isBare
  let rest := text.drop token.length
  match spacedMoment? token rest with
  | some found => some found
  | none => (bareValue? token).map (·, rest)

end RecordRules.Toml
