import RecordRules.Text.Digits

/-!
# Calendar dates

Dates of the proleptic Gregorian calendar and their count in days from the first of
January 1970.  The year of a day is estimated from the mean length of a year, and the
estimate is off by at most one.
-/

namespace RecordRules

open Text

/-- A year, a month from 1 to 12 and a day from 1. -/
structure Date where
  year : Int
  month : Nat
  day : Nat
deriving DecidableEq, Repr

namespace Date

def minYear : Int := -262143

def maxYear : Int := 262142

/-- Every fourth year is a leap year, of full centuries only every fourth. -/
def isLeapYear (year : Int) : Bool :=
  year % 4 == 0 && (year % 100 != 0 || year % 400 == 0)

def monthLengths (leap : Bool) : List Nat :=
  [31, if leap then 29 else 28, 31, 30, 31, 30, 31, 31, 30, 31, 30, 31]

def monthLength (year : Int) (month : Nat) : Nat :=
  (monthLengths (isLeapYear year)).getD (month - 1) 0

def isValid (date : Date) : Bool :=
  minYear ≤ date.year && date.year ≤ maxYear && 1 ≤ date.month && date.month ≤ 12
    && 1 ≤ date.day && date.day ≤ monthLength date.year date.month

def ofParts? (year : Int) (month day : Nat) : Option Date :=
  let date : Date := ⟨year, month, day⟩
  if date.isValid then some date else none

/-- The days from the first of January of year 1 to that of another year. -/
def daysBeforeYear (year : Int) : Int :=
  365 * (year - 1) + (year - 1) / 4 - (year - 1) / 100 + (year - 1) / 400

/-- The days from the first of January of year 1 to that of 1970. -/
def epochOffset : Int := 719162

def daysBeforeMonth (year : Int) (month : Nat) : Nat :=
  ((monthLengths (isLeapYear year)).take (month - 1)).foldl (· + ·) 0

/-- The days from the first of January 1970 to a date. -/
def dayNumber (date : Date) : Int :=
  daysBeforeYear date.year + daysBeforeMonth date.year date.month + date.day - 1 - epochOffset

/-- The year of a day that is counted from the first of January of year 1. -/
def yearOfDay (day : Int) : Int :=
  let estimate := 400 * day / 146097 + 1
  if day < daysBeforeYear estimate then estimate - 1
  else if daysBeforeYear (estimate + 1) ≤ day then estimate + 1
  else estimate

/-- The month and day of a day that is counted from the first of the month `month`. -/
def splitDay (month : Nat) : (lengths : List Nat) → (day : Nat) → Nat × Nat
  | [], day => (month, day + 1)
  | length :: rest, day =>
      if day < length then (month, day + 1) else splitDay (month + 1) rest (day - length)

def ofDayNumber (number : Int) : Date :=
  let day := number + epochOffset
  let year := yearOfDay day
  let (month, dayOfMonth) :=
    splitDay 1 (monthLengths (isLeapYear year)) (day - daysBeforeYear year).toNat
  ⟨year, month, dayOfMonth⟩

def order (left right : Date) : Ordering :=
  (compare left.year right.year).then
    ((compare left.month right.month).then (compare left.day right.day))

/-- A year in four digits, and outside them with a sign. -/
def writeYear (year : Int) : List Char :=
  let digits := padZeros 4 (decimalDigits year.natAbs)
  if year < 0 then '-' :: digits else if 9999 < year then '+' :: digits else digits

def write (date : Date) : List Char :=
  writeYear date.year ++ '-' :: (padZeros 2 (decimalDigits date.month)
    ++ '-' :: padZeros 2 (decimalDigits date.day))

end Date

end RecordRules
