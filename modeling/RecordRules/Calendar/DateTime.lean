import RecordRules.Calendar.Date

/-!
# Points in time

A point in time is a count of seconds from the start of 1970 in universal time and
a count of nanoseconds.  A leap second has no count of its own: it is the second
before it with a thousand million nanoseconds more, so it lies between its neighbours.
-/

namespace RecordRules

open Text

/-- Seconds from the start of 1970 and nanoseconds, which reach two seconds in a leap second. -/
structure DateTime where
  seconds : Int
  nanos : Nat
deriving DecidableEq, Repr

namespace DateTime

def daySeconds : Int := 86400

def nanosPerSecond : Nat := 1000000000

/-- A time of a day from its fields; the second 60 is a leap second. -/
def ofFields? (date : Date) (hour minute second nanos : Nat) : Option DateTime :=
  if hour ≤ 23 ∧ minute ≤ 59 ∧ second ≤ 60 then
    let leap := second = 60
    some
      { seconds := date.dayNumber * daySeconds
          + (hour * 3600 + minute * 60 + (if leap then 59 else second) : Nat)
        nanos := if leap then nanos + nanosPerSecond else nanos }
  else none

def ofDate (date : Date) : DateTime :=
  ⟨date.dayNumber * daySeconds, 0⟩

/-- The time of a clock that is the given seconds ahead. -/
def behind (time : DateTime) (offset : Int) : DateTime :=
  { time with seconds := time.seconds - offset }

def date (time : DateTime) : Date :=
  .ofDayNumber (time.seconds / daySeconds)

def secondOfDay (time : DateTime) : Nat :=
  (time.seconds % daySeconds).toNat

def order (left right : DateTime) : Ordering :=
  (compare left.seconds right.seconds).then (compare left.nanos right.nanos)

/-- Nanoseconds behind a point in three, six or nine digits; none are written for zero. -/
def writeFraction (nanos : Nat) : List Char :=
  if nanos = 0 then []
  else if nanos % 1000000 = 0 then '.' :: padZeros 3 (decimalDigits (nanos / 1000000))
  else if nanos % 1000 = 0 then '.' :: padZeros 6 (decimalDigits (nanos / 1000))
  else '.' :: padZeros 9 (decimalDigits nanos)

def writeTime (time : DateTime) : List Char :=
  let second := time.secondOfDay
  let leap := nanosPerSecond ≤ time.nanos
  let two (n : Nat) : List Char := padZeros 2 (decimalDigits n)
  two (second / 3600) ++ ':' :: (two (second / 60 % 60)
    ++ ':' :: (two (second % 60 + if leap then 1 else 0)
      ++ writeFraction (if leap then time.nanos - nanosPerSecond else time.nanos)))

def writeBetween (separator : Char) (time : DateTime) : List Char :=
  time.date.write ++ separator :: time.writeTime

/-- The form with a blank, and the name of universal time behind it. -/
def write (time : DateTime) : List Char :=
  time.writeBetween ' ' ++ " UTC".toList

/-- The form with `T`, and the mark of universal time behind it. -/
def writeCompact (time : DateTime) : List Char :=
  time.writeBetween 'T' ++ ['Z']

end DateTime

end RecordRules
