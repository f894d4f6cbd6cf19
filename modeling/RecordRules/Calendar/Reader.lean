import RecordRules.Calendar.DateTime
import RecordRules.Number.Power
import RecordRules.Text.Blank
import RecordRules.Text.Front

/-!
# Reading dates and times

Four forms of a point in time are tried in a fixed order: the strict form with an
offset from universal time, date and time with `T` or a blank between them, and a
date alone.  The last three allow blanks before every number.  A date is read from
its own form first and from a point in time otherwise.
-/

namespace RecordRules.Calendar

open Text

def someDigits (most : Nat) : Front Nat := fun text =>
  let digits := (text.take most).takeWhile isDigit
  if digits.isEmpty then none else some (natValue digits, text.drop digits.length)

def allDigits : Front Nat := fun text =>
  let (digits, rest) := takeDigits text
  if digits.isEmpty then none else some (natValue digits, rest)

/-- The nanoseconds of a fraction: its first nine digits count, the others are passed over. -/
def fractionDigits : Front Nat := fun text =>
  let (digits, rest) := takeDigits text
  if digits.isEmpty then none
  else
    let kept := digits.take 9
    some (natValue kept * tenTo (9 - kept.length), rest)

def fraction : Front Nat
  | '.' :: rest => fractionDigits rest
  | text => some (0, text)

/-! ## The strict form -/

def offsetAmount : Front Int := fun text => do
  let (hours, text) ← exactDigits 2 text
  let text ← mark ':' text
  let (minutes, text) ← exactDigits 2 text
  if minutes ≤ 59 ∧ hours ≤ 23 then
    some (hours * 3600 + minutes * 60, text)
  else none

def minusSign : Char := Char.ofNat 0x2212

def offset : Front Int
  | [] => none
  | c :: rest =>
      if c = 'Z' || c = 'z' then some (0, rest)
      else if c = '+' then offsetAmount rest
      else if c = '-' || c = minusSign then
        (offsetAmount rest).map fun (amount, rest) => (-amount, rest)
      else none

def strictSeparator : List Char → Option (List Char)
  | [] => none
  | c :: rest => if c = 'T' || c = 't' || c = ' ' then some rest else none

/-- A point in time with its offset. -/
def strict? (text : List Char) : Option DateTime := do
  let (year, text) ← exactDigits 4 text
  let text ← mark '-' text
  let (month, text) ← exactDigits 2 text
  let text ← mark '-' text
  let (day, text) ← exactDigits 2 text
  let text ← strictSeparator text
  let (hour, text) ← exactDigits 2 text
  let text ← mark ':' text
  let (minute, text) ← exactDigits 2 text
  let text ← mark ':' text
  let (second, text) ← exactDigits 2 text
  let (nanos, text) ← fraction text
  let (ahead, text) ← offset text
  if text.isEmpty then
    let date ← Date.ofParts? year month day
    let time ← DateTime.ofFields? date hour minute second nanos
    some (time.behind ahead)
  else none

/-! ## The lenient forms -/

/-- A number of at most two digits behind blanks. -/
def field : Front Nat := fun text =>
  someDigits 2 (trimStart text)

/-- A year behind blanks: up to four digits, or any number of them after a sign. -/
def year : Front Int := fun text =>
  match trimStart text with
  | '-' :: rest => (allDigits rest).map fun (n, rest) => (-(n : Int), rest)
  | '+' :: rest => (allDigits rest).map fun (n, rest) => ((n : Int), rest)
  | rest => (someDigits 4 rest).map fun (n, rest) => ((n : Int), rest)

def dateFields : Front Date := fun text => do
  let (year, text) ← year text
  let text ← mark '-' text
  let (month, text) ← field text
  let text ← mark '-' text
  let (day, text) ← field text
  let date ← Date.ofParts? year month day
  some (date, text)

def timeFields (date : Date) : Front DateTime := fun text => do
  let (hour, text) ← field text
  let text ← mark ':' text
  let (minute, text) ← field text
  let text ← mark ':' text
  let (second, text) ← field text
  let (nanos, text) ← fraction text
  let time ← DateTime.ofFields? date hour minute second nanos
  some (time, text)

/-- Date and time with `T` between them. -/
def joined? (text : List Char) : Option DateTime := do
  let (date, text) ← dateFields text
  let text ← mark 'T' text
  let (time, text) ← timeFields date text
  if text.isEmpty then some time else none

/-- Date and time with blanks, or nothing, between them. -/
def spaced? (text : List Char) : Option DateTime := do
  let (date, text) ← dateFields text
  let (time, text) ← timeFields date (trimStart text)
  if text.isEmpty then some time else none

def plainDate? (text : List Char) : Option Date := do
  let (date, text) ← dateFields text
  if text.isEmpty then some date else none

/-- A point in time in the first of the four forms that fits. -/
def readDateTime? (text : List Char) : Option DateTime :=
  match strict? text with
  | some time => some time
  | none =>
      match joined? text with
      | some time => some time
      | none =>
          match spaced? text with
          | some time => some time
          | none => (plainDate? text).map .ofDate

/-- A date, or the day of a point in time. -/
def readDate? (text : List Char) : Option Date :=
  match plainDate? text with
  | some date => some date
  | none => (readDateTime? text).map DateTime.date

end RecordRules.Calendar
