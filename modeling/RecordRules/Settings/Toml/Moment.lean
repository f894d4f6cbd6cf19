import RecordRules.Calendar.Reader

/-!
# Dates and times in TOML

A date, a time of day, or both with an optional offset from universal time.  They are
kept as texts in one form: `T` between date and time, a fraction of at most nine digits
without needless zeros, and an offset of zero with a plus sign.  The seconds of a time
may be left out.
-/

namespace RecordRules.Toml

open Text Calendar

def fractionText : Front (List Char)
  | '.' :: rest =>
      let (digits, rest) := takeDigits rest
      let kept := ((digits.take 9).reverse.dropWhile (· == '0')).reverse
      if digits.isEmpty then none
      else some ('.' :: (if kept.isEmpty then ['0'] else kept), rest)
  | text => some ([], text)

def timeOfDay : Front (List Char) := fun text => do
  let (hour, rest) ← exactDigits 2 text
  let rest ← mark ':' rest
  let (minute, rest) ← exactDigits 2 rest
  if 23 < hour || 59 < minute then none
  else
    match rest with
    | ':' :: rest => do
        let (second, rest) ← exactDigits 2 rest
        let (fraction, rest) ← fractionText rest
        if 60 < second then none else some (text.take 8 ++ fraction, rest)
    | rest => some (text.take 5, rest)

/-- An offset from universal time in its usual form, behind a date with a time. -/
def zone? : List Char → Option (List Char)
  | [] => some []
  | [c] => if c = 'Z' || c = 'z' then some ['Z'] else none
  | sign :: text => do
      let (amount, rest) ← offsetAmount text
      if rest.isEmpty && (sign = '+' || sign = '-') then
        some ((if amount = 0 then '+' else sign) :: text)
      else none

def time? (text : List Char) : Option (List Char) := do
  let (time, rest) ← timeOfDay text
  if rest.isEmpty then some time else none

def zonedTime? (text : List Char) : Option (List Char) := do
  let (time, rest) ← timeOfDay text
  let zone ← zone? rest
  some (time ++ zone)

/-- A date, a time or both in their usual form. -/
def moment? (text : List Char) : Option (List Char) :=
  match exactDigits 4 text with
  | none => time? text
  | some (year, rest) => do
      let rest ← mark '-' rest
      let (month, rest) ← exactDigits 2 rest
      let rest ← mark '-' rest
      let (day, rest) ← exactDigits 2 rest
      let date ← Date.ofParts? year month day
      if rest.isEmpty then some date.write
      else
        let rest ← strictSeparator rest
        let time ← zonedTime? rest
        some (date.write ++ 'T' :: time)

end RecordRules.Toml
