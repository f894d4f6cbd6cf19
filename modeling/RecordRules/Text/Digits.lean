/-!
# Digits

ASCII decimal and hexadecimal digits, the natural number that a run of decimal
digits denotes, and the writing of numbers at a least width.
-/

namespace RecordRules.Text

def isDigit (c : Char) : Bool :=
  '0' ≤ c && c ≤ '9'

/-- The value of an ASCII digit; `isDigit` keeps other characters out. -/
def digitValue (c : Char) : Nat :=
  c.toNat - '0'.toNat

def hexValue? (c : Char) : Option Nat :=
  if '0' ≤ c && c ≤ '9' then some (c.toNat - '0'.toNat)
  else if 'a' ≤ c && c ≤ 'f' then some (c.toNat - 'a'.toNat + 10)
  else if 'A' ≤ c && c ≤ 'F' then some (c.toNat - 'A'.toNat + 10)
  else none

def natValue (digits : List Char) : Nat :=
  digits.foldl (fun value c => 10 * value + digitValue c) 0

/-- The number a run of hexadecimal digits denotes; every character has to be one. -/
def hexNumber? (digits : List Char) : Option Nat :=
  digits.foldl
    (fun value c => match value, hexValue? c with
      | some n, some d => some (16 * n + d)
      | _, _ => none)
    (some 0)

def decimalDigits (n : Nat) : List Char :=
  Nat.toDigits 10 n

def hexDigits (n : Nat) : List Char :=
  Nat.toDigits 16 n

/-- The digits with zeros in front up to the width. -/
def padZeros (width : Nat) (digits : List Char) : List Char :=
  List.replicate (width - digits.length) '0' ++ digits

def takeDigits (text : List Char) : List Char × List Char :=
  (text.takeWhile isDigit, text.dropWhile isDigit)

def natural? (text : List Char) : Option Nat :=
  if text.isEmpty || !text.all isDigit then none else some (natValue text)

def integerDigits (n : Int) : List Char :=
  if n < 0 then '-' :: decimalDigits n.natAbs else decimalDigits n.natAbs

@[simp] theorem takeDigits_append (text : List Char) :
    (takeDigits text).1 ++ (takeDigits text).2 = text := by
  simp [takeDigits]

end RecordRules.Text
