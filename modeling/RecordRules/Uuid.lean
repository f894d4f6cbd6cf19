import RecordRules.Text.Casing
import RecordRules.Text.Digits

/-!
# Identifiers of 128 bits

An identifier is written as 32 hexadecimal digits in groups of 8, 4, 4, 4 and 12.
It is read from that form, from the digits without hyphens, in braces, or behind
`urn:uuid:` in any letter case.
-/

namespace RecordRules

open Text

/-- An identifier of 128 bits as a number. -/
structure Uuid where
  value : Nat
deriving DecidableEq, Repr

namespace Uuid

/-- The order of the bytes, the most significant first. -/
def order (left right : Uuid) : Ordering :=
  compare left.value right.value

def simple? (text : List Char) : Option Uuid :=
  if text.length = 32 then (hexNumber? text).map (⟨·⟩) else none

def hyphenated? (text : List Char) : Option Uuid :=
  match text.splitOn '-' with
  | [a, b, c, d, e] =>
      if a.length = 8 && b.length = 4 && c.length = 4 && d.length = 4 && e.length = 12 then
        simple? (a ++ b ++ c ++ d ++ e)
      else none
  | _ => none

/-- The text without a closing brace at its end. -/
def withoutBrace? (text : List Char) : Option (List Char) :=
  match text.reverse with
  | '\x7d' :: rest => some rest.reverse
  | _ => none

/-- The mark of an identifier among other names of resources, in lower case. -/
def resourceMark : List Char :=
  "urn:uuid:".toList

def isResource (text : List Char) : Bool :=
  (text.take resourceMark.length).map asciiLower = resourceMark

def read? (text : List Char) : Option Uuid :=
  match text with
  | '\x7b' :: rest => (withoutBrace? rest).bind hyphenated?
  | _ =>
      if isResource text then hyphenated? (text.drop resourceMark.length)
      else if text.length = 32 then simple? text
      else hyphenated? text

def write (id : Uuid) : List Char :=
  let digits := padZeros 32 (hexDigits id.value)
  digits.take 8 ++ '-' :: ((digits.drop 8).take 4 ++ '-' :: ((digits.drop 12).take 4
    ++ '-' :: ((digits.drop 16).take 4 ++ '-' :: digits.drop 20)))

end Uuid

end RecordRules
