import RecordRules.Number.DoubleText
import RecordRules.Number.Numeral

/-!
# Settings

The value of a setting as a source gives it, and its conversion to the type of the field
that it is for.  A truth value may be written as a number or as one of a few words; a text
may be given as any scalar.  Lists and tables convert to nothing.
-/

namespace RecordRules

open Text

/-- The value of a setting. -/
inductive Setting where
  | bool (value : Bool)
  | whole (value : Int)
  | float (value : Double)
  | text (value : String)
  /-- A list, or a table with members. -/
  | composite
  /-- A table without members. -/
  | emptyTable
deriving DecidableEq, Repr

namespace Setting

def trueWords : List String := ["1", "true", "on", "yes"]

def falseWords : List String := ["0", "false", "off", "no"]

def bool? : Setting → Option Bool
  | .bool value => some value
  | .whole value => some (value != 0)
  | .float value => some (!value.isZero)
  | .text value =>
      let word := String.ofList (lower value.toList)
      if trueWords.contains word then some true
      else if falseWords.contains word then some false
      else none
  | .composite | .emptyTable => none

def text? : Setting → Option String
  | .bool value => some (if value then "true" else "false")
  | .whole value => some (String.ofList (integerDigits value))
  | .float value => some (String.ofList (DoubleStyle.plain.write value))
  | .text value => some value
  | .composite | .emptyTable => none

/-- A setting in place of an earlier one.  The members of a table are added to what is there, so
that a table without members changes nothing. -/
def replacing (earlier : Option Setting) : Setting → Setting
  | .emptyTable => earlier.getD .emptyTable
  | setting => setting

/-- Integers that settings can hold. -/
def isWord (value : Int) : Bool :=
  -(twoTo 63 : Int) ≤ value && value < twoTo 63

def whole? (text : List Char) : Option Int :=
  let (negative, digits) := Numeral.takeSign text
  match natural? digits with
  | none => none
  | some n =>
      let value : Int := if negative then -(n : Int) else n
      if isWord value then some value else none

/-- A text from the environment as a truth value, an integer, a number or itself. -/
def ofVariable (text : String) : Setting :=
  if equalsIgnoringAsciiCase text.toList "true".toList then .bool true
  else if equalsIgnoringAsciiCase text.toList "false".toList then .bool false
  else
    match whole? text.toList with
    | some value => .whole value
    | none =>
        match Double.read? .binary64 text.toList with
        | some value => .float value
        | none => .text text

end Setting

end RecordRules
