import RecordRules.Calendar.Reader
import RecordRules.Number.Numeral
import RecordRules.Record.Path
import RecordRules.Text.Search

/-!
# Literals

The constants that rules compare values with.  The argument of an operator is a text;
it is read as a literal of the field's scalar type, after blanks around it have been
dropped.  Texts are taken as they are.
-/

namespace RecordRules

open Text

/-- A constant of a scalar type. -/
inductive Literal where
  | bool (value : Bool)
  | signed (value : Int)
  | unsigned (value : Nat)
  | float (value : Double)
  | decimal (value : Decimal)
  | text (value : String)
  | dateTime (value : DateTime)
  | date (value : Date)
  | uuid (value : Uuid)
deriving DecidableEq, Repr

namespace Literal

def value : Literal → Value
  | .bool value => .bool value
  | .signed value => .signed value
  | .unsigned value => .unsigned value
  | .float value => .float value
  | .decimal value => .decimal value
  | .text value => .text value
  | .dateTime value => .dateTime value
  | .date value => .date value
  | .uuid value => .uuid value

/-- The order of a value relative to a literal.  There is none between different kinds, except
between the two kinds of integers, and none for NaN. -/
def order? (literal : Literal) (value : Value) : Option Ordering :=
  match value, literal with
  | .bool a, .bool b => some (compare a.toNat b.toNat)
  | .signed a, .signed b => some (compare a b)
  | .unsigned a, .unsigned b => some (compare a b)
  | .signed a, .unsigned b => some (compare a (b : Int))
  | .unsigned a, .signed b => some (compare (a : Int) b)
  | .float a, .float b => a.order? b
  | .decimal a, .decimal b => some (a.order b)
  | .text a, .text b => some (Text.order a b)
  | .dateTime a, .dateTime b => some (a.order b)
  | .date a, .date b => some (a.order b)
  | .uuid a, .uuid b => some (a.order b)
  | _, _ => none

/-- The detailed form of a literal, with its kind. -/
def describe : Literal → String
  | .bool value => s!"Bool({value})"
  | .signed value => s!"Int({String.ofList (integerDigits value)})"
  | .unsigned value => s!"UInt({String.ofList (decimalDigits value)})"
  | .float value => s!"Float({String.ofList (DoubleStyle.detailed.write value)})"
  | .decimal value => s!"Decimal({String.ofList value.write})"
  | .text value => s!"Str({quote value})"
  | .dateTime value => s!"DateTime({String.ofList value.writeCompact})"
  | .date value => s!"Date({String.ofList value.write})"
  | .uuid value => s!"Uuid({String.ofList value.write})"

end Literal

/-! ## Reading -/

def readBool? (text : List Char) : Option Bool :=
  if equalsIgnoringAsciiCase text "true".toList then some true
  else if equalsIgnoringAsciiCase text "false".toList then some false
  else none

/-- An integer with an optional sign within the bounds of a width. -/
def readSigned? (width : Width) (text : List Char) : Option Int :=
  let (negative, digits) := Numeral.takeSign text
  match natural? digits with
  | none => none
  | some n =>
      let value : Int := if negative then -(n : Int) else n
      if -(twoTo (width.bits - 1) : Int) ≤ value ∧ value < twoTo (width.bits - 1) then some value
      else none

def readUnsigned? (width : Width) (text : List Char) : Option Nat :=
  let digits := match text with
    | '+' :: rest => rest
    | rest => rest
  match natural? digits with
  | none => none
  | some n => if n < twoTo width.bits then some n else none

/-- A literal of a type, from a text without blanks around it. -/
def Scalar.parse? (type : Scalar) (text : List Char) : Option Literal :=
  match type with
  | .bool => (readBool? text).map .bool
  | .signed width => (readSigned? width text).map .signed
  | .unsigned width => (readUnsigned? width text).map .unsigned
  | .float32 => (Double.read? .binary32 text).map .float
  | .float64 => (Double.read? .binary64 text).map .float
  | .decimal => (Decimal.read? text).map .decimal
  | .text => some (.text (String.ofList text))
  | .dateTime => (Calendar.readDateTime? text).map .dateTime
  | .date => (Calendar.readDate? text).map .date
  | .uuid => (Uuid.read? text).map .uuid

/-- A literal of a type; blanks around it matter for texts only. -/
def Scalar.read? (type : Scalar) (text : String) : Option Literal :=
  match type with
  | .text => some (.text text)
  | _ => type.parse? (trim text.toList)

def Leaf.literal (leaf : Leaf) (operator argument : String) : Except RuleError Literal :=
  match leaf.type.scalar?.bind (·.read? argument) with
  | some literal => .ok literal
  | none => .error (.argumentNotOfType operator leaf.typeName (.text argument))

end RecordRules
