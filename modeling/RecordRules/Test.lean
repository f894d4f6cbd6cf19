import RecordRules.Literal
import RecordRules.Text.Casing

/-!
# Tests of values

What an operator becomes once its field and its argument are known: a test that a value
passes or fails.  An absent value passes a comparison only if the comparison asks for a
difference, and it contains no text.
-/

namespace RecordRules

/-- The six relations between a value and a literal. -/
inductive Relation where
  | equal
  | notEqual
  | greater
  | greaterOrEqual
  | less
  | lessOrEqual
deriving DecidableEq, Repr

namespace Relation

def accepts : Relation → Option Ordering → Bool
  | .equal, order => order == some .eq
  | .notEqual, order => order != some .eq
  | .greater, order => order == some .gt
  | .greaterOrEqual, order => order == some .gt || order == some .eq
  | .less, order => order == some .lt
  | .lessOrEqual, order => order == some .lt || order == some .eq

/-- Whether a relation asks for equality or for a difference. -/
def isEquality : Relation → Bool
  | .equal | .notEqual => true
  | _ => false

def name : Relation → String
  | .equal => "Equal"
  | .notEqual => "NotEqual"
  | .greater => "GreaterThan"
  | .greaterOrEqual => "GreaterThanOrEqual"
  | .less => "LessThan"
  | .lessOrEqual => "LessThanOrEqual"

end Relation

/-- Where one text stands in another. -/
inductive Placement where
  | anywhere
  | atStart
  | atEnd
deriving DecidableEq, Repr

namespace Placement

def holds : Placement → (needle text : List Char) → Bool
  | .anywhere, needle, text => Text.occursIn needle text
  | .atStart, needle, text => needle.isPrefixOf text
  | .atEnd, needle, text => needle.isSuffixOf text

def name : Placement → String
  | .anywhere => "Contains"
  | .atStart => "StartsWith"
  | .atEnd => "EndsWith"

end Placement

/-- A test of a value. -/
inductive Test where
  /-- A result that no value changes. -/
  | constant (result : Bool)
  | isNull
  | isNotNull
  | compare (relation : Relation) (literal : Literal)
  /-- A needle in lower case, looked for in the lower case of a text. -/
  | placed (placement : Placement) (needle : String) (negated : Bool)
  | isTrue
  | isFalse
  /-- A test made outside the built-in operators. -/
  | custom (accepts : Value → Bool)

namespace Test

/-- The result of a test that does not depend on the value. -/
def constant? : Test → Option Bool
  | .constant result => some result
  | _ => none

/-- Whether the lower case of a text value holds a needle at a place; other values hold none. -/
def findsIn (placement : Placement) (needle : String) : Value → Bool
  | .text text => placement.holds needle.toList (Text.lower text.toList)
  | _ => false

def passes (test : Test) (value : Value) : Bool :=
  match test with
  | .constant result => result
  | .isNull => value.isNull
  | .isNotNull => !value.isNull
  | .compare relation literal =>
      if value.isNull then relation == .notEqual
      else relation.accepts (literal.order? value)
  | .placed placement needle negated => findsIn placement needle value != negated
  | .isTrue => match value with
    | .bool true => true
    | _ => false
  | .isFalse => match value with
    | .bool false => true
    | _ => false
  | .custom accepts => accepts value

def describe : Test → String
  | .constant result => s!"Constant({result})"
  | .isNull => "IsNull"
  | .isNotNull => "IsNotNull"
  | .compare relation literal =>
      s!"Compare \x7b op: {relation.name}, constant: {literal.describe} \x7d"
  | .placed placement needle negated =>
      s!"Text \x7b op: {placement.name}, needle: {Text.quote needle}, negated: {negated} \x7d"
  | .isTrue => "IsTrue"
  | .isFalse => "IsFalse"
  | .custom _ => "Custom"

end Test

end RecordRules
