import RecordRules.Test

/-!
# Operators

The built-in operators and the tests they become for a field and an argument.  What is
built depends on the type of the field and on whether the field itself is nullable, never
on the records on the way to it: a record that is absent there is met when a value is
tested.
-/

namespace RecordRules

inductive Operator where
  | equal
  | notEqual
  | greaterThan
  | greaterThanOrEqual
  | lessThan
  | lessThanOrEqual
  | contains
  | startsWith
  | endsWith
  | doesNotContain
  | doesNotStartWith
  | doesNotEndWith
  | isNull
  | isNotNull
  | isTrue
  | isFalse
deriving DecidableEq, Repr

namespace Operator

def all : List Operator :=
  [.equal, .notEqual, .greaterThan, .greaterThanOrEqual, .lessThan, .lessThanOrEqual,
    .contains, .startsWith, .endsWith, .doesNotContain, .doesNotStartWith, .doesNotEndWith,
    .isNull, .isNotNull, .isTrue, .isFalse]

def name : Operator → String
  | .equal => "Equal"
  | .notEqual => "NotEqual"
  | .greaterThan => "GreaterThan"
  | .greaterThanOrEqual => "GreaterThanOrEqual"
  | .lessThan => "LessThan"
  | .lessThanOrEqual => "LessThanOrEqual"
  | .contains => "Contains"
  | .startsWith => "StartsWith"
  | .endsWith => "EndsWith"
  | .doesNotContain => "DoesNotContain"
  | .doesNotStartWith => "DoesNotStartWith"
  | .doesNotEndWith => "DoesNotEndWith"
  | .isNull => "IsNull"
  | .isNotNull => "IsNotNull"
  | .isTrue => "IsTrue"
  | .isFalse => "IsFalse"

/-- The operator of a name; the case of letters matters. -/
def ofName (name : String) : Except RuleError Operator :=
  match all.find? (·.name == name) with
  | some operator => .ok operator
  | none => .error (.unknownOperator name)

end Operator

namespace Leaf

def isComparable (leaf : Leaf) : Bool :=
  leaf.type.scalar?.isSome

def isText (leaf : Leaf) : Bool :=
  leaf.type.scalar? == some .text

def isBool (leaf : Leaf) : Bool :=
  leaf.type.scalar? == some .bool

def refuse (leaf : Leaf) (operator : String) : RuleError :=
  .operatorNotForType operator leaf.path leaf.typeName

end Leaf

namespace Test

/-- A comparison without an argument: a test for absence where the field can be absent. -/
def ofRelation (relation : Relation) (operator : String) (leaf : Leaf) :
    Except RuleError Test :=
  if !leaf.isComparable && !relation.isEquality then .error (leaf.refuse operator)
  else if !leaf.nullable then .ok (.constant (relation == .notEqual))
  else
    match relation with
    | .equal => .ok .isNull
    | .notEqual => .ok .isNotNull
    | _ => .ok (.constant false)

def ofComparison (relation : Relation) (operator : String) (leaf : Leaf) (argument : String) :
    Except RuleError Test :=
  if !leaf.isComparable then .error (leaf.refuse operator)
  -- An empty argument says nothing to a field that may be absent, unless it holds texts.
  else if argument.isEmpty && leaf.nullable && !leaf.isText then .ok (.constant false)
  else (leaf.literal operator argument).map (.compare relation)

def ofPlacement (placement : Placement) (negated : Bool) (operator : String) (leaf : Leaf)
    (argument : Option String) : Except RuleError Test :=
  if !leaf.isText then .error (leaf.refuse operator)
  else
    match argument with
    | none => .error (.argumentNotOfType operator leaf.typeName .nothing)
    | some needle =>
        .ok (.placed placement (String.ofList (Text.lower needle.toList)) negated)

/-- A test for absence or presence; a field that is never absent decides it beforehand. -/
def ofPresence (absent : Bool) (leaf : Leaf) : Test :=
  if !leaf.nullable then .constant (!absent) else if absent then .isNull else .isNotNull

def ofTruth (expected : Bool) (operator : String) (leaf : Leaf) : Except RuleError Test :=
  if !leaf.isBool then .error (leaf.refuse operator)
  else .ok (if expected then .isTrue else .isFalse)

end Test

namespace Operator

inductive Kind where
  | relation (relation : Relation)
  | placement (placement : Placement) (negated : Bool)
  | presence (absent : Bool)
  | truth (expected : Bool)
deriving DecidableEq, Repr

def kind : Operator → Kind
  | .equal => .relation .equal
  | .notEqual => .relation .notEqual
  | .greaterThan => .relation .greater
  | .greaterThanOrEqual => .relation .greaterOrEqual
  | .lessThan => .relation .less
  | .lessThanOrEqual => .relation .lessOrEqual
  | .contains => .placement .anywhere false
  | .startsWith => .placement .atStart false
  | .endsWith => .placement .atEnd false
  | .doesNotContain => .placement .anywhere true
  | .doesNotStartWith => .placement .atStart true
  | .doesNotEndWith => .placement .atEnd true
  | .isNull => .presence true
  | .isNotNull => .presence false
  | .isTrue => .truth true
  | .isFalse => .truth false

/-- The test of a field that an operator and its argument ask for.  Errors call the operator by
the name that the rule uses. -/
def build (operator : Operator) (usedName : String) (leaf : Leaf) (argument : Option String) :
    Except RuleError Test :=
  match operator.kind with
  | .relation relation =>
      match argument with
      | none => Test.ofRelation relation usedName leaf
      | some text => Test.ofComparison relation usedName leaf text
  | .placement placement negated => Test.ofPlacement placement negated usedName leaf argument
  | .presence absent => .ok (Test.ofPresence absent leaf)
  | .truth expected => Test.ofTruth expected usedName leaf

end Operator

end RecordRules
