import RecordRules.Literal
import RecordRules.Proofs.Number.Order

/-!
# Kinds of values

Field types, values and literals are sorted into the same kinds: the widths of numbers
and the signs of integers make no difference.  A literal that is read for a type is of the
type's kind, and a value can be compared with a literal exactly if both are of one kind and
neither is NaN.
-/

namespace RecordRules

/-- What sorts of constants values are compared with. -/
inductive ValueKind where
  | bool
  | integer
  | float
  | decimal
  | text
  | dateTime
  | date
  | uuid
deriving DecidableEq, Repr

def Scalar.kind : Scalar → ValueKind
  | .bool => .bool
  | .signed _ | .unsigned _ => .integer
  | .float32 | .float64 => .float
  | .decimal => .decimal
  | .text => .text
  | .dateTime => .dateTime
  | .date => .date
  | .uuid => .uuid

def Literal.kind : Literal → ValueKind
  | .bool _ => .bool
  | .signed _ | .unsigned _ => .integer
  | .float _ => .float
  | .decimal _ => .decimal
  | .text _ => .text
  | .dateTime _ => .dateTime
  | .date _ => .date
  | .uuid _ => .uuid

/-- The kind of a value; absent values, records and values that stay closed have none. -/
def Value.kind? : Value → Option ValueKind
  | .bool _ => some .bool
  | .signed _ | .unsigned _ => some .integer
  | .float _ => some .float
  | .decimal _ => some .decimal
  | .text _ => some .text
  | .dateTime _ => some .dateTime
  | .date _ => some .date
  | .uuid _ => some .uuid
  | .null | .record _ _ | .other => none

theorem Scalar.kind_of_parse? {type : Scalar} {text : List Char} {literal : Literal}
    (parsed : type.parse? text = some literal) : literal.kind = type.kind := by
  cases type with
  | text =>
      obtain rfl := Option.some.inj parsed
      rfl
  | _ =>
      obtain ⟨_, _, rfl⟩ := Option.map_eq_some_iff.mp parsed
      rfl

theorem Scalar.kind_of_read? {type : Scalar} {text : String} {literal : Literal}
    (read : type.read? text = some literal) : literal.kind = type.kind := by
  cases type with
  | text =>
      obtain rfl := Option.some.inj read
      rfl
  | _ => exact kind_of_parse? read

/-- Literals other than texts are read from what an argument has between its blanks. -/
theorem Scalar.read?_eq_parse? {type : Scalar} (notText : type ≠ .text) (argument : String) :
    type.read? argument = type.parse? (Text.trim argument.toList) := by
  cases type with
  | text => exact absurd rfl notText
  | _ => rfl

theorem Scalar.ne_empty_of_read? {type : Scalar} {text : String} {literal : Literal}
    (quoted : type.kind ≠ .text) (read : type.read? text = some literal) : text ≠ "" := by
  rintro rfl
  cases type with
  | text => exact absurd rfl quoted
  | _ => cases read

/-- Values and literals without an order differ in kind, or one of them is NaN. -/
theorem Literal.order?_eq_none_iff (literal : Literal) (value : Value) :
    literal.order? value = none ↔
      value.kind? ≠ some literal.kind ∨ value = .float .nan ∨ literal = .float .nan := by
  cases value <;> cases literal <;>
    simp [order?, Value.kind?, kind, Double.order?_eq_none_iff]

end RecordRules
