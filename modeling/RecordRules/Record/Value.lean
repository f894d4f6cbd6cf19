import RecordRules.Calendar.DateTime
import RecordRules.Number.Decimal
import RecordRules.Number.DoubleText
import RecordRules.Record.Type
import RecordRules.Text.Quoted
import RecordRules.Uuid

/-!
# Record values

The values found in the slots of records.  A value is read along a chain of slots; a
slot past the end is absent, and so is everything below an absent record.
-/

namespace RecordRules

inductive Value where
  | null
  | bool (value : Bool)
  | signed (value : Int)
  | unsigned (value : Nat)
  | float (value : Double)
  | decimal (value : Decimal)
  | text (value : String)
  | dateTime (value : DateTime)
  | date (value : Date)
  | uuid (value : Uuid)
  /-- A record with its type and its values by slot. -/
  | record (type : RecordType) (slots : List Value)
  /-- A value that can only be seen to be present. -/
  | other
deriving Inhabited

structure Record where
  type : RecordType
  slots : List Value
deriving Inhabited

def Record.value (record : Record) : Value :=
  .record record.type record.slots

namespace Value

def isNull : Value → Bool
  | .null => true
  | _ => false

/-- The value in a slot of a record; a value that is no record has only absent slots. -/
def slot (value : Value) (index : Nat) : Value :=
  match value with
  | .record _ slots => slots.getD index .null
  | _ => .null

/-- The value at the end of a chain of slots. -/
def follow (value : Value) : List Nat → Value
  | [] => value
  | index :: rest => (value.slot index).follow rest

@[simp] theorem follow_nil (value : Value) : value.follow [] = value := rfl

@[simp] theorem follow_cons (value : Value) (index : Nat) (rest : List Nat) :
    value.follow (index :: rest) = (value.slot index).follow rest := rfl

@[simp] theorem null_follow (slots : List Nat) : null.follow slots = null := by
  induction slots with
  | nil => rfl
  | cons index rest ih => exact ih

theorem follow_append (value : Value) (first second : List Nat) :
    value.follow (first ++ second) = (value.follow first).follow second := by
  induction first generalizing value with
  | nil => rfl
  | cons index rest ih => exact ih (value.slot index)

def describe : Value → String
  | .null => "Null"
  | .bool value => s!"Bool({value})"
  | .signed value => s!"Int({String.ofList (Text.integerDigits value)})"
  | .unsigned value => s!"UInt({String.ofList (Text.decimalDigits value)})"
  | .float value => s!"Float({String.ofList (DoubleStyle.plain.write value)})"
  | .decimal value => s!"Decimal({String.ofList value.write})"
  | .text value => s!"Str({Text.quote value})"
  | .dateTime value => s!"DateTime({String.ofList value.write})"
  | .date value => s!"Date({String.ofList value.write})"
  | .uuid value => s!"Uuid({String.ofList value.write})"
  | .record type _ => s!"Object({type.name})"
  | .other => "Opaque"

end Value

end RecordRules
