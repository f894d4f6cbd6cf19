/-!
# Record types

A record type has a name and a list of fields; the place of a field in the list is its
slot.  A field holds a scalar, another record, or a value that rules cannot look into.
The type of a nested record is either declared in a catalog under a key, so that types
may refer to themselves, or written out in place.
-/

namespace RecordRules

inductive Width where
  | bits8
  | bits16
  | bits32
  | bits64
deriving DecidableEq, Repr

def Width.bits : Width → Nat
  | .bits8 => 8
  | .bits16 => 16
  | .bits32 => 32
  | .bits64 => 64

/-- The types of values that can be compared with a constant. -/
inductive Scalar where
  | bool
  | signed (width : Width)
  | unsigned (width : Width)
  | float32
  | float64
  | decimal
  | text
  | dateTime
  | date
  | uuid
deriving DecidableEq, Repr, Inhabited

def Scalar.name : Scalar → String
  | .bool => "bool"
  | .signed width => s!"i{width.bits}"
  | .unsigned width => s!"u{width.bits}"
  | .float32 => "f32"
  | .float64 => "f64"
  | .decimal => "Decimal"
  | .text => "String"
  | .dateTime => "DateTime"
  | .date => "Date"
  | .uuid => "Uuid"

/-- A named place of a record. -/
structure Field (type : Type) where
  name : String
  type : type
  /-- Whether the value may be absent. -/
  nullable : Bool
  /-- Whether rules may read the value; a field that may only be written keeps its slot. -/
  readable : Bool
deriving Inhabited

/-- The types of fields. -/
inductive FieldType where
  | scalar (type : Scalar)
  /-- A record of the type that the catalog declares under a key. -/
  | declared (key : String)
  /-- A record of a type that is written out. -/
  | inline (name : String) (fields : List (Field FieldType))
  /-- A value that can only be present or absent. -/
  | other (name : String)
deriving Inhabited

/-- A record type: its name and its fields by slot. -/
structure RecordType where
  name : String
  fields : List (Field FieldType)
deriving Inhabited

/-- The declared record types by key. -/
abbrev Catalog := String → RecordType

namespace FieldType

/-- The record type to descend into, if the field holds a record. -/
def record? (catalog : Catalog) : FieldType → Option RecordType
  | .declared key => some (catalog key)
  | .inline name fields => some ⟨name, fields⟩
  | _ => none

def scalar? : FieldType → Option Scalar
  | .scalar type => some type
  | _ => none

def name (catalog : Catalog) : FieldType → String
  | .scalar type => type.name
  | .declared key => (catalog key).name
  | .inline name _ => name
  | .other name => name

end FieldType

namespace RecordType

def findFrom (name : String) (slot : Nat) :
    List (Field FieldType) → Option (Nat × Field FieldType)
  | [] => none
  | field :: rest => if field.name = name then some (slot, field) else findFrom name (slot + 1) rest

def find? (type : RecordType) (name : String) : Option (Nat × Field FieldType) :=
  findFrom name 0 type.fields

/-- The first field of a name with its slot, if that field is readable. -/
def readable? (type : RecordType) (name : String) : Option (Nat × Field FieldType) :=
  (type.find? name).filter (·.2.readable)

end RecordType

end RecordRules
