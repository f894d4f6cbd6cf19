import RecordRules.Json.Document
import RecordRules.Record.Value

/-!
# JSON documents as records

A document is a record whose type is read off its own values.  Every field is nullable;
absent values count as texts, numbers are floating-point numbers, lists can only be
seen to be present, and objects are nested records written out in place.  A document
that is no object is a record without fields.
-/

namespace RecordRules.Json

def documentTypeName : String := "JsonObject"

mutual

def fieldType : Json → FieldType
  | .null => .scalar .text
  | .bool _ => .scalar .bool
  | .number _ => .scalar .float64
  | .text _ => .scalar .text
  | .list _ => .other "array"
  | .object members => .inline documentTypeName (fieldsOf members)

def fieldsOf : List (String × Json) → List (Field FieldType)
  | [] => []
  | (key, value) :: rest =>
      { name := key, type := fieldType value, nullable := true, readable := true }
        :: fieldsOf rest

end

mutual

def fieldValue : Json → Value
  | .null => .null
  | .bool value => .bool value
  | .number value => .float value
  | .text value => .text value
  | .list _ => .other
  | .object members => .record ⟨documentTypeName, fieldsOf members⟩ (valuesOf members)

def valuesOf : List (String × Json) → List Value
  | [] => []
  | (_, value) :: rest => fieldValue value :: valuesOf rest

end

/-- The members of an object; other documents have none. -/
def membersOf : Json → List (String × Json)
  | .object members => members
  | _ => []

def record (document : Json) : Record :=
  { type := ⟨documentTypeName, fieldsOf document.membersOf⟩
    slots := valuesOf document.membersOf }

end RecordRules.Json
