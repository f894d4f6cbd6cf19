import RecordRules.Record.Value
import RecordRules.RuleError

/-!
# Paths into records

A path is a text of field names with dots between them.  Resolving it walks the record
types from a root: each segment picks the first field of its name, which has to be
readable, and each segment but the last has to lead to a record.  The result does not
depend on any record, only on the types.
-/

namespace RecordRules

/-- The record types a rule is applied to: a root and the catalog of declared types. -/
structure Schema where
  catalog : Catalog
  root : RecordType

/-- A field at the end of a path. -/
structure Leaf where
  path : String
  /-- The name of the record type that has the field. -/
  owner : String
  type : FieldType
  /-- The name under which the field's type is shown. -/
  typeName : String
  /-- Whether the field itself may be absent. -/
  nullable : Bool
  /-- Whether a record on the way to the field may be absent. -/
  nullableParent : Bool
  /-- The slots from the root to the field. -/
  slots : List Nat

/-- The pieces of a path between its dots; an empty path is one empty piece. -/
def segments (path : String) : List String :=
  (path.toList.splitOn '.').map String.ofList

namespace Schema

def walk (catalog : Catalog) (path : String) (type : RecordType) (segment : String) :
    (rest : List String) → Except RuleError Leaf
  | [] =>
      match type.readable? segment with
      | none => .error (.invalidPath path segment type.name)
      | some (slot, field) =>
          .ok
            { path, owner := type.name, type := field.type
              typeName := field.type.name catalog, nullable := field.nullable
              nullableParent := false, slots := [slot] }
  | next :: rest =>
      match type.readable? segment with
      | none => .error (.invalidPath path segment type.name)
      | some (slot, field) =>
          match field.type.record? catalog with
          | none => .error (.invalidPath path next (field.type.name catalog))
          | some inner =>
              match walk catalog path inner next rest with
              | .error error => .error error
              | .ok leaf =>
                  .ok
                    { leaf with
                      nullableParent := field.nullable || leaf.nullableParent
                      slots := slot :: leaf.slots }

def resolve (schema : Schema) (path : String) : Except RuleError Leaf :=
  match segments path with
  | [] => .error (.invalidPath path path schema.root.name)
  | segment :: rest => walk schema.catalog path schema.root segment rest

end Schema

def Leaf.read (leaf : Leaf) (record : Record) : Value :=
  record.value.follow leaf.slots

end RecordRules
