import RecordRules.Record.Path

/-!
# Walks along paths

A path resolves exactly if there is a walk along its segments: every segment picks the
first field of its name, that field is readable, and every segment but the last leads into
a record.  The walk says all that resolving a path can do, so that properties of resolved
fields are shown by induction over the walk.  Reading along the slots of a walk may break
off where a record on the way is absent.
-/

namespace RecordRules

namespace RecordType

theorem exists_of_findFrom {name : String} {start slot : Nat} {field : Field FieldType}
    {fields : List (Field FieldType)} (found : findFrom name start fields = some (slot, field)) :
    ∃ offset, slot = start + offset ∧ fields[offset]? = some field ∧ field.name = name := by
  induction fields generalizing start with
  | nil => cases found
  | cons first rest ih =>
      by_cases named : first.name = name
      · rw [findFrom, if_pos named] at found
        obtain ⟨rfl, rfl⟩ := Prod.mk.inj (Option.some.inj found)
        exact ⟨0, rfl, rfl, named⟩
      · rw [findFrom, if_neg named] at found
        obtain ⟨offset, slotEq, stands, named⟩ := ih found
        exact ⟨offset + 1, by omega, stands, named⟩

theorem readable?_sound {type : RecordType} {name : String} {slot : Nat}
    {field : Field FieldType} (found : type.readable? name = some (slot, field)) :
    type.fields[slot]? = some field ∧ field.readable = true ∧ field.name = name := by
  obtain ⟨first, readable⟩ := Option.filter_eq_some_iff.mp found
  obtain ⟨offset, slotEq, stands, named⟩ := exists_of_findFrom first
  rw [Nat.zero_add] at slotEq
  exact ⟨slotEq ▸ stands, readable, named⟩

end RecordType

theorem segments_ne_nil (path : String) : segments path ≠ [] := by
  simp [segments, List.splitOn_ne_nil]

/-- The walks from a record type along segments, with the leaf that they end at. -/
inductive Walks (catalog : Catalog) (path : String) :
    RecordType → List String → Leaf → Prop where
  | last {type : RecordType} {segment : String} {slot : Nat} {field : Field FieldType}
      (found : type.readable? segment = some (slot, field)) :
      Walks catalog path type [segment]
        { path, owner := type.name, type := field.type
          typeName := field.type.name catalog, nullable := field.nullable
          nullableParent := false, slots := [slot] }
  | into {type inner : RecordType} {segment next : String} {rest : List String} {slot : Nat}
      {field : Field FieldType} {leaf : Leaf}
      (found : type.readable? segment = some (slot, field))
      (enters : field.type.record? catalog = some inner)
      (onward : Walks catalog path inner (next :: rest) leaf) :
      Walks catalog path type (segment :: next :: rest)
        { leaf with
          nullableParent := field.nullable || leaf.nullableParent
          slots := slot :: leaf.slots }

namespace Schema

variable {catalog : Catalog} {path : String}

theorem walks_of_walk {type : RecordType} {segment : String} {rest : List String} {leaf : Leaf}
    (walked : walk catalog path type segment rest = .ok leaf) :
    Walks catalog path type (segment :: rest) leaf := by
  induction rest generalizing type segment leaf with
  | nil =>
      cases found : type.readable? segment with
      | none => simp [walk, found] at walked
      | some pair =>
          obtain ⟨slot, field⟩ := pair
          simp only [walk, found] at walked
          obtain rfl := Except.ok.inj walked
          exact .last found
  | cons next rest ih =>
      cases found : type.readable? segment with
      | none => simp [walk, found] at walked
      | some pair =>
          obtain ⟨slot, field⟩ := pair
          cases enters : field.type.record? catalog with
          | none => simp [walk, found, enters] at walked
          | some inner =>
              cases onward : walk catalog path inner next rest with
              | error error => simp [walk, found, enters, onward] at walked
              | ok below =>
                  simp only [walk, found, enters, onward] at walked
                  obtain rfl := Except.ok.inj walked
                  exact .into found enters (ih onward)

theorem resolve_of_segments {schema : Schema} {segment : String} {rest : List String}
    (split : segments path = segment :: rest) :
    schema.resolve path = walk schema.catalog path schema.root segment rest := by
  simp only [resolve, split]

theorem walk_of_walks {type : RecordType} {segment : String} {rest : List String} {leaf : Leaf}
    (walks : Walks catalog path type (segment :: rest) leaf) :
    walk catalog path type segment rest = .ok leaf := by
  induction rest generalizing type segment leaf with
  | nil =>
      cases walks with
      | last found => simp only [walk, found]
  | cons next rest ih =>
      cases walks with
      | into found enters onward => simp only [walk, found, enters, ih onward]

/-- A path resolves to a leaf exactly if a walk along its segments ends there. -/
theorem resolve_eq_ok_iff {schema : Schema} {leaf : Leaf} :
    schema.resolve path = .ok leaf ↔
      Walks schema.catalog path schema.root (segments path) leaf := by
  cases split : segments path with
  | nil =>
      constructor
      · intro resolved
        simp [resolve, split] at resolved
      · intro walks
        cases walks
  | cons segment rest =>
      rw [resolve_of_segments split]
      exact ⟨walks_of_walk, walk_of_walks⟩

end Schema

/-! ## Absent records on the way -/

/-- Whether a value behind the start of a chain of slots and before its end is absent. -/
def Value.BreaksOff (value : Value) (slots : List Nat) : Prop :=
  ∃ before after, slots = before ++ after ∧ before ≠ [] ∧ after ≠ [] ∧
    value.follow before = .null

/-- Whether a record on the way to a leaf is absent. -/
def Leaf.BreaksOff (leaf : Leaf) (record : Record) : Prop :=
  record.value.BreaksOff leaf.slots

namespace Value.BreaksOff

variable {value : Value}

/-- A chain breaks off at its first value or behind it. -/
theorem cons_iff {index : Nat} {rest : List Nat} :
    value.BreaksOff (index :: rest) ↔
      rest ≠ [] ∧ (value.slot index = .null ∨ (value.slot index).BreaksOff rest) := by
  constructor
  · rintro ⟨before, after, split, behind, ahead, absent⟩
    cases before with
    | nil => exact absurd rfl behind
    | cons first before =>
        obtain ⟨rfl, rfl⟩ := List.cons.inj split
        refine ⟨by simp [ahead], ?_⟩
        cases before with
        | nil => exact .inl absent
        | cons second before =>
            exact .inr ⟨second :: before, after, rfl, List.cons_ne_nil _ _, ahead, absent⟩
  · rintro ⟨goesOn, absent | ⟨before, after, rfl, -, ahead, absent⟩⟩
    · exact ⟨[index], rest, rfl, List.cons_ne_nil _ _, goesOn, absent⟩
    · exact ⟨index :: before, after, rfl, List.cons_ne_nil _ _, ahead, absent⟩

@[simp] theorem not_singleton {index : Nat} : ¬ value.BreaksOff [index] := by
  simp [cons_iff]

theorem follow_eq_null {slots : List Nat} (breaks : value.BreaksOff slots) :
    value.follow slots = .null := by
  obtain ⟨before, after, rfl, -, -, absent⟩ := breaks
  rw [follow_append, absent, null_follow]

end Value.BreaksOff

theorem Walks.slots_ne_nil {catalog : Catalog} {path : String} {type : RecordType}
    {segments : List String} {leaf : Leaf} (walks : Walks catalog path type segments leaf) :
    leaf.slots ≠ [] := by
  cases walks with
  | last _ => exact List.cons_ne_nil _ _
  | into _ _ _ => exact List.cons_ne_nil _ _

end RecordRules
