import RecordRules.Proofs.Record.Conformance
import RecordRules.Record.Document

/-!
# Documents addressed by keys

The type of a document is read off the document in one pass, and its values are put into
slots in another.  The two passes go over the members in the same order, so that looking
for a key among the fields gives the slot of the key's value.  A path resolves in the type
of a document exactly if its segments, taken as keys one after another, lead through
objects to a value of the document, and that value is what is read.
-/

namespace RecordRules

namespace Json

/-- The value of a key; only objects have keys. -/
def member? : Json → (key : String) → Option Json
  | .object members, key => lookup key members
  | _, _ => none

/-- The value that is reached by keys, each looked up in the value before it. -/
def at? (document : Json) : List String → Option Json
  | [] => some document
  | key :: rest => (document.member? key).bind (·.at? rest)

@[simp] theorem at?_nil (document : Json) : document.at? [] = some document := rfl

@[simp] theorem at?_cons (document : Json) (key : String) (rest : List String) :
    document.at? (key :: rest) = (document.member? key).bind (·.at? rest) := rfl

theorem exists_object_of_member? {document value : Json} {key : String}
    (found : document.member? key = some value) : ∃ members, document = .object members := by
  cases document with
  | object members => exact ⟨members, rfl⟩
  | _ => cases found

def fieldOf (key : String) (value : Json) : Field FieldType :=
  { name := key, type := value.fieldType, nullable := true, readable := true }

/-! ## Fields and values in step -/

section Members

variable {key : String} {members : List (String × Json)}

theorem lookup_cons_self (value : Json) : lookup key ((key, value) :: members) = some value := by
  simp [lookup]

theorem lookup_cons_of_ne {other : String} (different : other ≠ key) (value : Json) :
    lookup key ((other, value) :: members) = lookup key members := by
  simp [lookup, different]

/-- The first field of a key stands where the first value of the key does. -/
theorem exists_findFrom_of_lookup {value : Json} (found : lookup key members = some value)
    (start : Nat) :
    ∃ offset, RecordType.findFrom key start (fieldsOf members) =
        some (start + offset, fieldOf key value) ∧
      (valuesOf members).getD offset .null = value.fieldValue := by
  -- The fields and the values go over the members in step, so that one offset serves both.
  induction members generalizing start with
  | nil => cases found
  | cons member rest ih =>
      obtain ⟨other, held⟩ := member
      by_cases same : other = key
      · subst same
        rw [lookup_cons_self] at found
        obtain rfl := Option.some.inj found
        refine ⟨0, ?_, rfl⟩
        rw [fieldsOf, RecordType.findFrom, if_pos rfl]
        rfl
      · rw [lookup_cons_of_ne same] at found
        obtain ⟨offset, first, stands⟩ := ih found (start + 1)
        refine ⟨offset + 1, ?_, stands⟩
        rw [fieldsOf, RecordType.findFrom, if_neg same, first]
        congr 2
        omega

theorem findFrom_of_lookup_eq_none (missing : lookup key members = none) (start : Nat) :
    RecordType.findFrom key start (fieldsOf members) = none := by
  induction members generalizing start with
  | nil => rfl
  | cons member rest ih =>
      obtain ⟨other, held⟩ := member
      by_cases same : other = key
      · subst same
        rw [lookup_cons_self] at missing
        cases missing
      · rw [lookup_cons_of_ne same] at missing
        rw [fieldsOf, RecordType.findFrom, if_neg same]
        exact ih missing (start + 1)

end Members

section Fields

variable {document : Json} {key : String}

theorem exists_readable?_of_member? {value : Json} (found : document.member? key = some value) :
    ∃ slot, document.record.type.readable? key = some (slot, fieldOf key value) ∧
      document.record.value.slot slot = value.fieldValue := by
  obtain ⟨members, rfl⟩ := exists_object_of_member? found
  obtain ⟨offset, first, stands⟩ := exists_findFrom_of_lookup found 0
  rw [Nat.zero_add] at first
  refine ⟨offset, ?_, stands⟩
  have found : (Json.object members).record.type.find? key = some (offset, fieldOf key value) :=
    first
  rw [RecordType.readable?, found]
  rfl

theorem find?_of_member?_eq_none (missing : document.member? key = none) :
    document.record.type.find? key = none := by
  cases document with
  | object members => exact findFrom_of_lookup_eq_none missing 0
  | _ => rfl

theorem exists_member?_of_readable? {slot : Nat} {field : Field FieldType}
    (found : document.record.type.readable? key = some (slot, field)) :
    ∃ value, document.member? key = some value ∧ field = fieldOf key value ∧
      document.record.value.slot slot = value.fieldValue := by
  cases looked : document.member? key with
  | none =>
      rw [RecordType.readable?, find?_of_member?_eq_none looked] at found
      cases found
  | some value =>
      obtain ⟨other, first, stands⟩ := exists_readable?_of_member? looked
      rw [first] at found
      obtain ⟨rfl, rfl⟩ := Prod.mk.inj (Option.some.inj found)
      exact ⟨value, rfl, rfl, stands⟩

theorem record?_fieldType_eq_some_iff {catalog : Catalog} {value : Json} {inner : RecordType} :
    value.fieldType.record? catalog = some inner ↔
      ∃ members, value = .object members ∧ inner = value.record.type := by
  cases value with
  | object members =>
      constructor
      · intro refers
        exact ⟨members, rfl, (Option.some.inj refers).symm⟩
      · rintro ⟨_, -, rfl⟩
        rfl
  | _ => simp [fieldType, FieldType.record?]

theorem fieldValue_object (members : List (String × Json)) :
    (Json.object members).fieldValue = (Json.object members).record.value := rfl

end Fields

/-! ## Values and their types -/

theorem fieldValue_eq_null_iff {value : Json} : value.fieldValue = .null ↔ value = .null := by
  cases value <;> simp [fieldValue]

theorem nullable_of_fieldsOf {members : List (String × Json)} {slot : Nat}
    {field : Field FieldType} (stands : (fieldsOf members)[slot]? = some field) :
    field.nullable = true := by
  induction members generalizing slot with
  | nil => cases stands
  | cons member rest ih =>
      cases slot with
      | zero =>
          obtain rfl := Option.some.inj stands
          rfl
      | succ slot => exact ih stands

variable (catalog : Catalog)

mutual

theorem suits_fieldType : (value : Json) → value ≠ .null →
    value.fieldValue.Suits FieldType.Holds catalog value.fieldType
  | .null, present => absurd rfl present
  | .bool _, _ => .plain rfl trivial
  | .number _, _ => .plain rfl trivial
  | .text _, _ => .plain rfl trivial
  | .list _, _ => .plain rfl trivial
  | .object members, _ =>
      .record rfl <| .slots (fun _ _ stands _ => nullable_of_fieldsOf stands)
        (fun _ _ stands present => suits_fieldsOf members stands present)

theorem suits_fieldsOf : (members : List (String × Json)) → {slot : Nat} →
    {field : Field FieldType} → (fieldsOf members)[slot]? = some field →
    (valuesOf members).getD slot .null ≠ .null →
    ((valuesOf members).getD slot .null).Suits FieldType.Holds catalog field.type
  | [], _, _, stands, _ => by cases stands
  | (_, value) :: _, 0, _, stands, present => by
      obtain rfl := Option.some.inj stands
      have there : value ≠ .null := fun absent => present (fieldValue_eq_null_iff.mpr absent)
      exact suits_fieldType value there
  | _ :: rest, _ + 1, _, stands, present => suits_fieldsOf rest stands present

end

end Json

/-! ## Paths as keys -/

/-- What a leaf says of the value that it leads to in a document. -/
structure Leaf.LeadsTo (leaf : Leaf) (document value : Json) : Prop where
  read_eq : leaf.read document.record = value.fieldValue
  type_eq : leaf.type = value.fieldType
  nullable : leaf.nullable = true
  unbroken : ¬ leaf.BreaksOff document.record

section Addressing

variable {catalog : Catalog} {path : String}

/-- A walk through the type of a document leads to the value at its segments. -/
theorem Walks.exists_at? {type : RecordType} {keys : List String} {leaf : Leaf}
    (walks : Walks catalog path type keys leaf) {document : Json}
    (typed : type = document.record.type) :
    ∃ value, document.at? keys = some value ∧ leaf.LeadsTo document value := by
  induction walks generalizing document with
  | last found =>
      subst typed
      obtain ⟨value, looked, rfl, reads⟩ := Json.exists_member?_of_readable? found
      refine ⟨value, by simp [looked], ?_⟩
      exact ⟨reads, rfl, rfl, Value.BreaksOff.not_singleton⟩
  | @into type inner key next rest slot field leaf found enters onward ih =>
      subst typed
      obtain ⟨held, looked, rfl, reads⟩ := Json.exists_member?_of_readable? found
      obtain ⟨members, rfl, innerType⟩ := Json.record?_fieldType_eq_some_iff.mp enters
      obtain ⟨value, reached, leads⟩ := ih innerType
      -- What stands in the slot is the object itself, from which the rest of the walk starts.
      rw [Json.fieldValue_object] at reads
      refine ⟨value, ?_, ?_, leads.type_eq, leads.nullable, ?_⟩
      · rw [Json.at?_cons, looked]
        exact reached
      · have below := leads.read_eq
        simp only [Leaf.read, Value.follow_cons, reads] at below ⊢
        exact below
      · intro breaks
        obtain ⟨-, absent | later⟩ := Value.BreaksOff.cons_iff.mp breaks
        · rw [reads] at absent
          cases absent
        · rw [reads] at later
          exact leads.unbroken later

/-- The keys of a value in a document are the segments of a walk. -/
theorem Json.exists_walks_of_at? {key : String} {rest : List String} {document value : Json}
    (reached : document.at? (key :: rest) = some value) :
    ∃ leaf, Walks catalog path document.record.type (key :: rest) leaf := by
  induction rest generalizing document key with
  | nil =>
      obtain ⟨held, looked, -⟩ := Option.bind_eq_some_iff.mp reached
      obtain ⟨slot, found, -⟩ := exists_readable?_of_member? looked
      exact ⟨_, .last found⟩
  | cons next rest ih =>
      obtain ⟨held, looked, onward⟩ := Option.bind_eq_some_iff.mp reached
      obtain ⟨inner, member, -⟩ := Option.bind_eq_some_iff.mp onward
      obtain ⟨members, rfl⟩ := exists_object_of_member? member
      obtain ⟨slot, found, -⟩ := exists_readable?_of_member? looked
      obtain ⟨leaf, walks⟩ := ih onward
      exact ⟨_, .into found rfl walks⟩

end Addressing

/-- A path resolves in the type of a document exactly if its segments, looked up as keys one
after another, lead to a value.  That value is what is read, in a nullable field of its type. -/
theorem Json.resolve_iff_at? (catalog : Catalog) (document : Json) (path : String) :
    let schema : Schema := ⟨catalog, document.record.type⟩
    ((∃ leaf, schema.resolve path = .ok leaf) ↔
      ∃ value, document.at? (segments path) = some value) ∧
    ∀ leaf value, schema.resolve path = .ok leaf → document.at? (segments path) = some value →
      leaf.LeadsTo document value ∧
      (match value with
        | .null => leaf.read document.record = .null ∧ leaf.type = .scalar .text
        | .bool held => leaf.read document.record = .bool held ∧ leaf.type = .scalar .bool
        | .number held => leaf.read document.record = .float held ∧ leaf.type = .scalar .float64
        | .text held => leaf.read document.record = .text held ∧ leaf.type = .scalar .text
        | .list _ => leaf.read document.record = .other ∧ leaf.type = .other "array"
        | .object members =>
            leaf.read document.record = (Json.object members).record.value ∧
              leaf.type = .inline documentTypeName (fieldsOf members)) ∧
      (leaf.read document.record ≠ .null →
        (leaf.read document.record).Suits FieldType.Holds catalog leaf.type) := by
  intro schema
  constructor
  · constructor
    · rintro ⟨leaf, resolved⟩
      obtain ⟨value, reached, -⟩ := (Schema.resolve_eq_ok_iff.mp resolved).exists_at? rfl
      exact ⟨value, reached⟩
    · rintro ⟨value, reached⟩
      cases split : segments path with
      | nil => exact absurd split (segments_ne_nil path)
      | cons key rest =>
          rw [split] at reached
          obtain ⟨leaf, walks⟩ := exists_walks_of_at? reached
          refine ⟨leaf, Schema.resolve_eq_ok_iff.mpr ?_⟩
          rw [split]
          exact walks
  · intro leaf value resolved reached
    obtain ⟨other, reachedToo, leads⟩ := (Schema.resolve_eq_ok_iff.mp resolved).exists_at? rfl
    obtain rfl := Option.some.inj (reached.symm.trans reachedToo)
    refine ⟨leads, ?_, ?_⟩
    · cases value with
      | _ => exact ⟨leads.read_eq, leads.type_eq⟩
    · intro present
      rw [leads.read_eq, leads.type_eq]
      rw [leads.read_eq] at present
      exact suits_fieldType catalog value (fieldValue_eq_null_iff.not.mp present)

/-- A nested object is read by its keys, past a key that has a dot in it. -/
theorem Json.resolve_beside_dotted_key :
    let inner : Json := .object [("c", .text "x")]
    let document : Json := .object [("a", .object [("b", inner)]), ("a.b", .list [])]
    let schema : Schema := ⟨fun _ => default, document.record.type⟩
    let leaf : Leaf :=
      ⟨"a.b", documentTypeName, inner.fieldType, documentTypeName, true, true, [0, 0]⟩
    schema.resolve "a.b" = .ok leaf ∧
      document.at? (segments "a.b") = some inner ∧
      leaf.LeadsTo document inner ∧
      leaf.read document.record = inner.record.value := by
  intro inner document schema leaf
  have resolved : schema.resolve "a.b" = .ok leaf := rfl
  have reached : document.at? (segments "a.b") = some inner := rfl
  obtain ⟨-, answers⟩ := Json.resolve_iff_at? (fun _ => default) document "a.b"
  obtain ⟨leads, object, -⟩ := answers leaf inner resolved reached
  exact ⟨resolved, reached, leads, object.1⟩

end RecordRules
