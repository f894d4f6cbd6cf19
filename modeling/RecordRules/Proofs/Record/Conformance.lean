import RecordRules.Proofs.Literal.Kind
import RecordRules.Proofs.Operator.Tests
import RecordRules.Proofs.Record.Walk

/-!
# Records that conform to their types

A record conforms to a type when every slot of the type is absent only if the field may
be, and otherwise holds what the field declares, down to all nested records.  What else is
asked of fields that hold no records is a parameter.  Reading along a resolved path keeps
to the types: the value is absent only if the field, or a record on the way to it, may be
absent, and a value that is present is one that the field declares.
-/

namespace RecordRules

section Conforming

variable (holds : FieldType → Value → Prop) (catalog : Catalog)

mutual

/-- The values that are present in a field of a type. -/
inductive Value.Suits : FieldType → Value → Prop where
  | plain {type : FieldType} {value : Value} (closed : type.record? catalog = none)
      (held : holds type value) : Suits type value
  | record {type : FieldType} {inner : RecordType} {value : Value}
      (refers : type.record? catalog = some inner) (conforms : Value.Conforms inner value) :
      Suits type value

/-- The records whose slots keep to the fields of a type. -/
inductive Value.Conforms : RecordType → Value → Prop where
  | slots {type own : RecordType} {slots : List Value}
      (absent : ∀ (slot : Nat) (field : Field FieldType), type.fields[slot]? = some field →
        slots.getD slot .null = .null → field.nullable = true)
      (present : ∀ (slot : Nat) (field : Field FieldType), type.fields[slot]? = some field →
        slots.getD slot .null ≠ .null → Value.Suits field.type (slots.getD slot .null)) :
      Conforms type (.record own slots)

end

end Conforming

section Reading

variable {holds : FieldType → Value → Prop} {catalog : Catalog}

namespace Value.Conforms

variable {type : RecordType} {value : Value} {slot : Nat} {field : Field FieldType}

theorem nullable_of_absent (conforms : value.Conforms holds catalog type)
    (stands : type.fields[slot]? = some field) (absent : value.slot slot = .null) :
    field.nullable = true := by
  cases conforms with
  | slots nullable _ => exact nullable slot field stands absent

/-- A slot that is not absent suits its field. -/
theorem suits_of_present (conforms : value.Conforms holds catalog type)
    (stands : type.fields[slot]? = some field) (present : value.slot slot ≠ .null) :
    (value.slot slot).Suits holds catalog field.type := by
  cases conforms with
  | slots _ suits => exact suits slot field stands present

end Value.Conforms

theorem Value.Suits.conforms {type : FieldType} {inner : RecordType} {value : Value}
    (suits : value.Suits holds catalog type) (refers : type.record? catalog = some inner) :
    value.Conforms holds catalog inner := by
  cases suits with
  | plain closed _ =>
      rw [refers] at closed
      cases closed
  | record refersTo conforms =>
      rw [refers] at refersTo
      obtain rfl := Option.some.inj refersTo
      exact conforms

theorem Value.Suits.holds_scalar {type : Scalar} {value : Value}
    (suits : value.Suits holds catalog (.scalar type)) : holds (.scalar type) value := by
  cases suits with
  | plain _ held => exact held
  | record refers _ => cases refers

namespace Walks

variable {path : String} {type : RecordType} {segments : List String} {leaf : Leaf}

theorem nullable_of_absent (walks : Walks catalog path type segments leaf) {value : Value}
    (conforms : value.Conforms holds catalog type) (absent : value.follow leaf.slots = .null) :
    leaf.nullable = true ∨ leaf.nullableParent = true := by
  induction walks generalizing value with
  | last found =>
      obtain ⟨stands, -, -⟩ := RecordType.readable?_sound found
      exact .inl (conforms.nullable_of_absent stands absent)
  | @into type inner segment next rest slot field leaf found enters onward ih =>
      obtain ⟨stands, -, -⟩ := RecordType.readable?_sound found
      -- Either the record on the way is absent, and its field may be, or the walk goes on in it.
      by_cases gone : value.slot slot = .null
      · right
        simp [conforms.nullable_of_absent stands gone]
      · have below := (conforms.suits_of_present stands gone).conforms enters
        rcases ih below absent with nullable | nullable
        · exact .inl nullable
        · right
          simp [nullable]

/-- A value that is present is one that its field declares. -/
theorem suits_of_present (walks : Walks catalog path type segments leaf) {value : Value}
    (conforms : value.Conforms holds catalog type) (present : value.follow leaf.slots ≠ .null) :
    (value.follow leaf.slots).Suits holds catalog leaf.type := by
  induction walks generalizing value with
  | last found =>
      obtain ⟨stands, -, -⟩ := RecordType.readable?_sound found
      exact conforms.suits_of_present stands present
  | @into type inner segment next rest slot field leaf found enters onward ih =>
      obtain ⟨stands, -, -⟩ := RecordType.readable?_sound found
      have here : value.slot slot ≠ .null := by
        intro gone
        apply present
        simp only [Value.follow_cons, gone, Value.null_follow]
      exact ih ((conforms.suits_of_present stands here).conforms enters) present

/-- Where a field is never absent, nothing is read only if a record on the way is absent. -/
theorem breaksOff_of_absent (walks : Walks catalog path type segments leaf)
    (never : leaf.nullable = false) {value : Value} (conforms : value.Conforms holds catalog type)
    (absent : value.follow leaf.slots = .null) : value.BreaksOff leaf.slots := by
  induction walks generalizing value with
  | last found =>
      obtain ⟨stands, -, -⟩ := RecordType.readable?_sound found
      rw [conforms.nullable_of_absent stands absent] at never
      cases never
  | @into type inner segment next rest slot field leaf found enters onward ih =>
      obtain ⟨stands, -, -⟩ := RecordType.readable?_sound found
      rw [Value.BreaksOff.cons_iff]
      refine ⟨onward.slots_ne_nil, ?_⟩
      by_cases gone : value.slot slot = .null
      · exact .inl gone
      · have below := (conforms.suits_of_present stands gone).conforms enters
        exact .inr (ih never below absent)

theorem nullableParent_of_breaksOff (walks : Walks catalog path type segments leaf)
    {value : Value} (conforms : value.Conforms holds catalog type)
    (breaks : value.BreaksOff leaf.slots) : leaf.nullableParent = true := by
  induction walks generalizing value with
  | last found => exact absurd breaks Value.BreaksOff.not_singleton
  | @into type inner segment next rest slot field leaf found enters onward ih =>
      obtain ⟨stands, -, -⟩ := RecordType.readable?_sound found
      by_cases gone : value.slot slot = .null
      · simp [conforms.nullable_of_absent stands gone]
      · have below := (conforms.suits_of_present stands gone).conforms enters
        obtain ⟨-, absent | later⟩ := Value.BreaksOff.cons_iff.mp breaks
        · exact absurd absent gone
        · simp [ih below later]

end Walks

end Reading

/-! ## Values of the declared kinds -/

/-- The values that a scalar type declares; integers lie within their width. -/
def Scalar.Holds : Scalar → Value → Prop
  | .bool, .bool _ => True
  | .signed width, .signed n =>
      -(twoTo (width.bits - 1) : Int) ≤ n ∧ n < twoTo (width.bits - 1)
  | .unsigned width, .unsigned n => n < twoTo width.bits
  | .float32, .float _ => True
  | .float64, .float _ => True
  | .decimal, .decimal _ => True
  | .text, .text _ => True
  | .dateTime, .dateTime _ => True
  | .date, .date _ => True
  | .uuid, .uuid _ => True
  | _, _ => False

/-- The values that a field type declares, unless it refers to a record type. -/
def FieldType.Holds : FieldType → Value → Prop
  | .scalar type, value => type.Holds value
  | .other _, .other => True
  | _, _ => False

/-- Whether a record has the kinds of values that a schema declares, at every depth. -/
def Record.ConformsTo (record : Record) (schema : Schema) : Prop :=
  record.value.Conforms FieldType.Holds schema.catalog schema.root

theorem Scalar.Holds.kind? {type : Scalar} {value : Value} (held : type.Holds value) :
    value.kind? = some type.kind := by
  revert held
  cases type <;> cases value <;> simp [Scalar.Holds, Value.kind?, Scalar.kind]

/-- Reading a conforming record along a resolved path gives a value that the field declares, or
nothing where the field or a record on the way may be absent. -/
theorem Record.ConformsTo.read_sound {schema : Schema} {record : Record}
    (conforms : record.ConformsTo schema) {path : String} {leaf : Leaf}
    (resolved : schema.resolve path = .ok leaf) :
    (leaf.read record = .null ∨
      (leaf.read record).Suits FieldType.Holds schema.catalog leaf.type) ∧
    (leaf.read record = .null → leaf.nullable = true ∨ leaf.nullableParent = true) ∧
    ∀ (operator : Operator) (usedName : String) (argument : Option String)
      (relation : Relation) (literal : Literal),
      operator.build usedName leaf argument = .ok (.compare relation literal) →
      literal.order? (leaf.read record) = none →
      leaf.read record = .null ∨ leaf.read record = .float .nan ∨ literal = .float .nan := by
  have walks := Schema.resolve_eq_ok_iff.mp resolved
  have suits : leaf.read record ≠ .null →
      (leaf.read record).Suits FieldType.Holds schema.catalog leaf.type :=
    fun present => walks.suits_of_present conforms present
  refine ⟨?_, fun absent => walks.nullable_of_absent conforms absent, ?_⟩
  · by_cases absent : leaf.read record = .null
    · exact .inl absent
    · exact .inr (suits absent)
  · intro operator usedName argument relation literal built unordered
    by_cases absent : leaf.read record = .null
    · exact .inl absent
    · right
      cases Operator.madeFor_of_build built with
      | compare _ typed read =>
          have held := typed ▸ suits absent
          have kinds : (leaf.read record).kind? = some literal.kind := by
            rw [Scalar.kind_of_read? read]
            exact held.holds_scalar.kind?
          rcases (literal.order?_eq_none_iff _).mp unordered with differ | nan
          · exact absurd kinds differ
          · exact nan

/-- The second node of a chain, whose type refers to itself, is read for an integer. -/
theorem Record.ConformsTo.read_sound_next_value :
    let node : RecordType := ⟨"Node", [⟨"Value", .scalar (.signed .bits32), false, true⟩,
      ⟨"Next", .declared "Node", true, true⟩]⟩
    let schema : Schema := ⟨fun _ => node, node⟩
    let record : Record := ⟨node, [.signed (-5), .record node [.signed 7, .null]]⟩
    let leaf : Leaf := ⟨"Next.Value", "Node", .scalar (.signed .bits32), "i32", false, true, [1, 0]⟩
    record.ConformsTo schema ∧
      schema.resolve "Next.Value" = .ok leaf ∧
      Operator.equal.build "Equal" leaf (some "7") = .ok (.compare .equal (.signed 7)) ∧
      leaf.read record = .signed 7 ∧
      (leaf.read record).Suits FieldType.Holds schema.catalog leaf.type := by
  intro node schema record leaf
  have last : (Value.record node [.signed 7, .null]).Conforms FieldType.Holds schema.catalog
      node := by
    refine .slots ?_ ?_
    · rintro (_ | _ | slot) field stands absent
      · cases absent
      · obtain rfl := Option.some.inj stands
        rfl
      · cases stands
    · rintro (_ | _ | slot) field stands present
      · obtain rfl := Option.some.inj stands
        exact .plain rfl (And.intro (by decide) (by decide))
      · exact absurd rfl present
      · cases stands
  have conforms : record.ConformsTo schema := by
    refine .slots ?_ ?_
    · rintro (_ | _ | slot) field stands absent
      · cases absent
      · cases absent
      · cases stands
    · rintro (_ | _ | slot) field stands present
      · obtain rfl := Option.some.inj stands
        exact .plain rfl (And.intro (by decide) (by decide))
      · obtain rfl := Option.some.inj stands
        exact .record rfl last
      · cases stands
  have resolved : schema.resolve "Next.Value" = .ok leaf := rfl
  obtain ⟨sound, -, -⟩ := conforms.read_sound resolved
  refine ⟨conforms, resolved, rfl, rfl, ?_⟩
  rcases sound with absent | suits
  · cases absent
  · exact suits

end RecordRules
