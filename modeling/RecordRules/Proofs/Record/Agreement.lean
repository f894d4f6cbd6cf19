import RecordRules.Proofs.Number.Order
import RecordRules.Proofs.Operator.Tests
import RecordRules.Proofs.Record.Walk

/-!
# Records that agree where they may be read

Two records agree on a type when their values in every readable field of the type are
equal, or are records that agree on the type that the field refers to.  Nothing is asked
of fields that may only be written, at any depth.  A walk goes through readable fields
alone, so what it reads from two records that agree is alike, and no test of a built-in
operator tells alike values apart.
-/

namespace RecordRules

/-- Equal values; decimals and floating-point numbers count by what they stand for. -/
inductive Value.SameAs : Value → Value → Prop where
  | refl (value : Value) : SameAs value value
  | float {first second : Double} (equal : first.order? second = some .eq) :
      SameAs (.float first) (.float second)
  | decimal {first second : Decimal} (equal : first.order second = .eq) :
      SameAs (.decimal first) (.decimal second)

section Agreeing

variable (catalog : Catalog)

mutual

/-- Values of a field that are equal, or records that agree on what the field refers to. -/
inductive Value.Alike : FieldType → Value → Value → Prop where
  | same {type : FieldType} {first second : Value} (same : first.SameAs second) :
      Alike type first second
  | records {type : FieldType} {firstType secondType : RecordType}
      {firstSlots secondSlots : List Value}
      (agree : ∀ inner : RecordType, type.record? catalog = some inner →
        Value.AgreeOn inner (.record firstType firstSlots) (.record secondType secondSlots)) :
      Alike type (.record firstType firstSlots) (.record secondType secondSlots)

/-- Values that are alike in every readable field of a record type. -/
inductive Value.AgreeOn : RecordType → Value → Value → Prop where
  | fields {type : RecordType} {first second : Value}
      (alike : ∀ (slot : Nat) (field : Field FieldType), type.fields[slot]? = some field →
        field.readable = true → Value.Alike field.type (first.slot slot) (second.slot slot)) :
      AgreeOn type first second

end

end Agreeing

namespace Value.SameAs

variable {first second : Value}

theorem slot (same : first.SameAs second) (index : Nat) :
    (first.slot index).SameAs (second.slot index) := by
  cases same with
  | refl => exact .refl _
  | float _ => exact .refl .null
  | decimal _ => exact .refl .null

theorem follow (same : first.SameAs second) (slots : List Nat) :
    (first.follow slots).SameAs (second.follow slots) := by
  induction slots generalizing first second with
  | nil => exact same
  | cons index rest ih => exact ih (same.slot index)

theorem order?_eq (same : first.SameAs second) (literal : Literal) :
    literal.order? first = literal.order? second := by
  cases same with
  | refl => rfl
  | float equal =>
      cases literal with
      | float other => exact Double.order?_congr_left equal other
      | _ => rfl
  | decimal equal =>
      cases literal with
      | decimal other => exact congrArg some (Decimal.order_congr_left equal other)
      | _ => rfl

/-- Equal values pass the same tests of built-in operators. -/
theorem passes_eq (same : first.SameAs second) {leaf : Leaf} {test : Test}
    (made : test.MadeFor leaf) : test.passes first = test.passes second := by
  have orders := same.order?_eq
  cases same with
  | refl => rfl
  | float _ =>
      cases made with
      | compare relation _ _ => exact congrArg relation.accepts (orders _)
      | _ => rfl
  | decimal _ =>
      cases made with
      | compare relation _ _ => exact congrArg relation.accepts (orders _)
      | _ => rfl

end Value.SameAs

variable {catalog : Catalog}

/-- No test of a built-in operator looks into a record. -/
theorem Test.MadeFor.passes_record_eq {leaf : Leaf} {test : Test} (made : test.MadeFor leaf)
    (firstType secondType : RecordType) (firstSlots secondSlots : List Value) :
    test.passes (.record firstType firstSlots) = test.passes (.record secondType secondSlots) := by
  cases made with
  | compare relation _ _ => rfl
  | _ => rfl

/-- No test of a built-in operator tells alike values apart. -/
theorem Value.Alike.passes_eq {type : FieldType} {first second : Value}
    (alike : first.Alike catalog type second) {leaf : Leaf} {test : Test}
    (made : test.MadeFor leaf) : test.passes first = test.passes second := by
  cases alike with
  | same same => exact same.passes_eq made
  | records _ => exact made.passes_record_eq _ _ _ _

/-- What a walk reads from two values that agree is alike. -/
theorem Walks.alike {path : String} {type : RecordType} {segments : List String} {leaf : Leaf}
    (walks : Walks catalog path type segments leaf) {first second : Value}
    (agree : Value.AgreeOn catalog type first second) :
    Value.Alike catalog leaf.type (first.follow leaf.slots) (second.follow leaf.slots) := by
  induction walks generalizing first second with
  | last found =>
      obtain ⟨stands, readable, -⟩ := RecordType.readable?_sound found
      cases agree with
      | fields alike => exact alike _ _ stands readable
  | @into type inner segment next rest slot field leaf found enters onward ih =>
      obtain ⟨stands, readable, -⟩ := RecordType.readable?_sound found
      cases agree with
      | fields alike =>
          have here := alike slot field stands readable
          simp only [Value.follow_cons]
          -- The slots are made variables, so that their likeness can be taken apart by cases.
          generalize first.slot slot = firstValue at here ⊢
          generalize second.slot slot = secondValue at here ⊢
          cases here with
          | same same => exact .same (same.follow leaf.slots)
          | records agree => exact ih (agree inner enters)

end RecordRules
