import RecordRules.Proofs.Operator.Table
import RecordRules.Proofs.Plan.Preparation
import RecordRules.Proofs.Record.Walk

/-!
# Criteria that read nothing

Nothing is read for a criterion when the value of its field, or a record on the way to it,
is absent.  Whatever kept the value from being read, at whatever depth, the criterion then
fails, unless it asks for a difference, for the absence that it meets, or for a text that
is not there.
-/

namespace RecordRules

/-- Whether an argument becomes a literal that values are compared with: the field heeds it, and
it can be read for the field's type. -/
def FieldType.Takes (type : FieldType) (nullable : Bool) (argument : String) : Prop :=
  ¬ type.Ignores nullable argument ∧
    ∃ scalar literal, type = .scalar scalar ∧ scalar.read? argument = some literal

/-- The operators that hold of a field, with an argument, when nothing is read. -/
def Operator.HoldsOfNull (type : FieldType) (nullable : Bool) :
    Operator → Option String → Prop
  | .notEqual, some argument => type.Takes nullable argument
  | .notEqual, none | .isNotNull, _ => nullable = false
  | .equal, none | .isNull, _ => nullable = true
  | .doesNotContain, _ | .doesNotStartWith, _ | .doesNotEndWith, _ => True
  | _, _ => False

theorem Check.holds_of_follow_eq_null {check : Check} {record : Record}
    (nothing : record.value.follow check.slots = .null) :
    check.holds record = check.test.passes .null := by
  rw [holds, nothing]
  cases check.test with
  | constant result => rfl
  | _ => rfl

theorem Leaf.read_eq_null {leaf : Leaf} {record : Record}
    (nothing : leaf.read record = .null ∨ leaf.BreaksOff record) : leaf.read record = .null := by
  rcases nothing with absent | breaks
  · exact absent
  · exact Value.BreaksOff.follow_eq_null breaks

namespace Test

variable {relation : Relation} {literal : Literal}

theorem passes_compare_null :
    (compare relation literal).passes .null = true ↔ relation = .notEqual := by
  simp [passes, Value.isNull]

theorem passes_placed_null (placement : Placement) (needle : String) (negated : Bool) :
    (placed placement needle negated).passes .null = negated := by
  cases negated <;> rfl

end Test

section Rows

variable {type : FieldType} {nullable : Bool}

theorem Relation.holdsOfNull_none_of_orders {relation : Relation} (orders : relation.Orders) :
    ¬ relation.operator.HoldsOfNull type nullable none := by
  cases relation with
  | equal => exact absurd rfl orders.1
  | notEqual => exact absurd rfl orders.2
  | _ => exact id

theorem Relation.holdsOfNull_some_iff {relation : Relation} {argument : String} :
    relation.operator.HoldsOfNull type nullable (some argument) ↔
      relation = .notEqual ∧ type.Takes nullable argument := by
  cases relation <;> simp [operator, Operator.HoldsOfNull]

theorem Placement.holdsOfNull_iff {placement : Placement} {negated : Bool}
    {argument : Option String} :
    (placement.operator negated).HoldsOfNull type nullable argument ↔ negated = true := by
  cases placement <;> cases negated <;> simp [operator, Operator.HoldsOfNull]

/-- The test of each row lets an absent value pass exactly if its operator holds of nothing. -/
theorem Operator.Makes.passes_null_iff {usedName path typeName : String} {operator : Operator}
    {argument : Option String} {test : Test}
    (makes : operator.Makes usedName path typeName type nullable argument (.ok test)) :
    test.passes .null = true ↔ operator.HoldsOfNull type nullable argument := by
  -- One case for each row of the table that makes a test.
  cases makes with
  | equalToNothing => simp [Test.passes, HoldsOfNull]
  | differentFromNothing => simp [Test.passes, HoldsOfNull]
  | equalToNull => simp [Test.passes, HoldsOfNull, Value.isNull]
  | differentFromNull => simp [Test.passes, HoldsOfNull, Value.isNull]
  | orderedByNothing orders => simp [Test.passes, Relation.holdsOfNull_none_of_orders orders]
  | comparedWithEmpty ignores =>
      rw [Relation.holdsOfNull_some_iff]
      constructor
      · intro passed
        cases passed
      · rintro ⟨-, heeds, -⟩
        exact absurd ignores heeds
  | compared heeds read =>
      rw [Relation.holdsOfNull_some_iff, Test.passes_compare_null]
      have takes : FieldType.Takes (.scalar _) nullable _ := ⟨heeds, _, _, rfl, read⟩
      exact ⟨fun different => ⟨different, takes⟩, And.left⟩
  | searched => rw [Placement.holdsOfNull_iff, Test.passes_placed_null]
  | neverNull => simp [Test.passes, HoldsOfNull]
  | alwaysPresent => simp [Test.passes, HoldsOfNull]
  | isNull => simp [Test.passes, HoldsOfNull, Value.isNull]
  | isNotNull => simp [Test.passes, HoldsOfNull, Value.isNull]
  | isTrue => simp [Test.passes, HoldsOfNull]
  | isFalse => simp [Test.passes, HoldsOfNull]

end Rows

/-- A prepared criterion for which nothing is read holds exactly if its operator holds of
nothing. -/
theorem Criterion.holds_of_nothing_read_iff {schema : Schema} {registry : Registry}
    {criterion : Criterion} {leaf : Leaf} (resolved : schema.resolve criterion.path = .ok leaf)
    {record : Record} (nothing : leaf.read record = .null ∨ leaf.BreaksOff record)
    {operator : Operator}
    (registered : registry.strategy? criterion.operator = some operator.build) {check : Check}
    (prepared : (criterion.prepare schema registry).value = .ok check) :
    check.holds record = true ↔
      operator.HoldsOfNull leaf.type leaf.nullable criterion.value := by
  obtain ⟨strategy, found, test, known, leads, built, rfl⟩ := prepare_eq_ok_iff.mp prepared
  obtain rfl := Option.some.inj (registered.symm.trans known)
  obtain rfl := Except.ok.inj (resolved.symm.trans leads)
  have makes := Operator.build_eq_iff_makes.mp built
  have absent : record.value.follow leaf.slots = .null := Leaf.read_eq_null nothing
  rw [Check.holds_of_follow_eq_null absent]
  exact makes.passes_null_iff

/-- Behind the end of a chain of nodes there is no value, and so it differs from seven. -/
theorem Criterion.holds_of_nothing_read_behind_chain :
    let node : RecordType := ⟨"Node", [⟨"Value", .scalar (.signed .bits32), false, true⟩,
      ⟨"Next", .declared "Node", true, true⟩]⟩
    let schema : Schema := ⟨fun _ => node, node⟩
    let record : Record := ⟨node, [.signed 7, .record node [.signed 7, .null]]⟩
    let criterion : Criterion := ⟨"Next.Next.Next.Value", "NotEqual", some "7"⟩
    let leaf : Leaf := ⟨"Next.Next.Next.Value", "Node", .scalar (.signed .bits32), "i32", false,
      true, [1, 1, 1, 0]⟩
    let check : Check := ⟨criterion, [1, 1, 1, 0], .compare .notEqual (.signed 7)⟩
    schema.resolve "Next.Next.Next.Value" = .ok leaf ∧
      leaf.BreaksOff record ∧
      Registry.builtIn.strategy? "NotEqual" = some Operator.notEqual.build ∧
      (criterion.prepare schema .builtIn).value = .ok check ∧
      leaf.type.Takes leaf.nullable "7" ∧
      check.holds record = true := by
  intro node schema record criterion leaf check
  have resolved : schema.resolve "Next.Next.Next.Value" = .ok leaf := rfl
  have breaks : leaf.BreaksOff record :=
    ⟨[1, 1], [1, 0], rfl, List.cons_ne_nil _ _, List.cons_ne_nil _ _, rfl⟩
  have registered : Registry.builtIn.strategy? "NotEqual" = some Operator.notEqual.build := rfl
  have prepared : (criterion.prepare schema .builtIn).value = .ok check :=
    prepare_eq_ok_iff.mpr ⟨_, leaf, _, registered, resolved, rfl, rfl⟩
  have takes : leaf.type.Takes leaf.nullable "7" :=
    ⟨fun ignores => absurd ignores.1 (by decide), _, .signed 7, rfl, rfl⟩
  have holds := @holds_of_nothing_read_iff schema .builtIn criterion leaf resolved record
    (.inr breaks) .notEqual registered check prepared
  exact ⟨resolved, breaks, registered, prepared, takes, holds.mpr takes⟩

end RecordRules
