import RecordRules.Operator

/-!
# Tests of the built-in operators

Whatever the operator, the field and the argument, a built-in operator makes one of a few
tests.  A test that compares has a literal of the field's own type, read from the
argument, and no test looks at a value in a way of its own.
-/

namespace RecordRules

/-- The tests that the built-in operators make for a field. -/
inductive Test.MadeFor (leaf : Leaf) : Test → Prop where
  | constant (result : Bool) : MadeFor leaf (.constant result)
  | isNull : MadeFor leaf .isNull
  | isNotNull : MadeFor leaf .isNotNull
  | compare {type : Scalar} {argument : String} {literal : Literal} (relation : Relation)
      (typed : leaf.type = .scalar type) (read : type.read? argument = some literal) :
      MadeFor leaf (.compare relation literal)
  | placed (placement : Placement) (needle : String) (negated : Bool) :
      MadeFor leaf (.placed placement needle negated)
  | isTrue : MadeFor leaf .isTrue
  | isFalse : MadeFor leaf .isFalse

variable {leaf : Leaf} {test : Test}

theorem FieldType.eq_scalar_of_scalar? {fieldType : FieldType} {type : Scalar}
    (found : fieldType.scalar? = some type) : fieldType = .scalar type := by
  cases fieldType with
  | scalar other =>
      obtain rfl := Option.some.inj found
      rfl
  | declared key => cases found
  | inline name fields => cases found
  | other name => cases found

theorem Leaf.literal_sound {usedName argument : String} {literal : Literal}
    (read : leaf.literal usedName argument = .ok literal) :
    ∃ type, leaf.type = .scalar type ∧ type.read? argument = some literal := by
  unfold Leaf.literal at read
  cases found : leaf.type.scalar? with
  | none => simp [found] at read
  | some type =>
      refine ⟨type, FieldType.eq_scalar_of_scalar? found, ?_⟩
      cases parsed : type.read? argument with
      | none => simp [found, parsed] at read
      | some other =>
          simp only [found, Option.bind_some, parsed] at read
          obtain rfl := Except.ok.inj read
          rfl

namespace Test

theorem madeFor_ofRelation {relation : Relation} {usedName : String}
    (built : ofRelation relation usedName leaf = .ok test) : test.MadeFor leaf := by
  unfold ofRelation at built
  split at built
  · cases built
  · split at built
    · obtain rfl := Except.ok.inj built
      exact .constant _
    · cases relation <;> obtain rfl := Except.ok.inj built
      case equal => exact .isNull
      case notEqual => exact .isNotNull
      all_goals exact .constant false

theorem madeFor_ofComparison {relation : Relation} {usedName argument : String}
    (built : ofComparison relation usedName leaf argument = .ok test) : test.MadeFor leaf := by
  unfold ofComparison at built
  split at built
  · cases built
  · split at built
    · obtain rfl := Except.ok.inj built
      exact .constant false
    · cases read : leaf.literal usedName argument with
      | error error =>
          rw [read] at built
          cases built
      | ok literal =>
          rw [read] at built
          obtain rfl := Except.ok.inj built
          obtain ⟨type, typed, parsed⟩ := Leaf.literal_sound read
          exact .compare relation typed parsed

theorem madeFor_ofPlacement {placement : Placement} {negated : Bool} {usedName : String}
    {argument : Option String}
    (built : ofPlacement placement negated usedName leaf argument = .ok test) :
    test.MadeFor leaf := by
  unfold ofPlacement at built
  split at built
  · cases built
  · cases argument with
    | none => cases built
    | some needle =>
        obtain rfl := Except.ok.inj built
        exact .placed placement _ negated

theorem madeFor_ofPresence (absent : Bool) : (ofPresence absent leaf).MadeFor leaf := by
  unfold ofPresence
  split
  · exact .constant (!absent)
  · cases absent with
    | true => exact .isNull
    | false => exact .isNotNull

theorem madeFor_ofTruth {expected : Bool} {usedName : String}
    (built : ofTruth expected usedName leaf = .ok test) : test.MadeFor leaf := by
  unfold ofTruth at built
  split at built
  · cases built
  · obtain rfl := Except.ok.inj built
    cases expected with
    | true => exact .isTrue
    | false => exact .isFalse

end Test

/-- What a built-in operator makes for a field is one of the tests for that field. -/
theorem Operator.madeFor_of_build {operator : Operator} {usedName : String}
    {argument : Option String} (built : operator.build usedName leaf argument = .ok test) :
    test.MadeFor leaf := by
  unfold Operator.build at built
  cases kind : operator.kind with
  | relation relation =>
      rw [kind] at built
      cases argument with
      | none => exact Test.madeFor_ofRelation built
      | some text => exact Test.madeFor_ofComparison built
  | placement placement negated =>
      rw [kind] at built
      exact Test.madeFor_ofPlacement built
  | presence absent =>
      rw [kind] at built
      obtain rfl := Except.ok.inj built
      exact Test.madeFor_ofPresence absent
  | truth expected =>
      rw [kind] at built
      exact Test.madeFor_ofTruth built

end RecordRules
