import RecordRules.Proofs.Operator.Table

/-!
# The six comparisons of a field with an argument

For a field and an argument, the six comparison operators are refused together, for the same
reason, or built together.  Built, they are one literal under six relations, and an order
of a value and the literal, or the lack of one, decides all six at once.  The exception is an
empty argument that says nothing about the field: then all six fail for every value.
-/

namespace RecordRules

def RuleError.naming (operator : String) : RuleError → RuleError
  | .unknownOperator _ => .unknownOperator operator
  | .operatorNotForType _ path typeName => .operatorNotForType operator path typeName
  | .argumentNotOfType _ expected supplied => .argumentNotOfType operator expected supplied
  | error => error

/-- What the six comparisons of a field with an argument come to. -/
inductive Leaf.Compares (leaf : Leaf) (argument : String) : Prop where
  | refused (error : RuleError)
      (built : ∀ (relation : Relation) (usedName : String),
        relation.operator.build usedName leaf (some argument) = .error (error.naming usedName))
  | ignored (ignores : leaf.type.Ignores leaf.nullable argument)
      (built : ∀ (relation : Relation) (usedName : String),
        relation.operator.build usedName leaf (some argument) = .ok (.constant false))
  | literal (heeds : ¬ leaf.type.Ignores leaf.nullable argument) (literal : Literal)
      (built : ∀ (relation : Relation) (usedName : String),
        relation.operator.build usedName leaf (some argument) = .ok (.compare relation literal))

/-- The relation has no part in whether a comparison is built, and with which literal. -/
theorem Leaf.compares (leaf : Leaf) (argument : String) : leaf.Compares argument := by
  by_cases closed : leaf.type.Closed
  · refine .refused (.operatorNotForType "" leaf.path leaf.typeName) fun relation usedName => ?_
    exact (Operator.Makes.closedToComparison closed).build_eq rfl rfl
  · obtain ⟨type, typed⟩ := FieldType.exists_scalar_of_not_closed closed
    by_cases ignores : leaf.type.Ignores leaf.nullable argument
    · refine .ignored ignores fun relation usedName => ?_
      exact (Operator.Makes.comparedWithEmpty (typed ▸ ignores)).build_eq typed rfl
    · cases read : type.read? argument with
      | none =>
          refine .refused (.argumentNotOfType "" leaf.typeName (.text argument))
            fun relation usedName => ?_
          exact (Operator.Makes.unreadable (typed ▸ ignores) read).build_eq typed rfl
      | some literal =>
          refine .literal ignores literal fun relation usedName => ?_
          exact (Operator.Makes.compared (typed ▸ ignores) read).build_eq typed rfl

/-! ## Relations and orders -/

/-- Of less, equal and greater, an order satisfies one, and the lack of an order none. -/
theorem Relation.countP_accepts (order : Option Ordering) :
    [less, equal, greater].countP (·.accepts order) = if order.isSome then 1 else 0 := by
  cases order with
  | none => rfl
  | some order => cases order <;> rfl

@[simp] theorem Literal.order?_null (literal : Literal) : literal.order? .null = none := by
  cases literal <;> rfl

/-- An absent value passes a comparison as values without an order do. -/
theorem Test.passes_compare (relation : Relation) (literal : Literal) (value : Value) :
    (compare relation literal).passes value = relation.accepts (literal.order? value) := by
  cases value with
  | null =>
      rw [Literal.order?_null]
      cases relation <;> rfl
  | _ => rfl

/-- How many of the tests for less, for equality and for greater a value passes. -/
def Relation.passed (tests : Relation → Test) (value : Value) : Nat :=
  [less, equal, greater].countP fun relation => (tests relation).passes value

/-- The laws of six tests, one for each relation, that hold of every value. -/
structure Relation.Lawful (tests : Relation → Test) : Prop where
  greaterOrEqual_eq : ∀ value, (tests .greaterOrEqual).passes value =
    ((tests .greater).passes value || (tests .equal).passes value)
  lessOrEqual_eq : ∀ value, (tests .lessOrEqual).passes value =
    ((tests .less).passes value || (tests .equal).passes value)
  passed_le_one : ∀ value, passed tests value ≤ 1

namespace Relation

theorem lawful_constant_false : Lawful fun _ => .constant false where
  greaterOrEqual_eq _ := rfl
  lessOrEqual_eq _ := rfl
  passed_le_one _ := Nat.zero_le 1

theorem passed_compare (literal : Literal) (value : Value) :
    passed (Test.compare · literal) value = if (literal.order? value).isSome then 1 else 0 := by
  simp only [passed, Test.passes_compare]
  exact countP_accepts (literal.order? value)

theorem lawful_compare (literal : Literal) : Lawful (Test.compare · literal) where
  greaterOrEqual_eq value := by
    simp only [Test.passes_compare]
    rfl
  lessOrEqual_eq value := by
    simp only [Test.passes_compare]
    rfl
  passed_le_one value := by
    rw [passed_compare]
    split
    · exact Nat.le_refl 1
    · exact Nat.zero_le 1

end Relation

/-- The six comparisons of a field with an argument are all refused, with one error, or all
built, and then they are decided by the order of a value to one literal. -/
theorem Leaf.comparisons_agree (leaf : Leaf) (argument : String) :
    (∃ error : RuleError, ∀ (relation : Relation) (usedName : String),
      relation.operator.build usedName leaf (some argument) = .error (error.naming usedName)) ∨
    ∃ tests : Relation → Test,
      (∀ (relation : Relation) (usedName : String),
        relation.operator.build usedName leaf (some argument) = .ok (tests relation)) ∧
      Relation.Lawful tests ∧
      ((leaf.type.Ignores leaf.nullable argument ∧
          ∀ relation value, (tests relation).passes value = false) ∨
        (¬ leaf.type.Ignores leaf.nullable argument ∧
          ∃ literal, (∀ relation, tests relation = .compare relation literal) ∧
            ∀ value, (tests .notEqual).passes value = !(tests .equal).passes value ∧
              Relation.passed tests value = if (literal.order? value).isSome then 1 else 0)) := by
  cases leaf.compares argument with
  | refused error built => exact .inl ⟨error, built⟩
  | ignored ignores built =>
      refine .inr ⟨fun _ => .constant false, built, Relation.lawful_constant_false, .inl ?_⟩
      exact ⟨ignores, fun _ _ => rfl⟩
  | literal heeds literal built =>
      refine .inr ⟨(.compare · literal), built, Relation.lawful_compare literal, .inr ?_⟩
      refine ⟨heeds, literal, fun _ => rfl, fun value => ?_⟩
      have opposite : (Test.compare .notEqual literal).passes value =
          !(Test.compare .equal literal).passes value := by
        simp only [Test.passes_compare]
        rfl
      exact ⟨opposite, Relation.passed_compare literal value⟩

end RecordRules
