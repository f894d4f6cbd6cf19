import RecordRules.Registry

/-!
# The table of operators

What each built-in operator makes of a type, of whether the field may be absent, and of an
argument, row by row.  The rows leave nothing open and no two of them disagree, and an
operator makes what its row says under whatever name it is registered.  The records on the
way to a field have no place in the table.
-/

namespace RecordRules

def Relation.operator : Relation → Operator
  | .equal => .equal
  | .notEqual => .notEqual
  | .greater => .greaterThan
  | .greaterOrEqual => .greaterThanOrEqual
  | .less => .lessThan
  | .lessOrEqual => .lessThanOrEqual

def Placement.operator : Placement → (negated : Bool) → Operator
  | .anywhere, false => .contains
  | .atStart, false => .startsWith
  | .atEnd, false => .endsWith
  | .anywhere, true => .doesNotContain
  | .atStart, true => .doesNotStartWith
  | .atEnd, true => .doesNotEndWith

@[simp] theorem Relation.kind_operator (relation : Relation) :
    relation.operator.kind = .relation relation := by
  cases relation <;> rfl

@[simp] theorem Placement.kind_operator (placement : Placement) (negated : Bool) :
    (placement.operator negated).kind = .placement placement negated := by
  cases placement <;> cases negated <;> rfl

/-- Whether values of a type are closed to comparison: records and other values are. -/
def FieldType.Closed (type : FieldType) : Prop :=
  ∀ scalar : Scalar, type ≠ .scalar scalar

theorem FieldType.Closed.scalar?_eq_none {type : FieldType} (closed : type.Closed) :
    type.scalar? = none := by
  cases type with
  | scalar scalar => exact absurd rfl (closed scalar)
  | _ => rfl

theorem FieldType.exists_scalar_of_not_closed {type : FieldType} (opened : ¬ type.Closed) :
    ∃ scalar, type = .scalar scalar := by
  simpa [Closed] using opened

def Relation.Orders (relation : Relation) : Prop :=
  relation ≠ .equal ∧ relation ≠ .notEqual

theorem Relation.Orders.isEquality_eq_false {relation : Relation} (orders : relation.Orders) :
    relation.isEquality = false := by
  cases relation with
  | equal => exact absurd rfl orders.1
  | notEqual => exact absurd rfl orders.2
  | _ => rfl

/-- Whether a comparison has nothing to go by: the argument is empty, and the field may be absent
and does not hold texts. -/
def FieldType.Ignores (type : FieldType) (nullable : Bool) (argument : String) : Prop :=
  argument = "" ∧ nullable = true ∧ type ≠ .scalar .text

section Rows

-- What errors tell: the name that the rule uses, the path and the name of the field's type.
variable (usedName path typeName : String)

/-- The rows of the table: operator, type, nullability and argument, with what they give. -/
inductive Operator.Makes :
    Operator → FieldType → (nullable : Bool) → Option String → Except RuleError Test → Prop where
  -- Comparisons without an argument.
  | equalToNothing {type : FieldType} : Makes .equal type false none (.ok (.constant false))
  | differentFromNothing {type : FieldType} :
      Makes .notEqual type false none (.ok (.constant true))
  | equalToNull {type : FieldType} : Makes .equal type true none (.ok .isNull)
  | differentFromNull {type : FieldType} : Makes .notEqual type true none (.ok .isNotNull)
  | orderedByNothing {relation : Relation} {type : Scalar} {nullable : Bool}
      (orders : relation.Orders) :
      Makes relation.operator (.scalar type) nullable none (.ok (.constant false))
  | closedToOrder {relation : Relation} {type : FieldType} {nullable : Bool}
      (orders : relation.Orders) (closed : type.Closed) :
      Makes relation.operator type nullable none
        (.error (.operatorNotForType usedName path typeName))
  -- Comparisons with an argument.
  | closedToComparison {relation : Relation} {type : FieldType} {nullable : Bool}
      {argument : String} (closed : type.Closed) :
      Makes relation.operator type nullable (some argument)
        (.error (.operatorNotForType usedName path typeName))
  | comparedWithEmpty {relation : Relation} {type : Scalar} {nullable : Bool} {argument : String}
      (ignores : FieldType.Ignores (.scalar type) nullable argument) :
      Makes relation.operator (.scalar type) nullable (some argument) (.ok (.constant false))
  | compared {relation : Relation} {type : Scalar} {nullable : Bool} {argument : String}
      {literal : Literal} (heeds : ¬ FieldType.Ignores (.scalar type) nullable argument)
      (read : type.read? argument = some literal) :
      Makes relation.operator (.scalar type) nullable (some argument)
        (.ok (.compare relation literal))
  | unreadable {relation : Relation} {type : Scalar} {nullable : Bool} {argument : String}
      (heeds : ¬ FieldType.Ignores (.scalar type) nullable argument)
      (unread : type.read? argument = none) :
      Makes relation.operator (.scalar type) nullable (some argument)
        (.error (.argumentNotOfType usedName typeName (.text argument)))
  -- Searches for a text.
  | closedToSearch {placement : Placement} {negated : Bool} {type : FieldType} {nullable : Bool}
      {argument : Option String} (notText : type ≠ .scalar .text) :
      Makes (placement.operator negated) type nullable argument
        (.error (.operatorNotForType usedName path typeName))
  | nothingToSearch {placement : Placement} {negated nullable : Bool} :
      Makes (placement.operator negated) (.scalar .text) nullable none
        (.error (.argumentNotOfType usedName typeName .nothing))
  | searched {placement : Placement} {negated nullable : Bool} {needle : String} :
      Makes (placement.operator negated) (.scalar .text) nullable (some needle)
        (.ok (.placed placement (String.ofList (Text.lower needle.toList)) negated))
  -- Tests for absence and presence, whatever the argument.
  | neverNull {type : FieldType} {argument : Option String} :
      Makes .isNull type false argument (.ok (.constant false))
  | alwaysPresent {type : FieldType} {argument : Option String} :
      Makes .isNotNull type false argument (.ok (.constant true))
  | isNull {type : FieldType} {argument : Option String} :
      Makes .isNull type true argument (.ok .isNull)
  | isNotNull {type : FieldType} {argument : Option String} :
      Makes .isNotNull type true argument (.ok .isNotNull)
  -- Tests for truth values, whatever the argument.
  | notTrue {type : FieldType} {nullable : Bool} {argument : Option String}
      (notBool : type ≠ .scalar .bool) :
      Makes .isTrue type nullable argument (.error (.operatorNotForType usedName path typeName))
  | notFalse {type : FieldType} {nullable : Bool} {argument : Option String}
      (notBool : type ≠ .scalar .bool) :
      Makes .isFalse type nullable argument (.error (.operatorNotForType usedName path typeName))
  | isTrue {nullable : Bool} {argument : Option String} :
      Makes .isTrue (.scalar .bool) nullable argument (.ok .isTrue)
  | isFalse {nullable : Bool} {argument : Option String} :
      Makes .isFalse (.scalar .bool) nullable argument (.ok .isFalse)

end Rows

namespace Leaf

variable {leaf : Leaf}

theorem isComparable_eq_false (closed : leaf.type.Closed) : leaf.isComparable = false := by
  rw [isComparable, closed.scalar?_eq_none]
  rfl

theorem isComparable_of_scalar {type : Scalar} (typed : leaf.type = .scalar type) :
    leaf.isComparable = true := by
  rw [isComparable, typed]
  rfl

theorem isText_iff : leaf.isText = true ↔ leaf.type = .scalar .text := by
  cases typed : leaf.type <;> simp [isText, typed, FieldType.scalar?]

theorem isBool_iff : leaf.isBool = true ↔ leaf.type = .scalar .bool := by
  cases typed : leaf.type <;> simp [isBool, typed, FieldType.scalar?]

theorem isText_eq_false (notText : leaf.type ≠ .scalar .text) : leaf.isText = false :=
  Bool.eq_false_iff.mpr (mt isText_iff.mp notText)

theorem isBool_eq_false (notBool : leaf.type ≠ .scalar .bool) : leaf.isBool = false :=
  Bool.eq_false_iff.mpr (mt isBool_iff.mp notBool)

theorem ignores_iff (argument : String) :
    (argument.isEmpty && leaf.nullable && !leaf.isText) = true ↔
      leaf.type.Ignores leaf.nullable argument := by
  simp [FieldType.Ignores, ← isText_iff, and_assoc]

end Leaf

/-! ## The rows leave nothing open -/

section Completeness

variable (usedName path typeName : String) (type : FieldType) (nullable : Bool)

theorem Relation.exists_makes (relation : Relation) (argument : Option String) :
    ∃ outcome, relation.operator.Makes usedName path typeName type nullable argument outcome := by
  cases argument with
  | some argument =>
      by_cases closed : type.Closed
      · exact ⟨_, .closedToComparison closed⟩
      · obtain ⟨scalar, rfl⟩ := FieldType.exists_scalar_of_not_closed closed
        by_cases ignores : FieldType.Ignores (.scalar scalar) nullable argument
        · exact ⟨_, .comparedWithEmpty ignores⟩
        · cases read : scalar.read? argument with
          | none => exact ⟨_, .unreadable ignores read⟩
          | some literal => exact ⟨_, .compared ignores read⟩
  | none =>
      by_cases orders : relation.Orders
      · by_cases closed : type.Closed
        · exact ⟨_, .closedToOrder orders closed⟩
        · obtain ⟨scalar, rfl⟩ := FieldType.exists_scalar_of_not_closed closed
          exact ⟨_, .orderedByNothing orders⟩
      · cases relation with
        | equal =>
            cases nullable with
            | false => exact ⟨_, .equalToNothing⟩
            | true => exact ⟨_, .equalToNull⟩
        | notEqual =>
            cases nullable with
            | false => exact ⟨_, .differentFromNothing⟩
            | true => exact ⟨_, .differentFromNull⟩
        | _ => exact absurd ⟨by decide, by decide⟩ orders

theorem Placement.exists_makes (placement : Placement) (negated : Bool)
    (argument : Option String) :
    ∃ outcome, (placement.operator negated).Makes usedName path typeName type nullable argument
      outcome := by
  by_cases text : type = .scalar .text
  · subst text
    cases argument with
    | none => exact ⟨_, .nothingToSearch⟩
    | some needle => exact ⟨_, .searched⟩
  · exact ⟨_, .closedToSearch text⟩

/-- The table has a row for every operator, type and argument. -/
theorem Operator.exists_makes (operator : Operator) (argument : Option String) :
    ∃ outcome, operator.Makes usedName path typeName type nullable argument outcome := by
  cases operator with
  | equal => exact Relation.equal.exists_makes ..
  | notEqual => exact Relation.notEqual.exists_makes ..
  | greaterThan => exact Relation.greater.exists_makes ..
  | greaterThanOrEqual => exact Relation.greaterOrEqual.exists_makes ..
  | lessThan => exact Relation.less.exists_makes ..
  | lessThanOrEqual => exact Relation.lessOrEqual.exists_makes ..
  | contains => exact Placement.anywhere.exists_makes _ _ _ _ _ false _
  | startsWith => exact Placement.atStart.exists_makes _ _ _ _ _ false _
  | endsWith => exact Placement.atEnd.exists_makes _ _ _ _ _ false _
  | doesNotContain => exact Placement.anywhere.exists_makes _ _ _ _ _ true _
  | doesNotStartWith => exact Placement.atStart.exists_makes _ _ _ _ _ true _
  | doesNotEndWith => exact Placement.atEnd.exists_makes _ _ _ _ _ true _
  | isNull =>
      cases nullable with
      | false => exact ⟨_, .neverNull⟩
      | true => exact ⟨_, .isNull⟩
  | isNotNull =>
      cases nullable with
      | false => exact ⟨_, .alwaysPresent⟩
      | true => exact ⟨_, .isNotNull⟩
  | isTrue =>
      by_cases bool : type = .scalar .bool
      · subst bool
        exact ⟨_, .isTrue⟩
      · exact ⟨_, .notTrue bool⟩
  | isFalse =>
      by_cases bool : type = .scalar .bool
      · subst bool
        exact ⟨_, .isFalse⟩
      · exact ⟨_, .notFalse bool⟩

end Completeness

/-! ## What is built is what the rows say -/

section Building

variable {usedName : String} {leaf : Leaf}

theorem Operator.build_relation_none (relation : Relation) :
    relation.operator.build usedName leaf none = Test.ofRelation relation usedName leaf := by
  simp [build]

theorem Operator.build_relation_some (relation : Relation) (argument : String) :
    relation.operator.build usedName leaf (some argument) =
      Test.ofComparison relation usedName leaf argument := by
  simp [build]

theorem Operator.build_placement (placement : Placement) (negated : Bool)
    (argument : Option String) :
    (placement.operator negated).build usedName leaf argument =
      Test.ofPlacement placement negated usedName leaf argument := by
  simp [build]

theorem Test.ofRelation_of_orders {relation : Relation} (orders : relation.Orders)
    (comparable : leaf.isComparable = true) :
    ofRelation relation usedName leaf = .ok (.constant false) := by
  cases relation with
  | equal => exact absurd rfl orders.1
  | notEqual => exact absurd rfl orders.2
  | _ => simp [ofRelation, comparable]

theorem Test.ofComparison_of_heeds {relation : Relation} {type : Scalar} {argument : String}
    (typed : leaf.type = .scalar type) (heeds : ¬ leaf.type.Ignores leaf.nullable argument) :
    ofComparison relation usedName leaf argument =
      match type.read? argument with
      | some literal => .ok (.compare relation literal)
      | none => .error (.argumentNotOfType usedName leaf.typeName (.text argument)) := by
  have given : (argument.isEmpty && leaf.nullable && !leaf.isText) = false :=
    Bool.eq_false_iff.mpr fun empty => heeds ((Leaf.ignores_iff argument).mp empty)
  have scalar : leaf.type.scalar? = some type := by
    rw [typed]
    rfl
  simp only [ofComparison, Leaf.isComparable_of_scalar typed, given, Bool.not_true,
    Bool.false_eq_true, if_false, Leaf.literal, scalar, Option.bind_some]
  cases type.read? argument with
  | none => rfl
  | some literal => rfl

/-- An operator makes what its row says. -/
theorem Operator.Makes.build_eq {operator : Operator} {type : FieldType} {nullable : Bool}
    {argument : Option String} {outcome : Except RuleError Test}
    (makes : operator.Makes usedName leaf.path leaf.typeName type nullable argument outcome)
    (typed : leaf.type = type) (absence : leaf.nullable = nullable) :
    operator.build usedName leaf argument = outcome := by
  cases makes with
  | equalToNothing => simp [build, kind, Test.ofRelation, Relation.isEquality, absence]
  | differentFromNothing => simp [build, kind, Test.ofRelation, Relation.isEquality, absence]
  | equalToNull => simp [build, kind, Test.ofRelation, Relation.isEquality, absence]
  | differentFromNull => simp [build, kind, Test.ofRelation, Relation.isEquality, absence]
  | orderedByNothing orders =>
      rw [build_relation_none]
      exact Test.ofRelation_of_orders orders (Leaf.isComparable_of_scalar typed)
  | closedToOrder orders closed =>
      have incomparable := Leaf.isComparable_eq_false (typed ▸ closed)
      rw [build_relation_none]
      simp [Test.ofRelation, incomparable, orders.isEquality_eq_false, Leaf.refuse]
  | closedToComparison closed =>
      have incomparable := Leaf.isComparable_eq_false (typed ▸ closed)
      rw [build_relation_some]
      simp [Test.ofComparison, incomparable, Leaf.refuse]
  | comparedWithEmpty ignores =>
      have empty := (Leaf.ignores_iff _).mpr (typed ▸ absence ▸ ignores)
      rw [build_relation_some]
      simp only [Test.ofComparison, Leaf.isComparable_of_scalar typed, empty, Bool.not_true,
        Bool.false_eq_true, if_false, if_true]
  | compared heeds read =>
      rw [build_relation_some, Test.ofComparison_of_heeds typed (typed ▸ absence ▸ heeds), read]
  | unreadable heeds unread =>
      rw [build_relation_some, Test.ofComparison_of_heeds typed (typed ▸ absence ▸ heeds), unread]
  | closedToSearch notText =>
      have other := Leaf.isText_eq_false (typed ▸ notText)
      rw [build_placement]
      simp [Test.ofPlacement, other, Leaf.refuse]
  | nothingToSearch =>
      rw [build_placement]
      simp [Test.ofPlacement, Leaf.isText_iff.mpr typed]
  | searched =>
      rw [build_placement]
      simp [Test.ofPlacement, Leaf.isText_iff.mpr typed]
  | neverNull => simp [build, kind, Test.ofPresence, absence]
  | alwaysPresent => simp [build, kind, Test.ofPresence, absence]
  | isNull => simp [build, kind, Test.ofPresence, absence]
  | isNotNull => simp [build, kind, Test.ofPresence, absence]
  | notTrue notBool =>
      have other := Leaf.isBool_eq_false (typed ▸ notBool)
      simp [build, kind, Test.ofTruth, other, Leaf.refuse]
  | notFalse notBool =>
      have other := Leaf.isBool_eq_false (typed ▸ notBool)
      simp [build, kind, Test.ofTruth, other, Leaf.refuse]
  | isTrue => simp [build, kind, Test.ofTruth, Leaf.isBool_iff.mpr typed]
  | isFalse => simp [build, kind, Test.ofTruth, Leaf.isBool_iff.mpr typed]

/-- What is built is what the table says, and nothing else. -/
theorem Operator.build_eq_iff_makes {operator : Operator} {argument : Option String}
    {outcome : Except RuleError Test} :
    operator.build usedName leaf argument = outcome ↔
      operator.Makes usedName leaf.path leaf.typeName leaf.type leaf.nullable argument outcome := by
  constructor
  · intro built
    obtain ⟨said, makes⟩ := operator.exists_makes usedName leaf.path leaf.typeName leaf.type
      leaf.nullable argument
    rw [← built, makes.build_eq rfl rfl]
    exact makes
  · intro makes
    exact makes.build_eq rfl rfl

end Building

/-- An operator that is registered under a name makes, under that name, what the table says for
the field's type, for whether the field may be absent, and for the argument. -/
theorem Registry.build_registered_iff_makes (registry : Registry) (name : String)
    (operator : Operator) :
    ∃ strategy, (registry.register name operator.build).strategy name = .ok strategy ∧
      (∀ leaf argument outcome, strategy name leaf argument = outcome ↔
        operator.Makes name leaf.path leaf.typeName leaf.type leaf.nullable argument outcome) ∧
      ∀ leaf owner nullableParent slots argument,
        strategy name { leaf with owner, nullableParent, slots } argument =
          strategy name leaf argument := by
  refine ⟨operator.build, ?_, fun leaf argument outcome => Operator.build_eq_iff_makes, ?_⟩
  · rw [strategy, strategy?_register_self]
  · intro leaf owner nullableParent slots argument
    rw [Operator.build_eq_iff_makes]
    exact Operator.build_eq_iff_makes.mp rfl

end RecordRules
