import RecordRules.Proofs.Literal.Integer
import RecordRules.Proofs.Operator.Comparison
import RecordRules.Proofs.Record.Conformance

/-!
# Comparisons of integers

For a field of integers, of whatever width, a comparison is built exactly if its argument
spells an integer of the field's type, and it then decides the relation of the two integers
themselves.  An argument that spells an integer beyond the type is refused like one that
spells none.
-/

namespace RecordRules

/-- How two integers have to stand to each other to satisfy a relation. -/
def Relation.Relates : Relation → Int → Int → Prop
  | .equal, a, b => a = b
  | .notEqual, a, b => a ≠ b
  | .greater, a, b => b < a
  | .greaterOrEqual, a, b => b ≤ a
  | .less, a, b => a < b
  | .lessOrEqual, a, b => a ≤ b

theorem Relation.accepts_compare_iff (relation : Relation) (a b : Int) :
    relation.accepts (some (compare a b)) = true ↔ relation.Relates a b := by
  cases compared : compare a b with
  | lt =>
      have less : a < b := Int.compare_eq_lt.mp compared
      cases relation <;> simp only [accepts, Relates] <;> simp <;> omega
  | eq =>
      have same : a = b := Int.compare_eq_eq.mp compared
      cases relation <;> simp only [accepts, Relates] <;> simp <;> omega
  | gt =>
      have more : b < a := Int.compare_eq_gt.mp compared
      cases relation <;> simp only [accepts, Relates] <;> simp <;> omega

/-- Integers are in the order of their numbers, whether they have a sign or not. -/
theorem Literal.order?_of_integers {literal : Literal} {value : Value} {v n : Int}
    (valued : value.integer? = some v) (meant : literal.integer? = some n) :
    literal.order? value = some (compare v n) := by
  cases value with
  | signed a =>
      obtain rfl := Option.some.inj valued
      cases literal with
      | signed b =>
          obtain rfl := Option.some.inj meant
          rfl
      | unsigned b =>
          obtain rfl := Option.some.inj meant
          rfl
      | _ => cases meant
  | unsigned a =>
      obtain rfl := Option.some.inj valued
      cases literal with
      | signed b =>
          obtain rfl := Option.some.inj meant
          rfl
      | unsigned b =>
          obtain rfl := Option.some.inj meant
          rw [compare_natCast]
          rfl
      | _ => cases meant
  | _ => cases valued

theorem Scalar.Holds.exists_integer {type : Scalar} {value : Value} (held : type.Holds value)
    (integral : type.kind = .integer) : ∃ v, value.integer? = some v ∧ type.Spans v := by
  cases type with
  | signed width =>
      cases value with
      | signed n =>
          refine ⟨n, rfl, ?_⟩
          simpa [Spans, Holds, twoTo] using held
      | _ => cases held
  | unsigned width =>
      cases value with
      | unsigned n =>
          refine ⟨n, rfl, Int.natCast_nonneg n, ?_⟩
          have bounded : n < twoTo width.bits := held
          exact_mod_cast bounded
      | _ => cases held
  | _ => cases integral

/-- A comparison of a field of integers is built exactly if the argument spells an integer of the
field's type between blanks, and a value passes it exactly if the relation holds between the two
integers. -/
theorem Leaf.integer_comparisons_exact {leaf : Leaf} {type : Scalar}
    (typed : leaf.type = .scalar type) (integral : type.kind = .integer) {argument : String}
    (given : argument ≠ "") (relation : Relation) (usedName : String) :
    ((∃ test, relation.operator.build usedName leaf (some argument) = .ok test) ↔
      ∃ n, type.Spells argument n) ∧
    (∀ n, type.Spells argument n →
      ∃ test, relation.operator.build usedName leaf (some argument) = .ok test ∧
        ∀ value, type.Holds value →
          ∃ v, value.integer? = some v ∧ type.Spans v ∧
            (test.passes value = true ↔ relation.Relates v n)) ∧
    ((¬ ∃ n, type.Spells argument n) →
      relation.operator.build usedName leaf (some argument) =
        .error (.argumentNotOfType usedName leaf.typeName (.text argument))) := by
  have heeds : ¬ leaf.type.Ignores leaf.nullable argument := fun ignores => given ignores.1
  have built : relation.operator.build usedName leaf (some argument) = _ :=
    (Operator.build_relation_some relation argument).trans (Test.ofComparison_of_heeds typed heeds)
  have exact_of_spells : ∀ n, type.Spells argument n →
      ∃ test, relation.operator.build usedName leaf (some argument) = .ok test ∧
        ∀ value, type.Holds value →
          ∃ v, value.integer? = some v ∧ type.Spans v ∧
            (test.passes value = true ↔ relation.Relates v n) := by
    intro n spells
    obtain ⟨literal, read, meant⟩ := Scalar.exists_read?_of_spells spells
    rw [read] at built
    refine ⟨.compare relation literal, built, ?_⟩
    intro value held
    obtain ⟨v, valued, spans⟩ := held.exists_integer integral
    refine ⟨v, valued, spans, ?_⟩
    rw [Test.passes_compare, Literal.order?_of_integers valued meant]
    exact relation.accepts_compare_iff v n
  have refused : (¬ ∃ n, type.Spells argument n) →
      relation.operator.build usedName leaf (some argument) =
        .error (.argumentNotOfType usedName leaf.typeName (.text argument)) := by
    intro spellsNothing
    rw [Scalar.read?_eq_none integral spellsNothing] at built
    exact built
  refine ⟨⟨?_, ?_⟩, exact_of_spells, refused⟩
  · rintro ⟨test, made⟩
    by_contra spellsNothing
    rw [refused spellsNothing] at made
    cases made
  · rintro ⟨n, spells⟩
    obtain ⟨test, made, -⟩ := exact_of_spells n spells
    exact ⟨test, made⟩

/-- The least integer of eight bits is compared exactly; the number behind the greatest is
refused. -/
theorem Leaf.integer_comparisons_exact_at_bounds :
    let type : Scalar := .signed .bits8
    let leaf : Leaf :=
      { path := "Level", owner := "Hero", type := .scalar type, typeName := "i8"
        nullable := true, nullableParent := false, slots := [0] }
    type.Spells "\u2003-0128\n" (-128) ∧ (¬ ∃ n, type.Spells "+128" n) ∧
      (∃ test, Operator.lessThanOrEqual.build "AtMost" leaf (some "\u2003-0128\n") = .ok test ∧
        test.passes (.signed (-128)) = true ∧ test.passes (.signed (-127)) = false) ∧
      Operator.lessThanOrEqual.build "AtMost" leaf (some "+128") =
        .error (.argumentNotOfType "AtMost" "i8" (.text "+128")) := by
  intro type leaf
  have least : type.Spells "\u2003-0128\n" (-128) := by
    have digits : Text.DigitRun "0128".toList :=
      ⟨List.cons_ne_nil _ _, List.all_eq_true.mp rfl⟩
    refine ⟨['\u2003'], "-0128".toList, ['\n'], ⟨rfl, ?_, ?_⟩, .minus rfl digits, ?_⟩
    · exact List.all_eq_true.mp rfl
    · exact List.all_eq_true.mp rfl
    · exact ⟨by decide, by decide⟩
  have beyond : ¬ ∃ n, type.Spells "+128" n := by
    rintro ⟨n, spells⟩
    obtain ⟨literal, read, -⟩ := Scalar.exists_read?_of_spells spells
    cases read
  have typed : leaf.type = .scalar type := rfl
  obtain ⟨-, compares, -⟩ := integer_comparisons_exact typed rfl
    (by decide : "\u2003-0128\n" ≠ "") .lessOrEqual "AtMost"
  obtain ⟨-, -, refuses⟩ := integer_comparisons_exact typed rfl
    (by decide : "+128" ≠ "") .lessOrEqual "AtMost"
  obtain ⟨test, built, decides⟩ := compares (-128) least
  obtain ⟨_, same, -, atLeast⟩ := decides (.signed (-128)) ⟨by decide, by decide⟩
  obtain ⟨_, next, -, above⟩ := decides (.signed (-127)) ⟨by decide, by decide⟩
  obtain rfl := Option.some.inj same
  obtain rfl := Option.some.inj next
  refine ⟨least, beyond, ⟨test, built, ?_, ?_⟩, refuses beyond⟩
  · exact atLeast.mpr (by decide : (-128 : Int) ≤ -128)
  · exact Bool.eq_false_iff.mpr (mt above.mp (by decide : ¬ (-127 : Int) ≤ -128))

end RecordRules
