import RecordRules.Proofs.Literal.Kind
import RecordRules.Proofs.Operator.Comparison
import RecordRules.Proofs.Text.Trimming

/-!
# Blanks around arguments

Where a field does not hold texts, blanks before and behind the argument of a comparison make
no difference: the argument is trimmed before it is read.  Whether an argument is empty is
asked before that, however, and of a field that may be absent.  There the empty argument gives
a comparison that always fails, while an argument of blanks is read, and nothing can be read
from blanks.
-/

namespace RecordRules

open Text

/-! ## Reading between blanks -/

namespace Scalar

variable {type : Scalar}

theorem parse?_nil (notText : type ≠ .text) : type.parse? [] = none := by
  cases type with
  | text => exact absurd rfl notText
  | _ => rfl

theorem read?_between_blanks (notText : type ≠ .text) {front back : String}
    (blankFront : ∀ c ∈ front.toList, isBlank c = true)
    (blankBack : ∀ c ∈ back.toList, isBlank c = true) (argument : String) :
    type.read? (front ++ (argument ++ back)) = type.read? argument := by
  rw [read?_eq_parse? notText, read?_eq_parse? notText, String.toList_append,
    String.toList_append, trim_between_blanks blankFront blankBack]

theorem read?_of_blank (notText : type ≠ .text) {blanks : String}
    (blank : ∀ c ∈ blanks.toList, isBlank c = true) : type.read? blanks = none := by
  have core : trim blanks.toList = [] :=
    trim_of_pads ⟨by simp, blank, List.forall_mem_nil _⟩ (.of_forall_mem (List.forall_mem_nil _))
  rw [read?_eq_parse? notText, core, parse?_nil notText]

end Scalar

/-! ## Comparing with arguments between blanks -/

/-- Whether a comparison takes two arguments alike: both make the same test, or both are refused
with errors that differ in the quoted argument only. -/
def Leaf.TakesAlike (leaf : Leaf) (relation : Relation) (usedName first second : String) : Prop :=
  (∃ test, relation.operator.build usedName leaf (some first) = .ok test ∧
    relation.operator.build usedName leaf (some second) = .ok test) ∨
  ∃ expected,
    relation.operator.build usedName leaf (some first) =
      .error (.argumentNotOfType usedName expected (.text first)) ∧
    relation.operator.build usedName leaf (some second) =
      .error (.argumentNotOfType usedName expected (.text second))

namespace Leaf

variable {leaf : Leaf} {type : Scalar} {relation : Relation} {usedName : String}

theorem takesAlike_of_heeds (typed : leaf.type = .scalar type) {first second : String}
    (heedsFirst : ¬ leaf.type.Ignores leaf.nullable first)
    (heedsSecond : ¬ leaf.type.Ignores leaf.nullable second)
    (same : type.read? second = type.read? first) :
    leaf.TakesAlike relation usedName first second := by
  cases read : type.read? first with
  | none =>
      exact .inr ⟨leaf.typeName,
        (Operator.Makes.unreadable (typed ▸ heedsFirst) read).build_eq typed rfl,
        (Operator.Makes.unreadable (typed ▸ heedsSecond) (same.trans read)).build_eq typed rfl⟩
  | some literal =>
      exact .inl ⟨.compare relation literal,
        (Operator.Makes.compared (typed ▸ heedsFirst) read).build_eq typed rfl,
        (Operator.Makes.compared (typed ▸ heedsSecond) (same.trans read)).build_eq typed rfl⟩

/-- An argument that says nothing to the field makes a test that always fails. -/
theorem build_of_ignores (typed : leaf.type = .scalar type) {argument : String}
    (ignores : leaf.type.Ignores leaf.nullable argument) (relation : Relation)
    (usedName : String) :
    relation.operator.build usedName leaf (some argument) = .ok (.constant false) :=
  (Operator.Makes.comparedWithEmpty (typed ▸ ignores)).build_eq typed rfl

/-- A field that may be absent is compared with the empty argument, which always fails, and not
with blanks, which are refused as no argument of the type. -/
theorem empty_told_from_blanks (typed : leaf.type = .scalar type) (notText : type ≠ .text)
    (absence : leaf.nullable = true) {blanks : String} (present : blanks ≠ "")
    (blank : ∀ c ∈ blanks.toList, isBlank c = true) (relation : Relation) (usedName : String) :
    relation.operator.build usedName leaf (some "") = .ok (.constant false) ∧
      relation.operator.build usedName leaf (some blanks) =
        .error (.argumentNotOfType usedName leaf.typeName (.text blanks)) := by
  have other : leaf.type ≠ .scalar .text := by
    rw [typed]
    exact fun texts => notText (FieldType.scalar.inj texts)
  have heeds : ¬ leaf.type.Ignores leaf.nullable blanks := fun ignores => present ignores.1
  have unread : type.read? blanks = none := Scalar.read?_of_blank notText blank
  exact ⟨build_of_ignores typed ⟨rfl, absence, other⟩ relation usedName,
    (Operator.Makes.unreadable (typed ▸ heeds) unread).build_eq typed rfl⟩

/-- A comparison of a field that does not hold texts takes an argument alike with blanks around
it and without, unless the field may be absent, the argument is empty and there is some blank. -/
theorem comparisons_between_blanks (typed : leaf.type = .scalar type) (notText : type ≠ .text)
    {front back : String} (blankFront : ∀ c ∈ front.toList, isBlank c = true)
    (blankBack : ∀ c ∈ back.toList, isBlank c = true) (argument : String)
    (relation : Relation) (usedName : String) :
    (leaf.TakesAlike relation usedName argument (front ++ (argument ++ back)) ↔
      ¬ (leaf.nullable = true ∧ argument = "" ∧ front ++ back ≠ "")) ∧
    (leaf.nullable = true → argument = "" → front ++ back ≠ "" →
      relation.operator.build usedName leaf (some argument) = .ok (.constant false) ∧
      relation.operator.build usedName leaf (some (front ++ (argument ++ back))) =
        .error (.argumentNotOfType usedName leaf.typeName
          (.text (front ++ (argument ++ back))))) := by
  have blank : ∀ c ∈ (front ++ back).toList, isBlank c = true := by
    rw [String.toList_append]
    intro c member
    exact (List.mem_append.mp member).elim (blankFront c) (blankBack c)
  refine ⟨⟨?_, ?_⟩, ?_⟩
  · rintro alike ⟨absence, rfl, present⟩
    rw [String.empty_append] at alike
    obtain ⟨constant, refused⟩ :=
      empty_told_from_blanks typed notText absence present blank relation usedName
    rcases alike with ⟨test, -, made⟩ | ⟨expected, failed, -⟩
    · cases refused.symm.trans made
    · cases constant.symm.trans failed
  · intro regular
    by_cases ignores : leaf.type.Ignores leaf.nullable argument
    · -- The argument is empty here, so that there are no blanks around it.
      have constant := build_of_ignores typed ignores relation usedName
      obtain ⟨rfl, absence, -⟩ := ignores
      have bare : front ++ back = "" := by
        by_contra present
        exact regular ⟨absence, rfl, present⟩
      rw [String.empty_append, bare]
      exact .inl ⟨_, constant, constant⟩
    · refine takesAlike_of_heeds typed ignores ?_
        (Scalar.read?_between_blanks notText blankFront blankBack argument)
      rintro ⟨empty, absence, notTexts⟩
      have parts : front = "" ∧ argument = "" ∧ back = "" := by simpa using empty
      exact ignores ⟨parts.2.1, absence, notTexts⟩
  · rintro absence rfl present
    rw [String.empty_append]
    exact empty_told_from_blanks typed notText absence present blank relation usedName

/-- A number between blanks is a number to a field that may be absent; blanks alone are none. -/
theorem comparisons_between_blanks_of_byte :
    let leaf : Leaf :=
      { path := "Age", owner := "Hero", type := .scalar (.unsigned .bits8), typeName := "u8"
        nullable := true, nullableParent := false, slots := [0] }
    leaf.type = .scalar (.unsigned .bits8) ∧ Scalar.unsigned .bits8 ≠ .text ∧
      (∀ c ∈ "\u2003".toList, isBlank c = true) ∧ (∀ c ∈ "\n".toList, isBlank c = true) ∧
      leaf.TakesAlike .greater "Above" "7" ("\u2003" ++ ("7" ++ "\n")) ∧
      ¬ leaf.TakesAlike .greater "Above" "" ("\u2003" ++ ("" ++ "\n")) := by
  intro leaf
  have typed : leaf.type = .scalar (.unsigned .bits8) := rfl
  have notText : Scalar.unsigned .bits8 ≠ .text := nofun
  have front : ∀ c ∈ "\u2003".toList, isBlank c = true := List.all_eq_true.mp rfl
  have back : ∀ c ∈ "\n".toList, isBlank c = true := List.all_eq_true.mp rfl
  obtain ⟨seven, -⟩ := comparisons_between_blanks typed notText front back "7" .greater "Above"
  obtain ⟨nothing, -⟩ := comparisons_between_blanks typed notText front back "" .greater "Above"
  refine ⟨typed, notText, front, back, seven.mpr ?_, fun alike => nothing.mp alike ?_⟩
  · rintro ⟨-, empty, -⟩
    exact absurd empty (by decide)
  · exact ⟨rfl, rfl, by decide⟩

/-- A field that may be absent is compared with the empty argument, and not with a blank. -/
theorem blank_told_from_empty :
    let leaf : Leaf :=
      { path := "Score", owner := "Hero", type := .scalar (.signed .bits32), typeName := "i32"
        nullable := true, nullableParent := false, slots := [0] }
    (∀ c ∈ " ".toList, isBlank c = true) ∧
      Relation.equal.operator.build "Equal" leaf (some "") = .ok (.constant false) ∧
      Relation.equal.operator.build "Equal" leaf (some ("" ++ ("" ++ " "))) =
        .error (.argumentNotOfType "Equal" "i32" (.text " ")) ∧
      ¬ leaf.TakesAlike .equal "Equal" "" ("" ++ ("" ++ " ")) := by
  intro leaf
  have constant : Relation.equal.operator.build "Equal" leaf (some "") =
      .ok (.constant false) := rfl
  have refused : Relation.equal.operator.build "Equal" leaf (some ("" ++ ("" ++ " "))) =
      .error (.argumentNotOfType "Equal" "i32" (.text " ")) := rfl
  refine ⟨List.all_eq_true.mp rfl, constant, refused, ?_⟩
  rintro (⟨test, -, made⟩ | ⟨expected, failed, -⟩)
  · cases refused.symm.trans made
  · cases constant.symm.trans failed

end Leaf

end RecordRules
