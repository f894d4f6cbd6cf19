import RecordRules.Proofs.Operator.Table
import RecordRules.Proofs.Plan.Preparation
import RecordRules.Proofs.Record.Conformance

/-!
# Tests for absence that are decided beforehand

A criterion that asks whether a field is absent does not read the record if the field itself
is never absent.  On records that are absent only where their type lets them be, the
decision is right unless a record on the way to the field is absent, and it is right
everywhere if no record on the way may be.
-/

namespace RecordRules

/-- Whether a record keeps to a schema in what is absent: a slot only if its field may be, and a
field of records holds records that do the same.  Other values may be of any kind. -/
def Record.FitsInto (record : Record) (schema : Schema) : Prop :=
  record.value.Conforms (fun _ _ => True) schema.catalog schema.root

/-- The operators that ask, with some argument, whether a value is absent or present. -/
inductive Operator.Asks : Operator → Option String → (absent : Bool) → Prop where
  | isNull (argument : Option String) : Asks .isNull argument true
  | isNotNull (argument : Option String) : Asks .isNotNull argument false
  | equal : Asks .equal none true
  | notEqual : Asks .notEqual none false

/-- Asked without an argument, equality is a test for absence, and a difference one for presence. -/
theorem Operator.Asks.build_eq {operator : Operator} {argument : Option String} {absent : Bool}
    (asks : operator.Asks argument absent) (usedName : String) (leaf : Leaf) :
    operator.build usedName leaf argument = .ok (Test.ofPresence absent leaf) := by
  cases asks with
  | isNull => rfl
  | isNotNull => rfl
  | equal =>
      cases nullable : leaf.nullable with
      | false =>
          rw [Operator.Makes.equalToNothing.build_eq rfl nullable]
          simp [Test.ofPresence, nullable]
      | true =>
          rw [Operator.Makes.equalToNull.build_eq rfl nullable]
          simp [Test.ofPresence, nullable]
  | notEqual =>
      cases nullable : leaf.nullable with
      | false =>
          rw [Operator.Makes.differentFromNothing.build_eq rfl nullable]
          simp [Test.ofPresence, nullable]
      | true =>
          rw [Operator.Makes.differentFromNull.build_eq rfl nullable]
          simp [Test.ofPresence, nullable]

/-- A test for absence reads a nullable field, and takes any other to be present. -/
theorem Check.holds_ofPresence (criterion : Criterion) (leaf : Leaf) (absent : Bool)
    (record : Record) :
    (Check.mk criterion leaf.slots (Test.ofPresence absent leaf)).holds record =
      if leaf.nullable then (leaf.read record).isNull == absent else !absent := by
  cases nullable : leaf.nullable with
  | false => simp [holds, Test.ofPresence, nullable, Test.constant?]
  | true =>
      cases absent with
      | true => simp [holds, Test.ofPresence, nullable, Test.constant?, Test.passes, Leaf.read]
      | false => simp [holds, Test.ofPresence, nullable, Test.constant?, Test.passes, Leaf.read]

namespace Record.FitsInto

variable {record : Record} {schema : Schema} {path : String} {leaf : Leaf}

/-- Where a field is never absent, nothing is read exactly if a record on the way is absent. -/
theorem read_eq_null_iff (fits : record.FitsInto schema)
    (resolved : schema.resolve path = .ok leaf) (never : leaf.nullable = false) :
    (leaf.read record).isNull = true ↔ leaf.BreaksOff record := by
  have walks := Schema.resolve_eq_ok_iff.mp resolved
  constructor
  · intro absent
    refine walks.breaksOff_of_absent never fits ?_
    cases read : record.value.follow leaf.slots with
    | null => rfl
    | _ =>
        rw [Leaf.read, read] at absent
        cases absent
  · intro breaks
    rw [Leaf.read, Value.BreaksOff.follow_eq_null breaks]
    rfl

end Record.FitsInto

/-- Whether a field is absent is decided beforehand for a field that is itself never absent.  The
answer agrees with what is read exactly if the field itself may be absent or no record on the way
to it is. -/
theorem Criterion.absence_decided {schema : Schema} {registry : Registry} {record : Record}
    (fits : record.FitsInto schema) {criterion : Criterion} {leaf : Leaf}
    (resolved : schema.resolve criterion.path = .ok leaf) {operator : Operator}
    (registered : registry.strategy? criterion.operator = some operator.build) {absent : Bool}
    (asks : operator.Asks criterion.value absent) :
    ∃ check, (criterion.prepare schema registry).value = .ok check ∧
      (leaf.nullable = false → check.test.constant? = some (!absent)) ∧
      (leaf.nullableParent = false →
        check.holds record = ((leaf.read record).isNull == absent)) ∧
      (check.holds record = ((leaf.read record).isNull == absent) ↔
        leaf.nullable = true ∨ ¬ leaf.BreaksOff record) := by
  have walks := Schema.resolve_eq_ok_iff.mp resolved
  have agree : (Check.mk criterion leaf.slots (Test.ofPresence absent leaf)).holds record =
      ((leaf.read record).isNull == absent) ↔ leaf.nullable = true ∨ ¬ leaf.BreaksOff record := by
    rw [Check.holds_ofPresence]
    cases nullable : leaf.nullable with
    | true => simp
    | false =>
        -- The constant is right exactly if the value is there to be read.
        rw [← fits.read_eq_null_iff resolved nullable]
        cases (leaf.read record).isNull <;> cases absent <;> simp
  refine ⟨⟨criterion, leaf.slots, Test.ofPresence absent leaf⟩, ?_, ?_, ?_, agree⟩
  · rw [Criterion.prepare_eq_ok_iff]
    exact ⟨operator.build, leaf, _, registered, resolved, asks.build_eq _ leaf, rfl⟩
  · intro never
    simp [Test.ofPresence, never, Test.constant?]
  · intro kept
    refine agree.mpr (.inr fun breaks => ?_)
    rw [walks.nullableParent_of_breaksOff fits breaks] at kept
    cases kept

/-- The answer to a survey that has no response is taken to be present, though nothing is read. -/
theorem Criterion.absence_decided_below_absent_record :
    let response : RecordType := ⟨"Response", [⟨"Answer", .scalar (.signed .bits32), false, true⟩]⟩
    let survey : RecordType := ⟨"Survey", [⟨"Response", .declared "Response", true, true⟩]⟩
    let schema : Schema := ⟨fun _ => response, survey⟩
    let record : Record := ⟨survey, [.null]⟩
    let criterion : Criterion := ⟨"Response.Answer", "IsNull", none⟩
    let leaf : Leaf :=
      ⟨"Response.Answer", "Response", .scalar (.signed .bits32), "i32", false, true, [0, 0]⟩
    let check : Check := ⟨criterion, [0, 0], .constant false⟩
    record.FitsInto schema ∧
      schema.resolve "Response.Answer" = .ok leaf ∧
      Registry.builtIn.strategy? "IsNull" = some Operator.isNull.build ∧
      Operator.isNull.Asks none true ∧
      (criterion.prepare schema Registry.builtIn).value = .ok check ∧
      check.holds record = false ∧ (leaf.read record).isNull = true ∧ leaf.BreaksOff record := by
  intro response survey schema record criterion leaf check
  have fits : record.FitsInto schema := by
    refine .slots ?_ ?_
    · rintro (_ | slot) field stands absent
      · obtain rfl := Option.some.inj stands
        rfl
      · cases stands
    · rintro (_ | slot) field stands present
      · exact absurd rfl present
      · cases stands
  have resolved : schema.resolve "Response.Answer" = .ok leaf := rfl
  have registered : Registry.builtIn.strategy? "IsNull" = some Operator.isNull.build := rfl
  have asks : Operator.isNull.Asks none true := .isNull none
  have prepared : (criterion.prepare schema Registry.builtIn).value = .ok check :=
    prepare_eq_ok_iff.mpr ⟨_, leaf, _, registered, resolved, rfl, rfl⟩
  obtain ⟨decided, preparedToo, -, -, agree⟩ :=
    @Criterion.absence_decided schema Registry.builtIn record fits criterion leaf resolved .isNull
      registered true asks
  obtain rfl : check = decided := Except.ok.inj (prepared.symm.trans preparedToo)
  refine ⟨fits, resolved, registered, asks, prepared, rfl, rfl, ?_⟩
  by_contra kept
  have wrong : false = true := agree.mpr (.inr kept)
  cases wrong

end RecordRules
