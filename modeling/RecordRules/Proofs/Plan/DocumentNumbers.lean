import RecordRules.Proofs.Json.ExactNumber
import RecordRules.Proofs.Operator.Integer
import RecordRules.Proofs.Plan.Preparation
import RecordRules.Proofs.Record.Document

/-!
# Comparing the numbers of documents

The number of a document and the number of an argument come from two readers.  Whichever
numbers they read, the six comparisons are prepared for the document, and the order of the two
numbers decides them.  Integers of 64 bits are rounded alike by both readers, so that their
comparisons are never the wrong way round.  Numbers of other forms equal their own texts where
the document rounds them once, but not everywhere.
-/

namespace RecordRules

open Text Json

/-! ## Criteria that compare -/

def Relation.criterion (relation : Relation) (path argument : String) : Criterion :=
  ⟨path, relation.operator.name, some argument⟩

theorem Registry.strategy?_builtIn (operator : Operator) :
    Registry.builtIn.strategy? operator.name = some operator.build := by
  cases operator <;> rfl

/-- Criteria that compare are prepared for a document, and their checks answer for its record. -/
def Json.Answers (document : Json) (path argument : String) (answer : Relation → Bool) : Prop :=
  ∀ (catalog : Catalog) (relation : Relation), ∃ check,
    ((relation.criterion path argument).prepare ⟨catalog, document.record.type⟩ .builtIn).value =
      .ok check ∧
    check.holds document.record = answer relation

theorem Json.at?_of_plain {key : String} (plain : segments key = [key]) (value : Json) :
    (Json.object [(key, value)]).at? (segments key) = some value := by
  simp [plain, member?, lookup]

/-- A number of a document and an argument that is read as a number are compared by their order. -/
theorem Json.answers_of_number {document : Json} {path argument : String} {number other : Double}
    (stands : document.at? (segments path) = some (.number number))
    (read : Scalar.float64.read? argument = some (.float other)) :
    document.Answers path argument (·.accepts (number.order? other)) := by
  intro catalog relation
  cases split : segments path with
  | nil => exact absurd split (segments_ne_nil path)
  | cons key rest =>
      rw [split] at stands
      obtain ⟨leaf, walks⟩ := exists_walks_of_at? stands
      obtain ⟨value, reached, leads⟩ := walks.exists_at? rfl
      obtain rfl := Option.some.inj (stands.symm.trans reached)
      have resolved : Schema.resolve ⟨catalog, document.record.type⟩ path = .ok leaf := by
        rw [Schema.resolve_eq_ok_iff, split]
        exact walks
      have typed : leaf.type = .scalar .float64 := leads.type_eq
      have heeds : ¬ leaf.type.Ignores leaf.nullable argument :=
        fun ignores => Scalar.ne_empty_of_read? (by decide) read ignores.1
      have built : relation.operator.build relation.operator.name leaf (some argument) =
          .ok (.compare relation (.float other)) := by
        rw [Operator.build_relation_some, Test.ofComparison_of_heeds typed heeds, read]
      have prepared : ((relation.criterion path argument).prepare _ .builtIn).value = .ok _ :=
        Criterion.prepare_eq_ok_iff.mpr
          ⟨_, leaf, _, Registry.strategy?_builtIn relation.operator, resolved, built, rfl⟩
      refine ⟨_, prepared, ?_⟩
      change (Test.compare relation (.float other)).passes (leaf.read document.record) = _
      rw [Test.passes_compare, leads.read_eq]
      rfl

/-! ## Integers -/

def Scalar.IsWord (type : Scalar) : Prop :=
  type = .signed .bits64 ∨ type = .unsigned .bits64

theorem Scalar.IsWord.natAbs_lt {type : Scalar} (word : type.IsWord) {n : Int}
    (spans : type.Spans n) : n.natAbs < twoTo 64 := by
  have bound : twoTo 64 = 18446744073709551616 := rfl
  rcases word with rfl | rfl
  · have within : -2 ^ 63 ≤ n ∧ n < 2 ^ 63 := spans
    omega
  · have within : 0 ≤ n ∧ n < 2 ^ 64 := spans
    omega

/-- A number without a fraction and an exponent is an integer. -/
structure NumberText.IsInteger (number : NumberText) (n : Int) : Prop extends number.Proper where
  noFraction : number.fraction = none
  noExponent : number.exponent = none
  meant : n = Double.signedWhole number.negative number.significand

/-- A document reads an integer of 64 bits as a number nearest to it. -/
theorem NumberText.IsInteger.exists_documentNumber {number : NumberText} {n : Int}
    (integer : number.IsInteger n) {type : Scalar} (word : type.IsWord) (spans : type.Spans n) :
    ∃ read, number.documentNumber = .ok read ∧ read.toDouble.IsNearest n := by
  have fits : number.significand < significandBound := by
    have magnitude := word.natAbs_lt spans
    rwa [integer.meant, Double.natAbs_signedWhole] at magnitude
  have bounded : number.significand ≤ twoTo 64 := Nat.le_of_lt fits
  have whole : number.isWhole = true :=
    (isWhole_iff fits).mpr ⟨integer.noFraction, integer.noExponent⟩
  obtain ⟨read, made, nearest⟩ := documentNumber_of_isWhole whole fits
  refine ⟨read, made, ?_⟩
  rw [nearest, numeral_of_whole integer.noFraction integer.noExponent,
    Numeral.toDouble_of_whole _ bounded, integer.meant]
  exact .of _ _

theorem Scalar.IsWord.exists_read? {type : Scalar} (word : type.IsWord) {argument : String}
    {n : Int}
    (spells : type.Spells argument n) :
    ∃ number, Scalar.float64.read? argument = some (.float number) ∧ number.IsNearest n := by
  obtain ⟨before, core, after, pads, written, spans⟩ := spells
  obtain ⟨number, read, nearest⟩ :=
    Double.exists_isNearest_of_integerText written.withSign (Nat.le_of_lt (word.natAbs_lt spans))
  refine ⟨number, ?_, nearest⟩
  rw [read?_eq_parse? (by decide), trim_of_pads pads written.solid, parse?, read]
  rfl

/-- Comparisons of integers of 64 bits in a document are never the wrong way round, and they are
exact up to two to the power of 53. -/
theorem Json.integer_comparisons_never_inverted {literal : NumberText} {n m : Int}
    {argument : String} {type argumentType : Scalar}
    (integer : literal.IsInteger n) (word : type.IsWord) (spans : type.Spans n)
    (argumentWord : argumentType.IsWord) (spells : argumentType.Spells argument m) :
    ∃ number : Double,
      (∀ (list object : Reader Json) gap rest, IsGap gap → NumberText.Ends rest →
        value list object (gap ++ (literal.write ++ rest)) = .ok (.number number, rest)) ∧
      (∀ key, ofText (oneMember key literal.write) = .ok (.object [(key, .number number)])) ∧
      ∀ (document : Json) path, document.at? (segments path) = some (.number number) →
        ∃ answer : Relation → Bool, document.Answers path argument answer ∧
          (answer .greater = true → n > m) ∧
          (answer .less = true → n < m) ∧
          (n = m → answer .equal = true) ∧
          (n.natAbs ≤ 2 ^ 53 → m.natAbs ≤ 2 ^ 53 →
            ∀ relation, answer relation = true ↔ relation.Relates n m) := by
  obtain ⟨read, made, nearest⟩ := integer.exists_documentNumber word spans
  obtain ⟨other, argumentRead, otherNearest⟩ := argumentWord.exists_read? spells
  refine ⟨read.toDouble, ?_, ?_, ?_⟩
  · intro list object gap rest blank ends
    rw [value_write integer.toProper ends blank, made]
    rfl
  · intro key
    rw [ofText_oneMember integer.toProper, made]
    rfl
  · intro document path stands
    have answers := answers_of_number stands argumentRead
    rw [Double.order?_of_nearest nearest otherNearest] at answers
    obtain ⟨ofLess, ofGreater, ofEqual⟩ := Double.order_of_wholeRank n m
    refine ⟨_, answers, ?_, ?_, ?_, ?_⟩
    · intro greater
      exact ofGreater (by simpa [Relation.accepts] using greater)
    · intro less
      exact ofLess (by simpa [Relation.accepts] using less)
    · intro same
      simpa [Relation.accepts] using ofEqual same
    · intro small argumentSmall relation
      rw [Double.compare_wholeRank_of_small small argumentSmall]
      exact relation.accepts_compare_iff n m

/-- The last two of the integers that are not rounded are told apart. -/
theorem Json.integer_comparisons_never_inverted_at_precision :
    let literal : NumberText := ⟨false, "9007199254740992".toList, none, none⟩
    let argument := " +9007199254740991"
    literal.IsInteger 9007199254740992 ∧
      (Scalar.signed .bits64).Spells argument 9007199254740991 ∧
      ∃ document answer, ofText (oneMember "x" literal.write) = .ok document ∧
        document.Answers "x" argument answer ∧
        answer .greater = true ∧ answer .less = false ∧ answer .equal = false := by
  intro literal argument
  have integer : literal.IsInteger 9007199254740992 :=
    { toComplete := by decide
      front := by rintro c rest ⟨⟩
      noFraction := rfl
      noExponent := rfl
      meant := rfl }
  have spans : (Scalar.signed .bits64).Spans 9007199254740992 := ⟨by decide, by decide⟩
  have spells : (Scalar.signed .bits64).Spells " +9007199254740991" 9007199254740991 := by
    have digits : DigitRun "9007199254740991".toList := by decide
    refine ⟨[' '], "+9007199254740991".toList, [], ⟨rfl, ?_, nofun⟩, .plus digits, ?_⟩
    · exact List.all_eq_true.mp rfl
    · exact ⟨by decide, by decide⟩
  obtain ⟨number, -, parsed, compares⟩ :=
    integer_comparisons_never_inverted integer (.inl rfl) spans (.inl rfl) spells
  obtain ⟨answer, answers, -, -, -, exact⟩ := compares _ "x" (at?_of_plain rfl (.number number))
  have decides := exact (by decide) (by decide)
  refine ⟨integer, spells, _, answer, parsed "x", answers, ?_, ?_, ?_⟩
  · exact (decides .greater).mpr (by decide : (9007199254740991 : Int) < 9007199254740992)
  · exact Bool.eq_false_iff.mpr
      (mt (decides .less).mp (by decide : ¬ (9007199254740992 : Int) < 9007199254740991))
  · exact Bool.eq_false_iff.mpr
      (mt (decides .equal).mp (by decide : ¬ (9007199254740992 : Int) = 9007199254740991))

/-! ## Numbers and their own texts -/

def Relation.isReflexive : Relation → Bool
  | .equal | .greaterOrEqual | .lessOrEqual => true
  | .notEqual | .greater | .less => false

theorem Relation.accepts_eq (relation : Relation) :
    relation.accepts (some .eq) = relation.isReflexive := by
  cases relation <;> rfl

theorem Scalar.read?_write {number : NumberText} (complete : number.Complete) :
    Scalar.float64.read? (String.ofList number.write) =
      some (.float (number.numeral.toDouble .binary64)) := by
  have solid : Solid number.write :=
    .of_forall_mem fun _ => NumberText.isBlank_of_mem_write complete
  rw [read?_eq_parse? (by decide), String.toList_ofList, solid.trim_eq, parse?,
    Double.read?_write complete]
  rfl

/-- A number in a document is finite, has the sign of its text, and is equal to it if the
document rounds only once. -/
theorem Json.number_beside_its_text {number : NumberText} (proper : number.Proper) {key : String}
    (plain : segments key = [key]) {document : Json}
    (parsed : ofText (oneMember key number.write) = .ok document) :
    ∃ (read other : Double) (order : Ordering),
      document = .object [(key, .number read)] ∧
      (∃ units, read = .finite number.negative units) ∧
      Scalar.float64.read? (String.ofList number.write) = some (.float other) ∧
      other = number.numeral.toDouble .binary64 ∧
      read.order? other = some order ∧
      document.Answers key (String.ofList number.write) (·.accepts (some order)) ∧
      (number.RoundedOnce → read = other ∧
        document.Answers key (String.ofList number.write) Relation.isReflexive) := by
  have argumentRead := Scalar.read?_write proper.toComplete
  rw [ofText_oneMember proper] at parsed
  cases made : number.documentNumber with
  | error fault =>
      rw [made] at parsed
      cases parsed
  | ok found =>
      rw [made] at parsed
      obtain rfl := Except.ok.inj parsed
      obtain ⟨units, finite⟩ := NumberText.exists_finite_of_documentNumber made
      have answers := answers_of_number (at?_of_plain plain (.number found.toDouble)) argumentRead
      cases ordered : found.toDouble.order? (number.numeral.toDouble .binary64) with
      | none =>
          rcases (Double.order?_eq_none_iff _ _).mp ordered with foundNan | otherNan
          · rw [finite] at foundNan
            cases foundNan
          · exact absurd otherNan (Numeral.toDouble_ne_nan _ _)
      | some order =>
          rw [ordered] at answers
          refine ⟨_, _, order, rfl, ⟨units, finite⟩, argumentRead, rfl, ordered, answers, ?_⟩
          intro once
          obtain ⟨read, same, nearest⟩ := once.exists_documentNumber
          obtain rfl := Except.ok.inj (made.symm.trans same)
          rw [← nearest, finite, Double.order?_finite_self] at ordered
          obtain rfl := Option.some.inj ordered
          refine ⟨nearest, ?_⟩
          simpa only [Relation.accepts_eq] using answers

/-- A number with a sign, a fraction and an exponent is equal to its own text. -/
theorem Json.number_beside_its_text_of_all_parts :
    let number : NumberText :=
      ⟨true, ['0'], some ['1', '2', '5'], some ⟨true, some false, ['0', '4']⟩⟩
    number.write = "-0.125E+04".toList ∧ number.Proper ∧ number.RoundedOnce ∧
      ∃ document, ofText (oneMember "x" number.write) = .ok document ∧
        document.Answers "x" "-0.125E+04" Relation.isReflexive := by
  intro number
  have proper : number.Proper := ⟨by decide, by rintro c rest ⟨⟩⟩
  have once : number.RoundedOnce := by
    refine .scaled (by decide) (BinaryFormat.has_of_le_twoTo (by decide) (by decide)) (by decide) ?_
    rintro exponent ⟨⟩
    decide
  obtain ⟨read, made, -⟩ := once.exists_documentNumber
  have parsed := ofText_oneMember proper "x"
  rw [made] at parsed
  obtain ⟨_, _, _, _, _, _, _, _, _, same⟩ := number_beside_its_text proper rfl parsed
  exact ⟨rfl, proper, once, _, parsed, (same once).2⟩

/-- Sixteen digits divided by a power of ten are rounded twice, which may leave the number less
than its own text. -/
theorem Json.number_less_than_its_text :
    ∃ document answer, ofText "\x7b\"x\": 9.871561133381757\x7d" = .ok document ∧
      document.Answers "x" "9.871561133381757" answer ∧
      answer .equal = false ∧ answer .lessOrEqual = true ∧ answer .less = true ∧
      answer .notEqual = true := by
  let number : NumberText := ⟨false, ['9'], some "871561133381757".toList, none⟩
  have proper : number.Proper := ⟨by decide, by rintro c rest ⟨⟩⟩
  have less : (number.documentNumber.toOption.map fun read =>
      read.toDouble.order? (number.numeral.toDouble .binary64)) = some (some .lt) := by
    decide +kernel
  have parsed := ofText_oneMember proper "x"
  cases made : number.documentNumber with
  | error fault =>
      rw [made] at less
      cases less
  | ok read =>
      rw [made] at less parsed
      have ordered : read.toDouble.order? (number.numeral.toDouble .binary64) = some .lt :=
        Option.some.inj less
      have plain : segments "x" = ["x"] := rfl
      have answers := answers_of_number (at?_of_plain plain (.number read.toDouble))
        (Scalar.read?_write proper.toComplete)
      rw [ordered] at answers
      exact ⟨_, _, parsed, answers, rfl, rfl, rfl, rfl⟩

end RecordRules
