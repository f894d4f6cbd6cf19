import RecordRules.Proofs.Calendar.Written
import RecordRules.Proofs.Number.DecimalText
import RecordRules.Proofs.Operator.Integer
import RecordRules.Proofs.Uuid.Forms

/-!
# Values that are shown and read back

The detailed form of a value names its kind and holds a text of the value in brackets.  That
text, taken for an argument, is read for the type of the value as the value itself.  A zero
decimal that has a minus sign is the one exception: it is shown with its sign and read without.
Identifiers are read back from all of their other forms as well.
-/

namespace RecordRules

open Text

/-! ## Integers -/

namespace Text

theorem digitRun_decimalDigits (n : Nat) : DigitRun (decimalDigits n) :=
  ⟨decimalDigits_ne_nil n, fun _ => isDigit_of_mem_decimalDigits⟩

theorem decimalNumber_decimalDigits (n : Nat) : decimalNumber (decimalDigits n) = n := by
  rw [← natValue_eq_decimalNumber, natValue_decimalDigits]

theorem integerText_decimalDigits (signed : Bool) (n : Nat) :
    IntegerText signed (decimalDigits n) n := by
  have written : IntegerText signed (decimalDigits n) (decimalNumber (decimalDigits n)) :=
    .plain (digitRun_decimalDigits n)
  rwa [decimalNumber_decimalDigits] at written

theorem integerText_integerDigits (n : Int) : IntegerText true (integerDigits n) n := by
  rw [integerDigits]
  split
  · next negative =>
      have written := IntegerText.minus rfl (digitRun_decimalDigits n.natAbs)
      rwa [decimalNumber_decimalDigits, show -(n.natAbs : Int) = n by omega] at written
  · next positive =>
      have written := integerText_decimalDigits true n.natAbs
      rwa [show (n.natAbs : Int) = n by omega] at written

end Text

/-! ## Values -/

def Scalar.opening : Scalar → String
  | .bool => "Bool("
  | .signed _ => "Int("
  | .unsigned _ => "UInt("
  | .float32 | .float64 => "Float("
  | .decimal => "Decimal("
  | .text => "Str("
  | .dateTime => "DateTime("
  | .date => "Date("
  | .uuid => "Uuid("

def Scalar.closing : Scalar → String
  | .dateTime => " UTC)"
  | _ => ")"

/-- Whether a value is within the range of its kind: the coefficient and the scale of a decimal,
the day and the second of a point in time, the year of a date, the bits of an identifier. -/
def Value.InRange : Value → Prop
  | .decimal d => d.InBounds
  | .dateTime time => time.IsProper
  | .date day => day.isValid = true
  | .uuid id => id.value < 16 ^ 32
  | _ => True

/-- A zero decimal with a minus sign. -/
def Value.IsSignedZero : Value → Prop
  | .decimal d => d.negative = true ∧ d.coefficient = 0
  | _ => False

/-- The value, but for the minus sign of a zero decimal. -/
def Value.plain : Value → Value
  | .decimal d => .decimal d.plain
  | value => value

theorem Value.plain_eq_self {value : Value} (ordinary : ¬ value.IsSignedZero) :
    value.plain = value := by
  cases value with
  | decimal d =>
      exact congrArg Value.decimal (Decimal.plain_eq_self_iff.mpr fun negative zero =>
        ordinary ⟨negative, zero⟩)
  | _ => rfl

theorem Literal.order?_value {literal : Literal} (counted : literal.kind ≠ .float) :
    literal.order? literal.value = some .eq := by
  cases literal with
  | float number => exact absurd rfl counted
  | _ => simp [order?, value, Decimal.order, Text.order, DateTime.order, Date.order, Uuid.order]

theorem Literal.order?_of_plain {literal : Literal} {value : Value}
    (same : literal.value = value.plain) (counted : literal.kind ≠ .float) :
    literal.order? value = some .eq := by
  by_cases signed : value.IsSignedZero
  · cases value with
    | decimal d =>
        cases literal with
        | decimal e =>
            obtain rfl := Value.decimal.inj same
            exact congrArg some d.order_plain
        | _ => cases same
    | _ => cases signed
  · rw [← Value.plain_eq_self signed, ← same]
    exact order?_value counted

namespace Scalar

/-- A text that is read for a type as a value is, up to the sign of a zero. -/
structure ReadsBack (type : Scalar) (value : Value) (text : List Char) : Prop where
  solid : Solid text
  parsed : ∃ literal, type.parse? text = some literal ∧ literal.value = value.plain

variable {type : Scalar} {value : Value} {text : List Char}

/-- The text in the brackets of the detailed form of a value is read back. -/
theorem exists_shown (held : type.Holds value) (inRange : value.InRange)
    (counted : type.kind ≠ .float) (quoted : type.kind ≠ .text) :
    ∃ text, value.describe = type.opening ++ String.ofList text ++ type.closing ∧
      type.ReadsBack value text := by
  cases type with
  | bool =>
      cases value with
      | bool b =>
          refine ⟨(toString b).toList, by rw [String.ofList_toList]; rfl, ?_, ⟨.bool b, ?_, rfl⟩⟩
          · apply Solid.of_forall_mem
            cases b <;> exact fun _ => isBlank_of_mem_of_all rfl
          · cases b <;> rfl
      | _ => cases held
  | signed width =>
      cases value with
      | signed n =>
          have written := integerText_integerDigits n
          have spans : (Scalar.signed width).Spans n := by
            simpa [Spans, Holds, twoTo] using held
          have read := readSigned?_eq_some_iff.mpr ⟨written, spans⟩
          exact ⟨integerDigits n, rfl, written.solid, .signed n, by rw [parse?, read]; rfl, rfl⟩
      | _ => cases held
  | unsigned width =>
      cases value with
      | unsigned n =>
          have written := integerText_decimalDigits false n
          have spans : (Scalar.unsigned width).Spans n := by
            have bounded : n < twoTo width.bits := held
            exact ⟨Int.natCast_nonneg n, by exact_mod_cast bounded⟩
          have read := readUnsigned?_eq_some_iff.mpr ⟨written, spans⟩
          exact ⟨decimalDigits n, rfl, written.solid, .unsigned n, by rw [parse?, read]; rfl, rfl⟩
      | _ => cases held
  | decimal =>
      cases value with
      | decimal d =>
          have read := Decimal.read?_write inRange
          exact ⟨d.write, rfl, d.solid_write, .decimal d.plain, by rw [parse?, read]; rfl, rfl⟩
      | _ => cases held
  | dateTime =>
      cases value with
      | dateTime time =>
          have read := Calendar.readDateTime?_writeBetween inRange
          refine ⟨time.writeBetween ' ', ?_, time.solid_writeBetween, .dateTime time, ?_, rfl⟩
          · have shown : (Value.dateTime time).describe =
                "DateTime(" ++ String.ofList (time.writeBetween ' ' ++ " UTC".toList) ++ ")" := rfl
            have behind : " UTC" ++ ")" = " UTC)" := by decide
            rw [shown, String.ofList_append, String.ofList_toList, String.append_assoc,
              String.append_assoc, behind, ← String.append_assoc]
            rfl
          · rw [parse?, read]
            rfl
      | _ => cases held
  | date =>
      cases value with
      | date date =>
          have read := Calendar.readDate?_write inRange
          exact ⟨date.write, rfl, .of_forall_mem fun _ => Date.isBlank_of_mem_write, .date date,
            by rw [parse?, read]; rfl, rfl⟩
      | _ => cases held
  | uuid =>
      cases value with
      | uuid id =>
          have read := Uuid.read?_write inRange
          exact ⟨id.write, rfl, .of_forall_mem fun _ => Uuid.isBlank_of_mem_write, .uuid id,
            by rw [parse?, read]; rfl, rfl⟩
      | _ => cases held
  | float32 => exact absurd rfl counted
  | float64 => exact absurd rfl counted
  | text => exact absurd rfl quoted

/-- The forms of an identifier are read back in any letter case. -/
theorem readsBack_of_recased {id : Uuid} (bounded : id.value < 16 ^ 32)
    (recased : text.map asciiLower ∈ id.forms) : Scalar.uuid.ReadsBack (.uuid id) text where
  solid := by
    apply Solid.of_forall_mem
    intro c member
    cases blank : isBlank c with
    | false => rfl
    | true =>
        have inside := List.mem_map_of_mem (f := asciiLower) member
        have visible := Uuid.isBlank_of_mem_forms recased inside
        rw [asciiLower_of_blank blank, blank] at visible
        cases visible
  parsed := by
    have read := Uuid.read?_of_mem_forms bounded recased
    rw [Uuid.read?_map_asciiLower] at read
    exact ⟨.uuid id, by rw [parse?, read]; rfl, rfl⟩

/-- The texts of a value of a type: the one in the brackets of its detailed form and, of an
identifier, each of its forms in any letter case. -/
inductive Writes (type : Scalar) (value : Value) (text : String) : Prop where
  | shown (framed : value.describe = type.opening ++ text ++ type.closing)
  | form {id : Uuid} (same : value = .uuid id) (recased : text.toList.map asciiLower ∈ id.forms)

theorem Writes.readsBack {text : String} (writes : type.Writes value text)
    (held : type.Holds value) (inRange : value.InRange) (counted : type.kind ≠ .float)
    (quoted : type.kind ≠ .text) : type.ReadsBack value text.toList := by
  cases writes with
  | shown framed =>
      obtain ⟨shown, framedToo, readsBack⟩ := exists_shown held inRange counted quoted
      have same : shown = text.toList := by
        rw [framedToo] at framed
        have letters := congrArg String.toList framed
        simpa using letters
      exact same ▸ readsBack
  | form same recased =>
      subst same
      cases type with
      | uuid => exact readsBack_of_recased inRange recased
      | _ => cases held

theorem ReadsBack.exists_read? {text : String} (readsBack : type.ReadsBack value text.toList)
    (quoted : type.kind ≠ .text) :
    ∃ literal, type.read? text = some literal ∧ literal.value = value.plain := by
  obtain ⟨literal, parsed, same⟩ := readsBack.parsed
  refine ⟨literal, ?_, same⟩
  rw [read?_eq_parse? (mt (congrArg Scalar.kind) quoted), readsBack.solid.trim_eq]
  exact parsed

end Scalar

/-- The text in the brackets of a value's detailed form is read for every field of its type as
the value, but for the minus sign of a zero decimal.  So are the other forms of an identifier, in
any letter case. -/
theorem Leaf.shown_values_read_back {leaf : Leaf} {type : Scalar}
    (typed : leaf.type = .scalar type) (counted : type.kind ≠ .float) (quoted : type.kind ≠ .text)
    {value : Value} (held : type.Holds value) (inRange : value.InRange) :
    (∃ text, value.describe = type.opening ++ text ++ type.closing) ∧
    ∀ text, type.Writes value text →
      ∃ literal : Literal, literal.value = value.plain ∧
        (¬ value.IsSignedZero → literal.value = value) ∧
        ∀ usedName, leaf.literal usedName text = .ok literal ∧
          Operator.equal.build usedName leaf (some text) = .ok (.compare .equal literal) ∧
          (Test.compare .equal literal).passes value = true := by
  constructor
  · obtain ⟨text, framed, -⟩ := Scalar.exists_shown held inRange counted quoted
    exact ⟨_, framed⟩
  · intro text writes
    obtain ⟨literal, read, same⟩ :=
      (writes.readsBack held inRange counted quoted).exists_read? quoted
    refine ⟨literal, same, fun ordinary => same.trans (Value.plain_eq_self ordinary), ?_⟩
    intro usedName
    have heeds : ¬ leaf.type.Ignores leaf.nullable text :=
      fun ignores => Scalar.ne_empty_of_read? quoted read ignores.1
    have built : Operator.equal.build usedName leaf (some text) =
        .ok (.compare .equal literal) := by
      rw [show Operator.equal = Relation.operator .equal from rfl, Operator.build_relation_some,
        Test.ofComparison_of_heeds typed heeds, read]
    have unlike : literal.kind ≠ .float := by
      rw [Scalar.kind_of_read? read]
      exact counted
    refine ⟨(literal_eq_ok_iff typed).mpr read, built, ?_⟩
    rw [Test.passes_compare, Literal.order?_of_plain same unlike]
    rfl

/-- A leap second in a year with a sign and five digits is shown as the second 60 and read back. -/
theorem Leaf.shown_values_read_back_at_leap_second :
    let leaf : Leaf :=
      { path := "Seen", owner := "Hero", type := .scalar .dateTime, typeName := "DateTime"
        nullable := true, nullableParent := false, slots := [0] }
    let leap : Value := .dateTime ⟨-441592300801, 1500000000⟩
    let text := "-12024-06-30 23:59:60.500"
    Scalar.dateTime.Holds leap ∧ leap.InRange ∧ ¬ leap.IsSignedZero ∧
      Scalar.dateTime.Writes leap text ∧
      ∃ literal : Literal, literal.value = leap ∧ leaf.literal "Is" text = .ok literal ∧
        Operator.equal.build "Is" leaf (some text) = .ok (.compare .equal literal) ∧
        (Test.compare .equal literal).passes leap = true := by
  intro leaf leap text
  have held : Scalar.dateTime.Holds leap := trivial
  have inSecond : 1500000000 < 2 * DateTime.nanosPerSecond := by decide
  have inRange : leap.InRange := ⟨by decide +kernel, inSecond, fun _ => by decide⟩
  have ordinary : ¬ leap.IsSignedZero := id
  have writes : Scalar.dateTime.Writes leap text := .shown (by decide +kernel)
  have typed : leaf.type = .scalar .dateTime := rfl
  obtain ⟨-, readBack⟩ := shown_values_read_back typed (by decide) (by decide) held inRange
  obtain ⟨literal, -, same, used⟩ := readBack text writes
  exact ⟨held, inRange, ordinary, writes, literal, same ordinary, used "Is"⟩

/-- A negative number divided by a power of ten may leave a zero with a minus sign, which is
shown but not read. -/
theorem Leaf.signed_zero_is_not_restored :
    let leaf : Leaf :=
      { path := "Price", owner := "Book", type := .scalar .decimal, typeName := "Decimal"
        nullable := false, nullableParent := false, slots := [0] }
    ∃ signed restored : Literal,
      leaf.literal "Equal" "-0.04e-27" = .ok signed ∧
        signed.value.describe = "Decimal(" ++ "-0.0000000000000000000000000000" ++ ")" ∧
        leaf.literal "Equal" "-0.0000000000000000000000000000" = .ok restored ∧
        restored.value.describe = "Decimal(" ++ "0.0000000000000000000000000000" ++ ")" ∧
        restored ≠ signed := by
  intro leaf
  have typed : leaf.type = .scalar .decimal := rfl
  refine ⟨.decimal ⟨true, 0, 28⟩, .decimal ⟨false, 0, 28⟩, ?_, ?_, ?_, ?_, ?_⟩
  · exact (literal_eq_ok_iff typed).mpr (by decide +kernel)
  · decide +kernel
  · exact (literal_eq_ok_iff typed).mpr (by decide +kernel)
  · decide +kernel
  · decide

end RecordRules
