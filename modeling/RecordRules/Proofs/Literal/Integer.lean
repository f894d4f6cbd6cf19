import Mathlib.Algebra.Order.Ring.Int
import Mathlib.Data.List.Induction
import Mathlib.Data.Nat.Digits.Defs
import RecordRules.Proofs.Literal.Kind
import RecordRules.Proofs.Text.Trimming

/-!
# Integers as texts

A text spells an integer of a type if, between blanks, it is an optional sign and some
digits, and the number that they stand for lies within the type.  A minus sign is known to
the signed types only.  Reading an argument for a type of integers gives the integer that
the argument spells, and nothing if it spells none.
-/

namespace RecordRules

namespace Text

/-- The number that digits stand for, to the base ten. -/
def decimalNumber (digits : List Char) : Nat :=
  Nat.ofDigits 10 (digits.reverse.map digitValue)

theorem natValue_eq_decimalNumber (digits : List Char) :
    natValue digits = decimalNumber digits := by
  induction digits using List.reverseRecOn with
  | nil => rfl
  | append_singleton digits last ih =>
      have shifted : natValue (digits ++ [last]) = 10 * natValue digits + digitValue last := by
        simp [natValue]
      rw [shifted, ih, decimalNumber, decimalNumber, List.reverse_concat, List.map_cons,
        Nat.ofDigits_cons]
      omega

/-- At least one digit, and nothing but digits. -/
structure DigitRun (digits : List Char) : Prop where
  nonempty : digits ≠ []
  digit : ∀ c ∈ digits, isDigit c = true

instance (digits : List Char) : Decidable (DigitRun digits) :=
  decidable_of_iff (digits ≠ [] ∧ digits.all isDigit = true)
    ⟨fun ⟨nonempty, digit⟩ => ⟨nonempty, List.all_eq_true.mp digit⟩,
      fun run => ⟨run.nonempty, List.all_eq_true.mpr run.digit⟩⟩

theorem natural?_eq_some_iff {digits : List Char} {n : Nat} :
    natural? digits = some n ↔ DigitRun digits ∧ n = decimalNumber digits := by
  rw [natural?, natValue_eq_decimalNumber]
  constructor
  · intro read
    split at read
    · cases read
    · next shape =>
        simp only [Bool.or_eq_true, List.isEmpty_iff, Bool.not_eq_true', not_or,
          Bool.not_eq_false, List.all_eq_true] at shape
        exact ⟨⟨shape.1, shape.2⟩, (Option.some.inj read).symm⟩
  · rintro ⟨⟨nonempty, digit⟩, rfl⟩
    rw [if_neg]
    simpa [nonempty] using digit

/-- The texts of integers: digits behind an optional sign, a minus sign only where it is known. -/
inductive IntegerText (signed : Bool) : List Char → Int → Prop where
  | plain {digits : List Char} (run : DigitRun digits) :
      IntegerText signed digits (decimalNumber digits)
  | plus {digits : List Char} (run : DigitRun digits) :
      IntegerText signed ('+' :: digits) (decimalNumber digits)
  | minus {digits : List Char} (known : signed = true) (run : DigitRun digits) :
      IntegerText signed ('-' :: digits) (-(decimalNumber digits : Int))

/-- What stands behind an optional plus sign. -/
def behindPlus : List Char → List Char
  | '+' :: rest => rest
  | text => text

theorem DigitRun.not_mem {digits : List Char} (run : DigitRun digits) {c : Char}
    (other : isDigit c = false) : c ∉ digits := by
  intro member
  rw [run.digit c member] at other
  cases other

theorem DigitRun.behindPlus_eq {digits : List Char} (run : DigitRun digits) :
    behindPlus digits = digits := by
  unfold behindPlus
  split
  · exact absurd List.mem_cons_self (run.not_mem (by decide))
  · rfl

theorem DigitRun.takeSign_eq {digits : List Char} (run : DigitRun digits) :
    Numeral.takeSign digits = (false, digits) := by
  unfold Numeral.takeSign
  split
  · exact absurd List.mem_cons_self (run.not_mem (by decide))
  · exact absurd List.mem_cons_self (run.not_mem (by decide))
  · rfl

theorem integerText_false_iff {text : List Char} {n : Int} :
    IntegerText false text n ↔ ∃ m : Nat, natural? (behindPlus text) = some m ∧ n = m := by
  constructor
  · intro written
    cases written with
    | plain run =>
        rw [run.behindPlus_eq]
        exact ⟨_, natural?_eq_some_iff.mpr ⟨run, rfl⟩, rfl⟩
    | plus run => exact ⟨_, natural?_eq_some_iff.mpr ⟨run, rfl⟩, rfl⟩
    | minus known run => cases known
  · rintro ⟨m, read, rfl⟩
    unfold behindPlus at read
    split at read
    · obtain ⟨run, rfl⟩ := natural?_eq_some_iff.mp read
      exact .plus run
    · obtain ⟨run, rfl⟩ := natural?_eq_some_iff.mp read
      exact .plain run

theorem integerText_true_iff {text : List Char} {n : Int} :
    IntegerText true text n ↔
      ∃ m : Nat, natural? (Numeral.takeSign text).2 = some m ∧
        n = if (Numeral.takeSign text).1 then -(m : Int) else m := by
  constructor
  · intro written
    cases written with
    | plain run =>
        rw [run.takeSign_eq]
        exact ⟨_, natural?_eq_some_iff.mpr ⟨run, rfl⟩, rfl⟩
    | plus run => exact ⟨_, natural?_eq_some_iff.mpr ⟨run, rfl⟩, rfl⟩
    | minus known run => exact ⟨_, natural?_eq_some_iff.mpr ⟨run, rfl⟩, rfl⟩
  · rintro ⟨m, read, rfl⟩
    unfold Numeral.takeSign at read ⊢
    split at read
    · obtain ⟨run, rfl⟩ := natural?_eq_some_iff.mp read
      exact .minus rfl run
    · obtain ⟨run, rfl⟩ := natural?_eq_some_iff.mp read
      exact .plus run
    · obtain ⟨run, rfl⟩ := natural?_eq_some_iff.mp read
      exact .plain run

theorem IntegerText.withSign {signed : Bool} {text : List Char} {n : Int}
    (written : IntegerText signed text n) : IntegerText true text n := by
  cases written with
  | plain run => exact .plain run
  | plus run => exact .plus run
  | minus known run => exact .minus rfl run

/-- No character of an integer is blank, so blanks around it can be told apart from it. -/
theorem IntegerText.solid {signed : Bool} {text : List Char} {n : Int}
    (written : IntegerText signed text n) : Solid text := by
  apply Solid.of_forall_mem
  intro c member
  cases written with
  | plain run => exact isBlank_of_isDigit (run.digit c member)
  | plus run =>
      rcases List.mem_cons.mp member with rfl | later
      · rfl
      · exact isBlank_of_isDigit (run.digit c later)
  | minus known run =>
      rcases List.mem_cons.mp member with rfl | later
      · rfl
      · exact isBlank_of_isDigit (run.digit c later)

end Text

/-! ## Types of integers -/

def Scalar.isSigned : Scalar → Bool
  | .signed _ => true
  | _ => false

def Scalar.Spans : Scalar → Int → Prop
  | .signed width, n => -2 ^ (width.bits - 1) ≤ n ∧ n < 2 ^ (width.bits - 1)
  | .unsigned width, n => 0 ≤ n ∧ n < 2 ^ width.bits
  | _, _ => False

/-- A text is the text of an integer of a type, with blanks around it. -/
def Scalar.Spells (type : Scalar) (text : String) (n : Int) : Prop :=
  ∃ before core after, Text.Pads before core after text.toList ∧
    Text.IntegerText type.isSigned core n ∧ type.Spans n

def Value.integer? : Value → Option Int
  | .signed n => some n
  | .unsigned n => some n
  | _ => none

def Literal.integer? : Literal → Option Int
  | .signed n => some n
  | .unsigned n => some n
  | _ => none

open Text

theorem readSigned?_eq_some_iff {width : Width} {text : List Char} {n : Int} :
    readSigned? width text = some n ↔
      IntegerText true text n ∧ (Scalar.signed width).Spans n := by
  have bound : (twoTo (width.bits - 1) : Int) = 2 ^ (width.bits - 1) := by
    norm_cast
  rw [integerText_true_iff]
  simp only [readSigned?, Scalar.Spans, bound]
  constructor
  · intro read
    split at read
    · cases read
    · next m digits =>
        obtain ⟨within, same⟩ := Option.ite_none_right_eq_some.mp read
        obtain rfl := Option.some.inj same
        exact ⟨⟨m, digits, rfl⟩, within⟩
  · rintro ⟨⟨m, digits, rfl⟩, within⟩
    rw [digits]
    exact if_pos within

theorem readUnsigned?_eq_some_iff {width : Width} {text : List Char} {n : Nat} :
    readUnsigned? width text = some n ↔
      IntegerText false text n ∧ (Scalar.unsigned width).Spans n := by
  have bound : ((n : Int) < 2 ^ width.bits) ↔ n < twoTo width.bits := by
    norm_cast
  rw [integerText_false_iff, Scalar.Spans, bound]
  simp only [readUnsigned?]
  constructor
  · intro read
    split at read
    · cases read
    · next m digits =>
        obtain ⟨within, same⟩ := Option.ite_none_right_eq_some.mp read
        obtain rfl := Option.some.inj same
        exact ⟨⟨m, digits, rfl⟩, Int.natCast_nonneg m, within⟩
  · rintro ⟨⟨m, digits, same⟩, -, within⟩
    obtain rfl := Int.natCast_inj.mp same
    split
    · next missing => cases missing.symm.trans digits
    · next k found =>
        obtain rfl : k = n := Option.some.inj (found.symm.trans digits)
        exact if_pos within

/-- An argument that spells an integer of a type is read as that integer. -/
theorem Scalar.exists_read?_of_spells {type : Scalar} {text : String} {n : Int}
    (spells : type.Spells text n) :
    ∃ literal, type.read? text = some literal ∧ literal.integer? = some n := by
  obtain ⟨before, core, after, pads, written, spans⟩ := spells
  have trimmed := trim_of_pads pads written.solid
  cases type with
  | signed width =>
      have read := readSigned?_eq_some_iff.mpr ⟨written, spans⟩
      refine ⟨.signed n, ?_, rfl⟩
      simp only [read?, parse?, trimmed, read, Option.map_some]
  | unsigned width =>
      obtain ⟨m, rfl⟩ := Int.eq_ofNat_of_zero_le spans.1
      have read := readUnsigned?_eq_some_iff.mpr ⟨written, spans⟩
      refine ⟨.unsigned m, ?_, rfl⟩
      simp only [read?, parse?, trimmed, read, Option.map_some]
  | _ => cases spans

/-- Only an argument that spells an integer of a type is read for the type. -/
theorem Scalar.exists_spells_of_read? {type : Scalar} (integral : type.kind = .integer)
    {text : String} {literal : Literal} (read : type.read? text = some literal) :
    ∃ n, type.Spells text n := by
  obtain ⟨before, after, pads⟩ := exists_pads_trim text.toList
  cases type with
  | signed width =>
      obtain ⟨n, parsed, -⟩ := Option.map_eq_some_iff.mp read
      obtain ⟨written, spans⟩ := readSigned?_eq_some_iff.mp parsed
      exact ⟨n, before, _, after, pads, written, spans⟩
  | unsigned width =>
      obtain ⟨n, parsed, -⟩ := Option.map_eq_some_iff.mp read
      obtain ⟨written, spans⟩ := readUnsigned?_eq_some_iff.mp parsed
      exact ⟨n, before, _, after, pads, written, spans⟩
  | _ => cases integral

theorem Scalar.read?_eq_none {type : Scalar} (integral : type.kind = .integer)
    {text : String} (spellsNothing : ¬ ∃ n, type.Spells text n) : type.read? text = none := by
  apply Option.eq_none_iff_forall_ne_some.mpr
  intro literal read
  exact spellsNothing (exists_spells_of_read? integral read)

end RecordRules
