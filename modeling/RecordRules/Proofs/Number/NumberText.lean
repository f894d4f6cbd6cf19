import RecordRules.Proofs.Literal.Integer
import RecordRules.Proofs.Number.WholeNumber
import RecordRules.Proofs.Text.Digits

/-!
# Texts of numbers

A number is written with digits, which may have a minus sign before them and a fraction and an
exponent behind them.  Read as a numeral, such a text gives the whole number of all its digits
and the power of ten that the fraction and the exponent leave; its floating-point number is the
one nearest to that numeral.  Integers with other signs, or with zeros in front, are numerals of
the power zero.
-/

namespace RecordRules

open Text

/-- The exponent of a number. -/
structure ExponentText where
  /-- Whether the mark is the capital letter. -/
  capital : Bool
  /-- Whether the sign is a minus sign, if there is a sign. -/
  sign : Option Bool
  digits : List Char

namespace ExponentText

def signText (exponent : ExponentText) : List Char :=
  match exponent.sign with
  | none => []
  | some false => ['+']
  | some true => ['-']

def write (exponent : ExponentText) : List Char :=
  (if exponent.capital then 'E' else 'e') :: (exponent.signText ++ exponent.digits)

def isDown (exponent : ExponentText) : Bool :=
  exponent.sign == some true

/-- The power of ten. -/
def power (exponent : ExponentText) : Int :=
  if exponent.isDown then -(natValue exponent.digits : Int) else natValue exponent.digits

end ExponentText

/-- The parts of a number. -/
structure NumberText where
  negative : Bool
  /-- The digits before the point. -/
  whole : List Char
  /-- The digits behind the point, if there is a point. -/
  fraction : Option (List Char)
  exponent : Option ExponentText

namespace NumberText

def fractionText (number : NumberText) : List Char :=
  number.fraction.elim [] ('.' :: ·)

def exponentText (number : NumberText) : List Char :=
  number.exponent.elim [] ExponentText.write

def unsigned (number : NumberText) : List Char :=
  number.whole ++ (number.fractionText ++ number.exponentText)

def write (number : NumberText) : List Char :=
  if number.negative then '-' :: number.unsigned else number.unsigned

def fractionDigits (number : NumberText) : List Char :=
  number.fraction.getD []

/-- The number that all digits stand for. -/
def significand (number : NumberText) : Nat :=
  natValue (number.whole ++ number.fractionDigits)

/-- The power of ten that the number of all digits is multiplied by. -/
def power (number : NumberText) : Int :=
  number.exponent.elim 0 ExponentText.power - number.fractionDigits.length

def numeral (number : NumberText) : Numeral :=
  ⟨number.negative, number.significand, number.power⟩

/-- Digits stand where they have to. -/
structure Complete (number : NumberText) : Prop where
  whole : DigitRun number.whole
  fraction : ∀ digits ∈ number.fraction, DigitRun digits
  exponent : ∀ exponent ∈ number.exponent, DigitRun exponent.digits

instance (number : NumberText) : Decidable number.Complete :=
  decidable_of_iff (DigitRun number.whole ∧
      number.fraction.all (fun digits => decide (DigitRun digits)) = true ∧
      number.exponent.all (fun exponent => decide (DigitRun exponent.digits)) = true) <| by
    simp only [Option.all_eq_true, decide_eq_true_eq]
    exact ⟨fun ⟨whole, fraction, exponent⟩ => ⟨whole, fraction, exponent⟩,
      fun ⟨whole, fraction, exponent⟩ => ⟨whole, fraction, exponent⟩⟩

end NumberText

/-! ## Reading -/

namespace Text

theorem takeDigits_of_digitRun {digits rest : List Char} (run : DigitRun digits)
    (ends : ∀ c ∈ rest.head?, isDigit c = false) : takeDigits (digits ++ rest) = (digits, rest) :=
  takeDigits_of_run run.digit ends

theorem DigitRun.append_ne_cons {digits rest later : List Char} (run : DigitRun digits) {c : Char}
    (other : isDigit c = false) : digits ++ rest ≠ c :: later := by
  obtain ⟨first, others, rfl⟩ := List.exists_cons_of_ne_nil run.nonempty
  intro same
  obtain ⟨rfl, -⟩ := List.cons.inj same
  exact run.not_mem other List.mem_cons_self

theorem DigitRun.isEmpty_eq {digits : List Char} (run : DigitRun digits) :
    digits.isEmpty = false :=
  List.isEmpty_eq_false_iff.mpr run.nonempty

theorem DigitRun.natural?_eq {digits : List Char} (run : DigitRun digits) :
    natural? digits = some (natValue digits) :=
  natural?_eq_some_iff.mpr ⟨run, natValue_eq_decimalNumber digits⟩

end Text

namespace NumberText

theorem exists_unsigned_eq_cons {number : NumberText} (complete : number.Complete) :
    ∃ c rest, number.unsigned = c :: rest ∧ isDigit c = true := by
  obtain ⟨c, others, shape⟩ := List.exists_cons_of_ne_nil complete.whole.nonempty
  have digit : isDigit c = true := by
    apply complete.whole.digit
    rw [shape]
    exact List.mem_cons_self
  rw [unsigned, shape]
  exact ⟨c, _, rfl, digit⟩

theorem not_digit_of_head_append (number : NumberText) {rest : List Char}
    (ends : ∀ c ∈ rest.head?, isDigit c = false) :
    ∀ c ∈ (number.exponentText ++ rest).head?, isDigit c = false := by
  intro c first
  unfold exponentText at first
  cases shape : number.exponent with
  | none =>
      rw [shape] at first
      exact ends c first
  | some exponent =>
      rw [shape] at first
      obtain rfl := Option.some.inj first
      cases exponent.capital <;> rfl

theorem isBlank_of_mem_exponentText {number : NumberText} (complete : number.Complete) {c : Char}
    (member : c ∈ number.exponentText) : isBlank c = false := by
  unfold exponentText at member
  cases shape : number.exponent with
  | none =>
      rw [shape] at member
      cases member
  | some exponent =>
      have run := complete.exponent exponent shape
      rw [shape, Option.elim_some, ExponentText.write, ExponentText.signText] at member
      rcases List.mem_cons.mp member with rfl | later
      · cases exponent.capital <;> rfl
      · rcases List.mem_append.mp later with sign | digit
        · cases signed : exponent.sign with
          | none =>
              rw [signed] at sign
              cases sign
          | some minus =>
              rw [signed] at sign
              cases minus <;> (rw [List.mem_singleton.mp sign]; rfl)
        · exact isBlank_of_isDigit (run.digit c digit)

theorem isBlank_of_mem_write {number : NumberText} (complete : number.Complete) {c : Char}
    (member : c ∈ number.write) : isBlank c = false := by
  have ofUnsigned : c ∈ number.unsigned → isBlank c = false := by
    intro inside
    rcases List.mem_append.mp inside with digit | later
    · exact isBlank_of_isDigit (complete.whole.digit c digit)
    · rcases List.mem_append.mp later with fraction | exponent
      · unfold fractionText at fraction
        cases pointed : number.fraction with
        | none =>
            rw [pointed] at fraction
            cases fraction
        | some digits =>
            rw [pointed] at fraction
            rcases List.mem_cons.mp fraction with rfl | digit
            · rfl
            · exact isBlank_of_isDigit ((complete.fraction digits pointed).digit c digit)
      · exact isBlank_of_mem_exponentText complete exponent
  unfold write at member
  split at member
  · rcases List.mem_cons.mp member with rfl | inside
    · rfl
    · exact ofUnsigned inside
  · exact ofUnsigned member

theorem exponentText_ne_point (number : NumberText) (rest : List Char) :
    number.exponentText ≠ '.' :: rest := by
  unfold exponentText
  cases number.exponent with
  | none => nofun
  | some exponent =>
      intro same
      have mark := (List.cons.inj same).1
      cases capital : exponent.capital <;> rw [capital] at mark <;> cases mark

end NumberText

namespace Numeral

theorem takeSign_of_digit {c : Char} (digit : isDigit c = true) (rest : List Char) :
    takeSign (c :: rest) = (false, c :: rest) := by
  unfold takeSign
  split
  · next same =>
      obtain ⟨rfl, -⟩ := List.cons.inj same
      cases digit
  · next same =>
      obtain ⟨rfl, -⟩ := List.cons.inj same
      cases digit
  · rfl

theorem exponent?_write {exponent : ExponentText} (run : DigitRun exponent.digits) :
    exponent? (exponent.signText ++ exponent.digits) = some exponent.power := by
  unfold exponent? ExponentText.signText ExponentText.power ExponentText.isDown
  cases exponent.sign with
  | none =>
      simp only [List.nil_append, run.takeSign_eq, run.natural?_eq]
      rfl
  | some minus =>
      cases minus with
      | false =>
          simp only [List.cons_append, List.nil_append, takeSign, run.natural?_eq]
          rfl
      | true =>
          simp only [List.cons_append, List.nil_append, takeSign, run.natural?_eq]
          rfl

theorem tail?_exponentText {number : NumberText} (complete : number.Complete) :
    tail? number.exponentText = some (number.exponent.elim 0 ExponentText.power) := by
  unfold NumberText.exponentText
  cases shape : number.exponent with
  | none => rfl
  | some exponent =>
      have read := exponent?_write (complete.exponent exponent shape)
      simp only [Option.elim_some, ExponentText.write]
      cases exponent.capital <;> exact read

theorem unsigned?_unsigned {number : NumberText} (complete : number.Complete) :
    unsigned? number.negative number.unsigned = some number.numeral := by
  have tail := tail?_exponentText complete
  have ends : ∀ c ∈ number.exponentText.head?, isDigit c = false := by
    rw [← List.append_nil number.exponentText]
    apply number.not_digit_of_head_append
    rintro c ⟨⟩
  have nonempty := complete.whole.isEmpty_eq
  unfold NumberText.numeral NumberText.significand NumberText.power NumberText.fractionDigits
  unfold unsigned? NumberText.unsigned NumberText.fractionText
  cases shape : number.fraction with
  | none =>
      have taken := takeDigits_of_digitRun complete.whole ends
      simp only [Option.elim_none, List.nil_append, taken]
      split
      · next same => exact absurd same (number.exponentText_ne_point _)
      · simp only [nonempty, Bool.false_and, Bool.false_eq_true, if_false, tail, Option.map_some,
          Option.getD_none]
  | some digits =>
      have point : ∀ c ∈ ('.' :: (digits ++ number.exponentText)).head?, isDigit c = false := by
        rintro c ⟨⟩
        rfl
      have taken := takeDigits_of_digitRun complete.whole point
      have behind := takeDigits_of_digitRun (complete.fraction digits shape) ends
      simp only [Option.elim_some, List.cons_append, taken, behind, nonempty, Bool.false_and,
        Bool.false_eq_true, if_false, tail, Option.map_some, Option.getD_some]

theorem unsigned?_of_digitRun (negative : Bool) {digits : List Char} (run : DigitRun digits) :
    unsigned? negative digits = some ⟨negative, natValue digits, 0⟩ := by
  let number : NumberText := ⟨negative, digits, none, none⟩
  have complete : number.Complete := ⟨run, nofun, nofun⟩
  have read := unsigned?_unsigned complete
  have text : number.unsigned = digits := List.append_nil digits
  have value : number.numeral = ⟨negative, natValue digits, 0⟩ := by
    simp [number, NumberText.numeral, NumberText.significand, NumberText.power,
      NumberText.fractionDigits]
  rwa [text, value] at read

/-! ## The nearest number -/

theorem length_decimalDigits_le_twenty {n : Nat} (bounded : n ≤ twoTo 64) :
    (decimalDigits n).length ≤ 20 := by
  apply (length_decimalDigits_le_iff (by decide)).mpr
  exact Nat.lt_of_le_of_lt bounded (by decide)

/-- A numeral of few digits and a moderate power of ten has the number nearest to its quotient. -/
theorem toDouble_eq_ofRatio {format : BinaryFormat} {numeral : Numeral}
    (bounded : numeral.digits ≤ twoTo 64) (low : -300 ≤ numeral.exponent)
    (high : numeral.exponent ≤ 290) :
    numeral.toDouble format =
      Double.ofRatio format numeral.negative (numeral.digits * tenTo numeral.exponent.toNat)
        (tenTo (-numeral.exponent).toNat) := by
  have length := length_decimalDigits_le_twenty bounded
  unfold toDouble
  split
  · next zero => rw [zero, Nat.zero_mul, Double.ofRatio_zero]
  · dsimp only
    rw [if_neg (by omega), if_neg (by omega)]

theorem toDouble_ne_nan (format : BinaryFormat) (numeral : Numeral) :
    numeral.toDouble format ≠ .nan := by
  unfold toDouble Double.ofRatio
  dsimp only
  split_ifs <;> nofun

theorem toDouble_of_whole (negative : Bool) {magnitude : Nat} (bounded : magnitude ≤ twoTo 64) :
    toDouble .binary64 ⟨negative, magnitude, 0⟩ =
      .finite negative (Double.wholeUnits magnitude) := by
  have low : (-300 : Int) ≤ 0 := by decide
  have high : (0 : Int) ≤ 290 := by decide
  rw [toDouble_eq_ofRatio bounded low high]
  exact (congrArg (Double.ofRatio _ negative · _) (Nat.mul_one magnitude)).trans
    (Double.ofRatio_one negative bounded)

end Numeral

namespace Double

theorem ofName?_of_digit (negative : Bool) {c : Char} (digit : isDigit c = true)
    (rest : List Char) : ofName? negative (c :: rest) = none := by
  have other : ∀ name : List Char, (∃ first letters, name = first :: letters ∧
      isDigit first = false) → (c :: rest).map asciiLower ≠ name := by
    rintro _ ⟨first, letters, rfl, letter⟩ same
    obtain ⟨rfl, -⟩ := List.cons.inj same
    rw [asciiLower_of_isDigit digit, digit] at letter
    cases letter
  have notNan := other "nan".toList ⟨'n', _, rfl, rfl⟩
  have notInf := other "inf".toList ⟨'i', _, rfl, rfl⟩
  have notInfinity := other "infinity".toList ⟨'i', _, rfl, rfl⟩
  simp only [ofName?, if_neg notNan, notInf, notInfinity, decide_false, Bool.or_self,
    Bool.false_eq_true, if_false]

variable {format : BinaryFormat}

theorem read?_of_takeSign {negative : Bool} {text digits : List Char} {numeral : Numeral}
    (signed : Numeral.takeSign text = (negative, digits))
    (begins : ∃ c rest, digits = c :: rest ∧ isDigit c = true)
    (read : Numeral.unsigned? negative digits = some numeral) :
    Double.read? format text = some (numeral.toDouble format) := by
  obtain ⟨c, rest, rfl, digit⟩ := begins
  simp only [Double.read?, signed, ofName?_of_digit negative digit, read, Option.map_some]

theorem read?_write {number : NumberText} (complete : number.Complete) :
    Double.read? format number.write = some (number.numeral.toDouble format) := by
  obtain ⟨c, rest, begins, digit⟩ := NumberText.exists_unsigned_eq_cons complete
  have signed : Numeral.takeSign number.write = (number.negative, number.unsigned) := by
    rw [NumberText.write]
    cases sign : number.negative with
    | true => rfl
    | false =>
        rw [begins]
        exact Numeral.takeSign_of_digit digit _
  exact read?_of_takeSign signed ⟨c, _, begins, digit⟩ (Numeral.unsigned?_unsigned complete)

/-- The text of an integer of at most 64 bits is read as a number nearest to the integer. -/
theorem exists_isNearest_of_integerText {text : List Char} {n : Int}
    (written : IntegerText true text n) (bounded : n.natAbs ≤ twoTo 64) :
    ∃ number, Double.read? .binary64 text = some number ∧ number.IsNearest n := by
  have readDigits : ∀ (negative : Bool) (digits : List Char), DigitRun digits →
      (decimalNumber digits : Nat) ≤ twoTo 64 →
      Numeral.takeSign text = (negative, digits) →
      ∃ number, Double.read? .binary64 text = some number ∧
        number.IsNearest (signedWhole negative (decimalNumber digits)) := by
    intro negative digits run small signed
    obtain ⟨c, rest, rfl⟩ := List.exists_cons_of_ne_nil run.nonempty
    have begins : ∃ first others, c :: rest = first :: others ∧ isDigit first = true :=
      ⟨c, rest, rfl, run.digit c List.mem_cons_self⟩
    have read : Double.read? .binary64 text = _ :=
      read?_of_takeSign signed begins (Numeral.unsigned?_of_digitRun negative run)
    rw [natValue_eq_decimalNumber, Numeral.toDouble_of_whole negative small] at read
    exact ⟨_, read, .of negative _⟩
  cases written with
  | plain run => exact readDigits false _ run (by simpa using bounded) run.takeSign_eq
  | plus run => exact readDigits false _ run (by simpa using bounded) rfl
  | minus known run => exact readDigits true _ run (by simpa using bounded) rfl

end Double

end RecordRules
