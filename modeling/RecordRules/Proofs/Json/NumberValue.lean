import RecordRules.Json.Document
import RecordRules.Proofs.Json.ReadBack
import RecordRules.Proofs.Number.NumberText

/-!
# Numbers in a document

A number is read off the front of a text part by part, whatever follows it, as long as that does
not continue the number.  What is read is a function of the parts alone: the digits that fit are
gathered, the others count by their places, and the fraction and the exponent become one power of
ten that the gathered digits are multiplied or divided by.
-/

namespace RecordRules

open Text Json

/-- The number of gathered digits and a power of ten, with the exponent that follows them. -/
def Json.scaledBy (negative : Bool) (significand : Nat) (places : Int) :
    Option ExponentText → Except Fault Double
  | none => scaled negative significand places
  | some exponent =>
      if maxExponent < natValue exponent.digits then
        if significand != 0 && !exponent.isDown then .error .numberOutOfRange
        else .ok (.finite negative 0)
      else scaled negative significand (places + exponent.power)

namespace NumberText

/-- The gathered digits of a number, and the power of ten that the others and the point leave. -/
def gathered (number : NumberText) : Nat × Int :=
  let (significand, dropped) := gather 0 number.whole
  let (significand, droppedBehind) := gather significand number.fractionDigits
  (significand,
    dropped.length - ((number.fractionDigits.length - droppedBehind.length : Nat) : Int))

/-- Whether a number has neither a fraction nor an exponent and fits 64 bits. -/
def isWhole (number : NumberText) : Bool :=
  number.fraction.isNone && number.exponent.isNone && (gather 0 number.whole).2.isEmpty

def documentNumber (number : NumberText) : Except Fault Number :=
  if number.isWhole then .ok (wholeNumber number.negative number.gathered.1)
  else
    (scaledBy number.negative number.gathered.1 number.gathered.2 number.exponent).map .float

/-- No zero stands in front of other digits. -/
structure Proper (number : NumberText) : Prop extends number.Complete where
  front : ∀ c rest, number.whole = '0' :: c :: rest → False

/-- A text that does not continue a number before it. -/
def Ends (rest : List Char) : Prop :=
  ∀ c ∈ rest.head?, isDigit c = false ∧ c ≠ '.' ∧ c ≠ 'e' ∧ c ≠ 'E'

theorem head_exponentText_append (number : NumberText) {rest : List Char} (ends : Ends rest) :
    (∀ c ∈ (number.exponentText ++ rest).head?, c ≠ '.') ∧
      (number.exponentText ++ rest).head?.any (fun c => c = 'e' || c = 'E') =
        number.exponent.isSome := by
  unfold exponentText
  cases number.exponent with
  | none =>
      refine ⟨fun c first => (ends c first).2.1, ?_⟩
      cases rest with
      | nil => rfl
      | cons c others =>
          obtain ⟨-, -, noMark, noCapital⟩ := ends c rfl
          simp [noMark, noCapital]
  | some exponent =>
      simp only [Option.elim_some, ExponentText.write, List.cons_append, List.head?_cons]
      constructor
      · rintro c ⟨⟩
        cases exponent.capital <;> decide
      · cases exponent.capital <;> rfl

end NumberText

namespace Json

variable (negative : Bool) (significand : Nat) (places : Int) {rest : List Char}

theorem exponentPart_write {exponent : ExponentText} (run : DigitRun exponent.digits)
    (ends : ∀ c ∈ rest.head?, isDigit c = false) :
    exponentPart negative significand places (exponent.signText ++ (exponent.digits ++ rest)) =
      (scaledBy negative significand places (some exponent)).map (·, rest) := by
  have taken := takeDigits_of_digitRun run ends
  have nonempty := run.isEmpty_eq
  have behind : ∀ down : Bool, exponent.isDown = down →
      (if maxExponent < natValue exponent.digits then
        if significand != 0 && !down then .error .numberOutOfRange
        else .ok (.finite negative 0, rest)
      else do
        let number ← scaled negative significand
          (if down then places - natValue exponent.digits else places + natValue exponent.digits)
        .ok (number, rest)) =
        (scaledBy negative significand places (some exponent)).map (·, rest) := by
    rintro down rfl
    have moved : (if exponent.isDown then places - natValue exponent.digits
        else places + natValue exponent.digits) = places + exponent.power := by
      unfold ExponentText.power
      split <;> omega
    rw [moved, scaledBy]
    split
    · split <;> rfl
    · cases scaled negative significand (places + exponent.power) <;> rfl
  unfold exponentPart
  cases sign : exponent.sign with
  | none =>
      have down : exponent.isDown = false := by
        rw [ExponentText.isDown, sign]
        rfl
      rw [ExponentText.signText, sign, List.nil_append]
      split
      next signed text parts =>
        split at parts
        · next same => exact absurd same (run.append_ne_cons rfl)
        · next same => exact absurd same (run.append_ne_cons rfl)
        · cases parts
          simp only [taken, nonempty]
          exact behind false down
  | some minus =>
      have down : exponent.isDown = minus := by
        rw [ExponentText.isDown, sign]
        cases minus <;> rfl
      rw [ExponentText.signText, sign]
      cases minus with
      | false =>
          simp only [List.cons_append, List.nil_append, taken, nonempty]
          exact behind false down
      | true =>
          simp only [List.cons_append, List.nil_append, taken, nonempty]
          exact behind true down

theorem exponentOrEnd_write {number : NumberText} (complete : number.Complete)
    (ends : NumberText.Ends rest) :
    exponentOrEnd negative significand places (number.exponentText ++ rest) =
      (scaledBy negative significand places number.exponent).map (·, rest) := by
  unfold NumberText.exponentText
  cases shape : number.exponent with
  | none =>
      simp only [Option.elim_none, List.nil_append, exponentOrEnd]
      split
      · exact absurd rfl (ends 'e' rfl).2.2.1
      · exact absurd rfl (ends 'E' rfl).2.2.2
      · rw [scaledBy]
        cases scaled negative significand places <;> rfl
  | some exponent =>
      have read := exponentPart_write negative significand places
        (complete.exponent exponent shape) fun c first => (ends c first).1
      rw [← List.append_assoc] at read
      simp only [Option.elim_some, ExponentText.write, List.cons_append]
      cases exponent.capital <;> exact read

theorem fractionPart_write {number : NumberText} (complete : number.Complete) {digits : List Char}
    (pointed : number.fraction = some digits) (ends : NumberText.Ends rest) :
    fractionPart negative significand places (digits ++ (number.exponentText ++ rest)) =
      (scaledBy negative (gather significand digits).1
        (places - ((digits.length - (gather significand digits).2.length : Nat) : Int))
        number.exponent).map (·, rest) := by
  have run := complete.fraction digits pointed
  have stops := number.not_digit_of_head_append fun c first => (ends c first).1
  have taken := takeDigits_of_digitRun run stops
  simp only [fractionPart, taken, run.isEmpty_eq, Bool.false_eq_true, if_false]
  exact exponentOrEnd_write _ _ _ complete ends

theorem afterWhole_of_no_point {text : List Char} (noPoint : ∀ c ∈ text.head?, c ≠ '.')
    (dropped : Nat) :
    afterWhole negative significand dropped text =
      if text.head?.any (fun c => c = 'e' || c = 'E') || dropped != 0 then
        (exponentOrEnd negative significand dropped text).map fun (value, rest) =>
          (.float value, rest)
      else .ok (wholeNumber negative significand, text) := by
  have bound : ∀ result : Except Fault (Double × List Char),
      (do
        let (value, rest) ← result
        .ok (Number.float value, rest)) =
        result.map fun (value, rest) => (Number.float value, rest) := by
    intro result
    cases result <;> rfl
  unfold afterWhole
  split
  · exact absurd rfl (noPoint '.' rfl)
  · split
    · simp only [List.head?_cons, Option.any_some, bound]
      rfl
    · simp only [List.head?_nil, Option.any_none, Bool.false_or, bound]

theorem afterWhole_write {number : NumberText} (complete : number.Complete)
    (ends : NumberText.Ends rest) (dropped : Nat) :
    afterWhole negative significand dropped
        (number.fractionText ++ (number.exponentText ++ rest)) =
      if number.fraction.isNone && number.exponent.isNone && dropped == 0 then
        .ok (wholeNumber negative significand, rest)
      else
        ((scaledBy negative (gather significand number.fractionDigits).1
          (dropped - ((number.fractionDigits.length -
            (gather significand number.fractionDigits).2.length : Nat) : Int))
          number.exponent).map Number.float).map (·, rest) := by
  unfold NumberText.fractionText NumberText.fractionDigits
  cases pointed : number.fraction with
  | some digits =>
      have read := fractionPart_write negative significand dropped complete pointed ends
      simp only [Option.elim_some, List.cons_append, afterWhole, read, Option.isNone_some,
        Bool.false_and, Bool.false_eq_true, if_false, Option.getD_some]
      cases scaledBy negative _ _ number.exponent <;> rfl
  | none =>
      have read := exponentOrEnd_write negative significand dropped complete ends
      simp only [Option.elim_none, List.nil_append, Option.isNone_none, Bool.true_and,
        Option.getD_none, gather, List.length_nil, Nat.sub_self, Int.natCast_zero, Int.sub_zero]
      obtain ⟨noPoint, marked⟩ := number.head_exponentText_append ends
      rw [afterWhole_of_no_point _ _ noPoint, marked, read]
      cases shape : number.exponent with
      | some exponent =>
          simp only [Option.isSome_some, Bool.true_or, if_true, Option.isNone_some, Bool.false_and,
            Bool.false_eq_true, if_false]
          cases scaledBy negative significand dropped (some exponent) <;> rfl
      | none =>
          have text : number.exponentText ++ rest = rest := by
            rw [NumberText.exponentText, shape]
            rfl
          by_cases whole : dropped = 0
          · simp [whole, text]
          · simp only [Option.isSome_none, Bool.false_or, Option.isNone_none, Bool.true_and,
              bne_iff_ne, beq_iff_eq, if_neg whole, if_pos whole]
            cases scaledBy negative significand dropped none <;> rfl

theorem takeDigits_unsigned {number : NumberText} (complete : number.Complete)
    (ends : NumberText.Ends rest) :
    takeDigits (number.unsigned ++ rest) =
      (number.whole, number.fractionText ++ (number.exponentText ++ rest)) := by
  have stops : ∀ c ∈ (number.fractionText ++ (number.exponentText ++ rest)).head?,
      isDigit c = false := by
    unfold NumberText.fractionText
    cases number.fraction with
    | none => exact number.not_digit_of_head_append fun c first => (ends c first).1
    | some digits =>
        rintro c ⟨⟩
        rfl
  rw [NumberText.unsigned, List.append_assoc, List.append_assoc]
  exact takeDigits_of_digitRun complete.whole stops

/-- Every number is read off the front of a text that does not continue it. -/
theorem unsignedNumber_write {number : NumberText} (proper : number.Proper)
    (ends : NumberText.Ends rest) :
    unsignedNumber number.negative (number.unsigned ++ rest) =
      number.documentNumber.map (·, rest) := by
  have read := afterWhole_write number.negative (gather 0 number.whole).1 proper.toComplete ends
    (gather 0 number.whole).2.length
  simp only [unsignedNumber, takeDigits_unsigned proper.toComplete ends]
  split
  · next empty => exact absurd empty proper.whole.nonempty
  · next c others zero => exact absurd zero fun same => proper.front c others same
  · rw [read]
    have none_dropped : ((gather 0 number.whole).2.length == 0) =
        (gather 0 number.whole).2.isEmpty := by
      cases (gather 0 number.whole).2 <;> rfl
    rw [NumberText.documentNumber, NumberText.isWhole, none_dropped]
    split
    · next whole =>
        have noFraction : number.fractionDigits = [] := by
          simp only [Bool.and_eq_true, Option.isNone_iff_eq_none] at whole
          rw [NumberText.fractionDigits, whole.1.1]
          rfl
        simp only [NumberText.gathered, noFraction, gather]
        rfl
    · rfl

theorem numberValue_write {number : NumberText} (proper : number.Proper)
    (ends : NumberText.Ends rest) :
    numberValue (number.write ++ rest) = number.documentNumber.map (·, rest) := by
  have read := unsignedNumber_write proper ends
  unfold NumberText.write
  cases sign : number.negative with
  | true =>
      rw [sign] at read
      exact read
  | false =>
      rw [sign] at read
      unfold numberValue
      split
      · next same =>
          rw [if_neg Bool.false_ne_true, NumberText.unsigned, List.append_assoc] at same
          exact absurd same (proper.whole.append_ne_cons rfl)
      · exact read

/-! ## Numbers among other values -/

theorem exists_write_eq_cons {number : NumberText} (complete : number.Complete) :
    ∃ c others, number.write = c :: others ∧ (c = '-' ∨ isDigit c = true) := by
  unfold NumberText.write
  split
  · exact ⟨'-', _, rfl, .inl rfl⟩
  · obtain ⟨c, others, shape, digit⟩ := NumberText.exists_unsigned_eq_cons complete
    exact ⟨c, others, shape, .inr digit⟩

theorem isSpace_of_isDigit {c : Char} (digit : isDigit c = true) : isSpace c = false := by
  simp only [isSpace, Bool.or_eq_false_iff, beq_eq_false_iff_ne]
  refine ⟨⟨⟨?_, ?_⟩, ?_⟩, ?_⟩
  all_goals
    rintro rfl
    cases digit

theorem solid_of_numeric {c : Char} (first : c = '-' ∨ isDigit c = true) :
    isSpace c = false ∧ c ≠ 'n' ∧ c ≠ 't' ∧ c ≠ 'f' := by
  rcases first with rfl | digit
  · decide
  · refine ⟨isSpace_of_isDigit digit, ?_, ?_, ?_⟩
    all_goals
      rintro rfl
      cases digit

/-- Where a value is expected a number is read, whatever is made of lists and objects. -/
theorem value_write {number : NumberText} (proper : number.Proper) (ends : NumberText.Ends rest)
    {gap : List Char} (blank : IsGap gap) (list object : Reader Json) :
    value list object (gap ++ (number.write ++ rest)) =
      number.documentNumber.map fun read => (.number read.toDouble, rest) := by
  have read := numberValue_write proper ends
  obtain ⟨c, others, shape, first⟩ := exists_write_eq_cons proper.toComplete
  rw [shape, List.cons_append] at read ⊢
  obtain ⟨visible, notNull, notTrue, notFalse⟩ := solid_of_numeric first
  have numeric : (c = '-' || isDigit c) = true := by
    simpa using first
  simp only [value, skipSpaces_gap_cons blank visible, if_neg notNull, if_neg notTrue,
    if_neg notFalse, numeric, if_true, read]
  cases number.documentNumber <;> rfl

def oneMember (key : String) (written : List Char) : String :=
  String.ofList ('\x7b' :: (memberWith [' '] key written ++ ['\x7d']))

theorem whole_nested_oneMember {number : NumberText} (proper : number.Proper) (key : String)
    (depth : Nat) :
    whole (nested (depth + 2)) (oneMember key number.write).toList =
      number.documentNumber.map fun read => .object [(key, .number read.toDouble)] := by
  have ends : NumberText.Ends ['\x7d'] := by
    rintro c ⟨⟩
    decide
  have single : IsGap [' '] := by decide
  have held : nested (depth + 1) ([' '] ++ (number.write ++ ['\x7d'])) = _ :=
    value_write proper ends single (listInside (nested depth)) (objectInside (nested depth))
  have found := nextKey_writeText (.opening isGap_nil) key
    (':' :: ([' '] ++ (number.write ++ ['\x7d'])))
  have separated : colon (':' :: ([' '] ++ (number.write ++ ['\x7d']))) =
      .ok ([' '] ++ (number.write ++ ['\x7d'])) := rfl
  rw [List.nil_append] at found
  rw [oneMember, String.toList_ofList, memberWith, List.append_assoc, List.cons_append,
    List.append_assoc]
  generalize inside : writeText key ++ ':' :: ([' '] ++ (number.write ++ ['\x7d'])) = text at found
  have opened : nested (depth + 2) ('\x7b' :: text) = objectInside (nested (depth + 1)) text := rfl
  simp only [whole, opened, objectInside, members, found, separated, held, bind, Except.bind]
  cases number.documentNumber with
  | error fault => rfl
  | ok read =>
      obtain ⟨steps, more⟩ : ∃ steps, text.length = steps + 1 := by
        cases text with
        | nil => cases found
        | cons c others => exact ⟨others.length, rfl⟩
      have ended : ∀ (step : List (String × Json) → String →
          Except Fault (Reader (List (String × Json)))) held,
          members step (steps + 1) false held ['\x7d'] = .ok (held, []) :=
        fun _ held => members_end isGap_nil steps false held []
      simp only [Except.map, more, ended]
      rfl

theorem ofText_oneMember {number : NumberText} (proper : number.Proper) (key : String) :
    ofText (oneMember key number.write) =
      number.documentNumber.map fun read => .object [(key, .number read.toDouble)] :=
  whole_nested_oneMember proper key 125

end Json

end RecordRules
