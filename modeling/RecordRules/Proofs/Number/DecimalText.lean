import Mathlib.Data.List.TakeWhile
import RecordRules.Number.Decimal
import RecordRules.Proofs.Text.Digits

/-!
# Decimals that are written and read back

A decimal is written with all digits of its coefficient, zeros behind the point included, so
the text has as many digits behind the point as the scale.  Reading follows the text: the run
of digits before the point gives the leading part of the coefficient, the run behind it the
rest, and none of them is rounded away, since both bounds held before.  Only the minus sign of
a zero is lost, because no zero that is written out has a sign.
-/

namespace RecordRules.Decimal

open Text

/-- The decimals that are held: the coefficient and the scale are within their bounds. -/
structure InBounds (d : Decimal) : Prop where
  coefficient : d.coefficient < coefficientBound
  scale : d.scale ≤ maxScale

/-- The decimal without the sign of a zero. -/
def plain (d : Decimal) : Decimal :=
  ⟨d.negative && d.coefficient != 0, d.coefficient, d.scale⟩

theorem plain_eq_self_iff {d : Decimal} :
    d.plain = d ↔ (d.negative = true → d.coefficient ≠ 0) := by
  obtain ⟨negative, coefficient, scale⟩ := d
  cases negative <;> simp [plain]

theorem signed_plain (d : Decimal) : d.plain.signed = d.signed := by
  obtain ⟨negative, coefficient, scale⟩ := d
  cases negative with
  | false => rfl
  | true =>
      by_cases zero : coefficient = 0
      · subst zero
        rfl
      · simp [plain, signed, zero]

theorem order_plain (d : Decimal) : d.order d.plain = .eq := by
  rw [order, signed_plain]
  exact Std.ReflCmp.compare_self

theorem ofParts?_eq_some {negative : Bool} {coefficient scale : Nat}
    (bounded : InBounds ⟨negative, coefficient, scale⟩) :
    ofParts? negative coefficient scale = some (plain ⟨negative, coefficient, scale⟩) :=
  if_pos ⟨bounded.coefficient, bounded.scale⟩

/-! ## Runs of digits -/

section Runs

variable {negative seen : Bool} {coefficient scale : Nat} {digits rest : List Char}

theorem readDigits?_cons_whole {c : Char} (digit : isDigit c = true)
    (fits : 10 * coefficient + digitValue c < coefficientBound) :
    readDigits? negative false seen coefficient scale (c :: rest) =
      readDigits? negative false true (10 * coefficient + digitValue c) 0 rest := by
  rw [readDigits?, if_pos digit]
  simp only [if_pos fits]
  rfl

theorem readDigits?_append_whole (digit : ∀ c ∈ digits, isDigit c = true)
    (nonempty : digits ≠ []) (fits : extended coefficient digits < coefficientBound) :
    readDigits? negative false seen coefficient scale (digits ++ rest) =
      readDigits? negative false true (extended coefficient digits) 0 rest := by
  induction digits generalizing seen coefficient scale with
  | nil => exact absurd rfl nonempty
  | cons c others ih =>
      rw [extended_cons] at fits ⊢
      have first := Nat.lt_of_le_of_lt (le_extended _ others) fits
      rw [List.cons_append, readDigits?_cons_whole (digit c List.mem_cons_self) first]
      cases others with
      | nil => rfl
      | cons next others =>
          exact ih (fun c member => digit c (List.mem_cons_of_mem _ member))
            (List.cons_ne_nil _ _) fits

/-- The digits behind the point end the coefficient, and each of them is a place of the scale. -/
theorem readDigits?_fraction (digit : ∀ c ∈ digits, isDigit c = true)
    (fits : extended coefficient digits < coefficientBound)
    (room : scale + digits.length ≤ maxScale) :
    readDigits? negative true true coefficient scale digits =
      ofParts? negative (extended coefficient digits) (scale + digits.length) := by
  induction digits generalizing coefficient scale with
  | nil => rfl
  | cons c others ih =>
      rw [extended_cons] at fits ⊢
      rw [List.length_cons] at room ⊢
      have first := Nat.lt_of_le_of_lt (le_extended _ others) fits
      rw [readDigits?, if_pos (digit c List.mem_cons_self)]
      simp only [if_pos first, if_true]
      split
      · next full =>
          -- The scale is used up, so this was the last digit and nothing is left to round by.
          obtain rfl : others = [] := List.eq_nil_of_length_eq_zero (by omega)
          rfl
      · rw [ih (fun c member => digit c (List.mem_cons_of_mem _ member)) fits (by omega)]
        congr 1
        omega

end Runs

/-! ## Reading what is written -/

variable (d : Decimal)

/-- The digits of a decimal, with a zero before the point at least. -/
def digits : List Char :=
  padZeros (d.scale + 1) (decimalDigits d.coefficient)

def whole : List Char :=
  d.digits.take (d.digits.length - d.scale)

def fraction : List Char :=
  d.digits.drop (d.digits.length - d.scale)

def unsignedText : List Char :=
  if d.scale = 0 then d.whole else d.whole ++ '.' :: d.fraction

theorem write_eq : d.write = (if d.negative then ['-'] else []) ++ d.unsignedText := rfl

theorem whole_append_fraction : d.whole ++ d.fraction = d.digits :=
  List.take_append_drop _ _

theorem isDigit_of_mem_digits {c : Char} (member : c ∈ d.digits) : isDigit c = true :=
  isDigit_of_mem_padded member

theorem isDigit_of_mem_whole {c : Char} (member : c ∈ d.whole) : isDigit c = true :=
  d.isDigit_of_mem_digits (List.mem_of_mem_take member)

theorem isDigit_of_mem_fraction {c : Char} (member : c ∈ d.fraction) : isDigit c = true :=
  d.isDigit_of_mem_digits (List.mem_of_mem_drop member)

theorem scale_lt_length_digits : d.scale < d.digits.length := by
  rw [digits, padZeros, List.length_append, List.length_replicate]
  omega

theorem whole_ne_nil : d.whole ≠ [] := by
  intro empty
  have length := congrArg List.length empty
  have longer := d.scale_lt_length_digits
  rw [whole, List.length_take, List.length_nil] at length
  omega

theorem length_fraction : d.fraction.length = d.scale := by
  have longer := d.scale_lt_length_digits
  rw [fraction, List.length_drop]
  omega

theorem extended_whole_fraction : extended (extended 0 d.whole) d.fraction = d.coefficient := by
  rw [← extended_append, whole_append_fraction, extended_zero, digits, natValue_padZeros,
    natValue_decimalDigits]

theorem exists_unsignedText_eq_cons : ∃ c rest, isDigit c = true ∧ d.unsignedText = c :: rest := by
  obtain ⟨c, rest, shape⟩ := List.exists_cons_of_ne_nil d.whole_ne_nil
  have digit : isDigit c = true := by
    apply d.isDigit_of_mem_whole
    rw [shape]
    exact List.mem_cons_self
  rw [unsignedText, shape]
  split
  · exact ⟨c, rest, digit, rfl⟩
  · exact ⟨c, _, digit, rfl⟩

variable {d}

theorem readDigits?_unsignedText (bounded : d.InBounds) (negative : Bool) :
    readDigits? negative false false 0 0 d.unsignedText =
      some (plain ⟨negative, d.coefficient, d.scale⟩) := by
  have value := d.extended_whole_fraction
  have bound : extended (extended 0 d.whole) d.fraction < coefficientBound := by
    rw [value]
    exact bounded.coefficient
  have boundWhole := Nat.lt_of_le_of_lt (le_extended _ d.fraction) bound
  have digitWhole : ∀ c ∈ d.whole, isDigit c = true := fun _ => d.isDigit_of_mem_whole
  rw [unsignedText]
  split
  · next unscaled =>
      have noFraction : d.fraction = [] :=
        List.eq_nil_of_length_eq_zero (d.length_fraction.trans unscaled)
      rw [noFraction, extended_nil] at value
      have read : readDigits? negative false false 0 0 (d.whole ++ []) = _ :=
        readDigits?_append_whole digitWhole d.whole_ne_nil boundWhole
      rw [List.append_nil] at read
      rw [read, value, readDigits?, if_pos rfl, unscaled]
      exact ofParts?_eq_some ⟨bounded.coefficient, Nat.zero_le _⟩
  · rw [readDigits?_append_whole digitWhole d.whole_ne_nil boundWhole, readDigits?,
      if_neg (by decide), if_pos (by decide),
      readDigits?_fraction (fun _ => d.isDigit_of_mem_fraction) bound
        (by rw [length_fraction, Nat.zero_add]; exact bounded.scale),
      value, length_fraction, Nat.zero_add]
    exact ofParts?_eq_some ⟨bounded.coefficient, bounded.scale⟩

theorem readPlain?_write (bounded : d.InBounds) : readPlain? d.write = some d.plain := by
  have read : readDigits? d.negative false false 0 0 d.unsignedText = some d.plain :=
    readDigits?_unsignedText bounded d.negative
  cases sign : d.negative with
  | true =>
      rw [sign] at read
      rw [write_eq, sign]
      exact read
  | false =>
      obtain ⟨c, rest, digit, shape⟩ := d.exists_unsignedText_eq_cons
      rw [sign, shape] at read
      rw [write_eq, sign, shape, if_neg (by decide), List.nil_append]
      unfold readPlain?
      -- A digit is neither of the signs that a decimal may have.
      split
      · next same =>
          obtain ⟨rfl, -⟩ := List.cons.inj same
          cases digit
      · next same =>
          obtain ⟨rfl, -⟩ := List.cons.inj same
          cases digit
      · exact read

theorem eq_or_isDigit_of_mem_write {c : Char} (member : c ∈ d.write) :
    c = '-' ∨ c = '.' ∨ isDigit c = true := by
  rw [write_eq, unsignedText] at member
  rcases List.mem_append.mp member with sign | unsigned
  · split at sign
    · exact .inl (List.mem_singleton.mp sign)
    · cases sign
  · right
    split at unsigned
    · exact .inr (d.isDigit_of_mem_whole unsigned)
    · rcases List.mem_append.mp unsigned with whole | later
      · exact .inr (d.isDigit_of_mem_whole whole)
      · rcases List.mem_cons.mp later with point | fraction
        · exact .inl point
        · exact .inr (d.isDigit_of_mem_fraction fraction)

theorem solid_write (d : Decimal) : Solid d.write := by
  apply Solid.of_forall_mem
  intro c member
  rcases eq_or_isDigit_of_mem_write member with rfl | rfl | digit
  · rfl
  · rfl
  · exact isBlank_of_isDigit digit

theorem read?_write (bounded : d.InBounds) : read? d.write = some d.plain := by
  have unmarked : d.write.dropWhile (!isExponentMark ·) = [] := by
    apply List.dropWhile_eq_nil_iff.mpr
    intro c member
    rcases eq_or_isDigit_of_mem_write member with rfl | rfl | digit
    · rfl
    · rfl
    · simp only [isExponentMark, Bool.not_eq_true', Bool.or_eq_false_iff, beq_eq_false_iff_ne]
      constructor <;> rintro rfl <;> cases digit
  rw [read?, unmarked]
  exact readPlain?_write bounded

end RecordRules.Decimal
