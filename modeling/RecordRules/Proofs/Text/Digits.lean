import Mathlib.Data.List.Induction
import Mathlib.Tactic.Ring
import RecordRules.Number.Power
import RecordRules.Proofs.Text.AsciiCase
import RecordRules.Proofs.Text.Trimming

/-!
# Digits that are written and read

The digits of a number stand for the number, with zeros in front of them or not.  A run of
digits is taken off the front of a text as a whole unless a digit follows it, and digits that
are put behind others shift those by their places.
-/

namespace RecordRules.Text

/-! ## Decimal digits -/

theorem isDigit_of_mem_decimalDigits {n : Nat} {c : Char} (member : c ∈ decimalDigits n) :
    isDigit c = true := by
  have digit := Nat.isDigit_of_mem_toDigits (by decide) (by decide) member
  simp only [Char.isDigit, Bool.and_eq_true, decide_eq_true_eq] at digit
  exact isDigit_iff.mpr ⟨digit.1, digit.2⟩

theorem decimalDigits_ne_nil (n : Nat) : decimalDigits n ≠ [] :=
  Nat.toDigits_ne_nil

@[simp] theorem natValue_decimalDigits (n : Nat) : natValue (decimalDigits n) = n :=
  Nat.ofDigitChars_toDigits (by decide) (by decide)

theorem length_decimalDigits_le_iff {n count : Nat} (positive : 0 < count) :
    (decimalDigits n).length ≤ count ↔ n < 10 ^ count :=
  Nat.length_toDigits_le_iff (by decide) positive

/-- A number with digits put behind it. -/
def extended (number : Nat) (digits : List Char) : Nat :=
  digits.foldl (fun value c => 10 * value + digitValue c) number

@[simp] theorem extended_nil (number : Nat) : extended number [] = number := rfl

@[simp] theorem extended_cons (number : Nat) (c : Char) (digits : List Char) :
    extended number (c :: digits) = extended (10 * number + digitValue c) digits := by
  simp only [extended, List.foldl_cons]

theorem extended_append (number : Nat) (first second : List Char) :
    extended number (first ++ second) = extended (extended number first) second :=
  List.foldl_append

theorem extended_zero (digits : List Char) : extended 0 digits = natValue digits := rfl

/-- Digits behind a number shift it by their places and add what they stand for. -/
theorem extended_eq (number : Nat) (digits : List Char) :
    extended number digits = number * 10 ^ digits.length + natValue digits := by
  induction digits generalizing number with
  | nil => simp [natValue]
  | cons c digits ih =>
      have tail : natValue (c :: digits) = digitValue c * 10 ^ digits.length + natValue digits := by
        rw [← extended_zero, extended_cons, ih, Nat.mul_zero, Nat.zero_add]
      rw [extended_cons, ih, tail, List.length_cons, Nat.pow_succ]
      ring

theorem natValue_append (first second : List Char) :
    natValue (first ++ second) = natValue first * 10 ^ second.length + natValue second := by
  rw [← extended_zero, extended_append, extended_zero, extended_eq]

theorem le_extended (number : Nat) (digits : List Char) : number ≤ extended number digits := by
  rw [extended_eq]
  exact Nat.le_add_right_of_le (Nat.le_mul_of_pos_right number (Nat.pow_pos (by decide)))

theorem natValue_replicate_zero (count : Nat) : natValue (List.replicate count '0') = 0 := by
  induction count with
  | zero => rfl
  | succ count ih => exact ih

@[simp] theorem natValue_padZeros (width : Nat) (digits : List Char) :
    natValue (padZeros width digits) = natValue digits := by
  rw [padZeros, natValue_append, natValue_replicate_zero, Nat.zero_mul, Nat.zero_add]

theorem isDigit_of_mem_padZeros {width : Nat} {digits : List Char}
    (digit : ∀ c ∈ digits, isDigit c = true) : ∀ c ∈ padZeros width digits, isDigit c = true := by
  intro c member
  rcases List.mem_append.mp member with zero | own
  · rw [List.eq_of_mem_replicate zero]
    rfl
  · exact digit c own

theorem length_padZeros {width : Nat} {digits : List Char} (fits : digits.length ≤ width) :
    (padZeros width digits).length = width := by
  rw [padZeros, List.length_append, List.length_replicate]
  omega

theorem takeDigits_of_run {digits rest : List Char} (digit : ∀ c ∈ digits, isDigit c = true)
    (ends : ∀ c ∈ rest.head?, isDigit c = false) :
    takeDigits (digits ++ rest) = (digits, rest) := by
  have stops : rest.takeWhile isDigit = [] ∧ rest.dropWhile isDigit = rest := by
    cases rest with
    | nil => exact ⟨rfl, rfl⟩
    | cons c others =>
        have other := ends c rfl
        simp [other]
  rw [takeDigits, List.takeWhile_append_of_pos digit, List.dropWhile_append_of_pos digit,
    stops.1, stops.2, List.append_nil]

theorem takeDigits_eq_of_forall {digits : List Char} (digit : ∀ c ∈ digits, isDigit c = true) :
    takeDigits digits = (digits, []) := by
  have taken := takeDigits_of_run digit (by simp : ∀ c ∈ ([] : List Char).head?, isDigit c = false)
  rwa [List.append_nil] at taken

theorem isDigit_of_mem_padded {width n : Nat} {c : Char}
    (member : c ∈ padZeros width (decimalDigits n)) : isDigit c = true :=
  isDigit_of_mem_padZeros (fun _ => isDigit_of_mem_decimalDigits) c member

theorem length_padded {width n : Nat} (positive : 0 < width) (small : n < 10 ^ width) :
    (padZeros width (decimalDigits n)).length = width :=
  length_padZeros ((length_decimalDigits_le_iff positive).mpr small)

theorem padded_ne_nil (width n : Nat) : padZeros width (decimalDigits n) ≠ [] :=
  List.append_ne_nil_of_right_ne_nil _ (decimalDigits_ne_nil n)

theorem isBlank_of_mem_padded {width n : Nat} {c : Char}
    (member : c ∈ padZeros width (decimalDigits n)) : isBlank c = false :=
  isBlank_of_isDigit (isDigit_of_mem_padded member)

theorem asciiLower_of_isDigit {c : Char} (digit : isDigit c = true) : asciiLower c = c := by
  obtain ⟨low, high⟩ := isDigit_iff.mp digit
  rw [← Char.toNat_inj, toNat_asciiLower, if_neg]
  omega

/-! ## Hexadecimal digits -/

theorem hexNumber?_append_singleton (digits : List Char) (last : Char) :
    hexNumber? (digits ++ [last]) =
      (hexNumber? digits).bind fun n => (hexValue? last).map (16 * n + ·) := by
  rw [hexNumber?, List.foldl_append, ← hexNumber?, List.foldl_cons, List.foldl_nil]
  cases hexNumber? digits with
  | none => rfl
  | some n => cases hexValue? last <;> rfl

theorem hexValue?_digitChar : ∀ digit < 16, hexValue? (Nat.digitChar digit) = some digit := by
  decide

theorem hexNumber?_hexDigits (n : Nat) : hexNumber? (hexDigits n) = some n := by
  induction n using Nat.strongRecOn with
  | ind n ih =>
      unfold hexDigits at ih ⊢
      by_cases single : n < 16
      · rw [Nat.toDigits_of_lt_base single]
        exact (hexNumber?_append_singleton [] _).trans (by
          rw [hexValue?_digitChar n single]
          simp [hexNumber?])
      · have smaller : n / 16 < n := Nat.div_lt_self (by omega) (by decide)
        rw [Nat.toDigits_of_base_le (by decide) (by omega), hexNumber?_append_singleton,
          ih (n / 16) smaller, hexValue?_digitChar (n % 16) (Nat.mod_lt n (by decide))]
        exact congrArg some (Nat.div_add_mod n 16)

theorem isSome_hexValue?_of_mem {digits : List Char} {n : Nat}
    (read : hexNumber? digits = some n) : ∀ c ∈ digits, (hexValue? c).isSome = true := by
  induction digits using List.reverseRecOn generalizing n with
  | nil =>
      intro c member
      cases member
  | append_singleton digits last ih =>
      rw [hexNumber?_append_singleton] at read
      obtain ⟨front, readFront, read⟩ := Option.bind_eq_some_iff.mp read
      obtain ⟨digit, value, -⟩ := Option.map_eq_some_iff.mp read
      intro c member
      rcases List.mem_append.mp member with earlier | own
      · exact ih readFront c earlier
      · rw [List.mem_singleton.mp own, value]
        rfl

theorem hexNumber?_padZeros (width : Nat) (digits : List Char) :
    hexNumber? (padZeros width digits) = hexNumber? digits := by
  have zeros : ∀ count, hexNumber? (List.replicate count '0') = some 0 := by
    intro count
    induction count with
    | zero => rfl
    | succ count ih =>
        rw [List.replicate_succ', hexNumber?_append_singleton, ih]
        rfl
  rw [padZeros, hexNumber?, List.foldl_append, ← hexNumber?, zeros, ← hexNumber?]

theorem length_hexDigits_le_iff {n count : Nat} (positive : 0 < count) :
    (hexDigits n).length ≤ count ↔ n < 16 ^ count :=
  Nat.length_toDigits_le_iff (by decide) positive

theorem hexValue?_eq (c : Char) :
    hexValue? c =
      if 48 ≤ c.toNat ∧ c.toNat ≤ 57 then some (c.toNat - 48)
      else if 97 ≤ c.toNat ∧ c.toNat ≤ 102 then some (c.toNat - 97 + 10)
      else if 65 ≤ c.toNat ∧ c.toNat ≤ 70 then some (c.toNat - 65 + 10)
      else none := by
  simp [hexValue?, Char.le_def, UInt32.le_iff_toNat_le]

theorem hexValue?_asciiLower (c : Char) : hexValue? (asciiLower c) = hexValue? c := by
  rw [hexValue?_eq, hexValue?_eq, toNat_asciiLower]
  split <;> grind

theorem hexNumber?_map_asciiLower (digits : List Char) :
    hexNumber? (digits.map asciiLower) = hexNumber? digits := by
  simp only [hexNumber?, List.foldl_map, hexValue?_asciiLower]

theorem isBlank_of_isSome_hexValue? {c : Char} (digit : (hexValue? c).isSome = true) :
    isBlank c = false := by
  rw [hexValue?_eq] at digit
  simp only [isBlank, Bool.or_eq_false_iff, Bool.and_eq_false_iff, decide_eq_false_iff_not,
    beq_eq_false_iff_ne]
  split at digit
  · omega
  · split at digit
    · omega
    · split at digit
      · omega
      · cases digit

theorem asciiLower_of_blank {c : Char} (blank : isBlank c = true) : asciiLower c = c := by
  rw [← Char.toNat_inj, toNat_asciiLower, if_neg]
  simp only [isBlank, Bool.or_eq_true, Bool.and_eq_true, decide_eq_true_eq, beq_iff_eq] at blank
  omega

end RecordRules.Text
