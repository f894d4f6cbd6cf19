import RecordRules.Proofs.Json.NumberValue

/-!
# Numbers that are rounded once

A document rounds the digits of a number, then the power of ten, and then their product or
quotient.  If the digits fit and they and the power are floating-point numbers themselves, only the
last of the three rounds, and what is read is the number nearest to the text.  So it is for whole
numbers of 64 bits and for zeros of any form.
-/

namespace RecordRules

open Text Json BinaryFormat Double

/-! ## Powers of ten -/

theorem tenTo_eq (exponent : Nat) : tenTo exponent = 5 ^ exponent * twoTo exponent := by
  rw [twoTo, tenTo, Nat.pow_eq, Nat.pow_eq, ← Nat.mul_pow]

theorem has_tenTo {exponent : Nat} (small : exponent ≤ 22) : binary64.Has (tenTo exponent) := by
  refine ⟨5 ^ exponent, exponent, ?_, tenTo_eq exponent⟩
  exact Nat.lt_of_le_of_lt (Nat.pow_le_pow_right (by decide) small) (by decide)

theorem tenTo_le_twoTo {exponent : Nat} (small : exponent ≤ 22) : tenTo exponent ≤ twoTo 74 :=
  Nat.le_trans (Nat.pow_le_pow_right (by decide) small) (by decide)

namespace Json

theorem powerUnits_of_small {exponent : Nat} (small : exponent ≤ 22) :
    powerUnits exponent = tenTo exponent * twoTo binary64.scale :=
  wholeUnits_of_has (has_tenTo small)

/-- A product with an exact power of ten is rounded once. -/
theorem timesPower_of_small {exponent : Nat} (small : exponent ≤ 22) (n : Nat) :
    timesPower (n * twoTo binary64.scale) exponent = wholeUnits (n * tenTo exponent) := by
  have factored : n * twoTo binary64.scale * (tenTo exponent * twoTo binary64.scale) =
      n * tenTo exponent * twoTo binary64.scale * twoTo binary64.scale := by
    ring
  have scaled : binary64.roundUnits (n * tenTo exponent * twoTo binary64.scale *
      twoTo binary64.scale) (1 * twoTo binary64.scale) = wholeUnits (n * tenTo exponent) :=
    roundUnits_mul_mul (twoTo_pos binary64.scale) _ 1
  rw [Nat.one_mul] at scaled
  rw [timesPower, powerUnits_of_small small, factored, scaled]

theorem overPower_of_small {exponent : Nat} (small : exponent ≤ 22) (units : Nat) :
    overPower units exponent = binary64.roundUnits units (tenTo exponent) := by
  rw [overPower, powerUnits_of_small small, roundUnits_mul_mul (twoTo_pos _)]

variable {significand : Nat}

/-- Exact digits times or over an exact power of ten give the number nearest to the result. -/
theorem scaled_of_exact (negative : Bool) (bounded : significand ≤ twoTo 64)
    (has : binary64.Has significand) {power : Int} (small : power.natAbs ≤ 22) :
    scaled negative significand power =
      .ok (.ofRatio binary64 negative (significand * tenTo power.toNat)
        (tenTo (-power).toNat)) := by
  have exact : binary64.roundUnits (significand * twoTo binary64.scale) 1 =
      significand * twoTo binary64.scale := wholeUnits_of_has has
  have unscaled : twoTo (binary64.scale - binary64.scale) = 1 := by
    rw [Nat.sub_self, twoTo_zero]
  simp only [scaled, exact]
  by_cases below : power < 0
  · have up : power.toNat = 0 := by omega
    have down : (-power).toNat = power.natAbs := by omega
    have inRange : power.natAbs ≤ maxPower := Nat.le_trans small (by decide)
    have bound : binary64.roundUnits (significand * twoTo binary64.scale) (tenTo power.natAbs) <
        twoTo binary64.top := by
      have above : significand * twoTo binary64.scale ≤
          twoTo (64 + binary64.scale) * tenTo power.natAbs := by
        rw [twoTo_add]
        exact Nat.le_trans (Nat.mul_le_mul_right _ bounded)
          (Nat.le_mul_of_pos_right _ (tenTo_pos _))
      exact Nat.lt_of_le_of_lt (roundUnits_le_twoTo (by decide) (tenTo_pos _) above)
        (twoTo_lt_twoTo (by decide))
    rw [if_pos below, overAnyPower, if_pos inRange, overPower_of_small small, up, down]
    simp only [tenTo_zero, Nat.mul_one, ofRatio, if_pos bound, unscaled]
  · have up : power.toNat = power.natAbs := by omega
    have down : (-power).toNat = 0 := by omega
    have inRange : power.natAbs ≤ maxPower := Nat.le_trans small (by decide)
    have bound : wholeUnits (significand * tenTo power.natAbs) < twoTo binary64.top := by
      have above : significand * tenTo power.natAbs ≤ twoTo (64 + 74) := by
        rw [twoTo_add]
        exact Nat.mul_le_mul bounded (tenTo_le_twoTo small)
      exact wholeUnits_lt above (by decide)
    rw [if_neg below, if_pos inRange, timesPower_of_small small, if_pos bound, up, down]
    rw [wholeUnits] at bound ⊢
    simp only [tenTo_zero, Nat.mul_one, ofRatio, if_pos bound, unscaled]

theorem scaled_zero (negative : Bool) (power : Int) :
    scaled negative 0 power = .ok (.finite negative 0) := by
  have nothing : ∀ exponent, overPower 0 exponent = 0 := by
    intro exponent
    rw [overPower, Nat.zero_mul, roundUnits_zero]
  have never : ∀ exponent, overAnyPower 0 exponent = 0 := by
    intro exponent
    simp only [overAnyPower, nothing, ite_self]
  have product : ∀ exponent, timesPower 0 exponent = 0 := by
    intro exponent
    rw [timesPower, Nat.zero_mul, roundUnits_zero]
  simp only [scaled, Nat.zero_mul, roundUnits_zero, never, product, if_pos (twoTo_pos _), if_true,
    ite_self]

theorem scaledBy_zero (negative : Bool) (places : Int) (exponent : Option ExponentText) :
    scaledBy negative 0 places exponent = .ok (.finite negative 0) := by
  cases exponent with
  | none => exact scaled_zero negative places
  | some exponent => simp [scaledBy, scaled_zero]

theorem gather_of_fits {digits : List Char}
    (fits : extended significand digits < significandBound) :
    gather significand digits = (extended significand digits, []) := by
  induction digits generalizing significand with
  | nil => rfl
  | cons c rest ih =>
      rw [extended_cons] at fits ⊢
      simp only [gather, if_pos (Nat.lt_of_le_of_lt (le_extended _ rest) fits)]
      exact ih fits

theorem gather_lt (digits : List Char) (fits : significand < significandBound) :
    (gather significand digits).1 < significandBound := by
  induction digits generalizing significand with
  | nil => exact fits
  | cons c rest ih =>
      rw [gather]
      split
      · next more => exact ih more
      · exact fits

theorem exists_finite_of_scaled {negative : Bool} {power : Int} {number : Double}
    (made : scaled negative significand power = .ok number) :
    ∃ units, number = .finite negative units := by
  simp only [scaled] at made
  split_ifs at made
  all_goals
    rw [Except.ok.injEq] at made
    exact ⟨_, made.symm⟩

theorem exists_finite_of_scaledBy {negative : Bool} {places : Int}
    {exponent : Option ExponentText} {number : Double}
    (made : scaledBy negative significand places exponent = .ok number) :
    ∃ units, number = .finite negative units := by
  cases exponent with
  | none => exact exists_finite_of_scaled made
  | some exponent =>
      rw [scaledBy] at made
      split_ifs at made
      · cases made
        exact ⟨_, rfl⟩
      · exact exists_finite_of_scaled made

theorem toDouble_wholeNumber (negative : Bool) (significand : Nat) :
    (wholeNumber negative significand).toDouble = .ofRatio binary64 negative significand 1 := by
  unfold wholeNumber
  cases negative with
  | false =>
      have sign : ¬ (significand : Int) < 0 := by omega
      simp only [Bool.not_false, if_true, Number.toDouble, Double.ofInt, sign, decide_false,
        Int.natAbs_natCast]
  | true =>
      by_cases special : significand = 0 ∨ twoTo 63 < significand
      · simp [special, Number.toDouble]
      · obtain ⟨nonzero, -⟩ := not_or.mp special
        have sign : 0 < significand := by omega
        simp [special, Number.toDouble, Double.ofInt, sign]

end Json

namespace NumberText

variable {number : NumberText}

theorem gather_whole (fits : number.significand < significandBound) :
    gather 0 number.whole = (natValue number.whole, []) := by
  rw [significand, natValue_append, ← extended_eq] at fits
  exact gather_of_fits (Nat.lt_of_le_of_lt (le_extended _ _) fits)

theorem gathered_of_fits (fits : number.significand < significandBound) :
    number.gathered = (number.significand, -(number.fractionDigits.length : Int)) := by
  have whole := gather_whole fits
  rw [significand, natValue_append, ← extended_eq] at fits ⊢
  simp only [gathered, whole, gather_of_fits fits, List.length_nil, Nat.sub_zero,
    Int.natCast_zero, Int.zero_sub]

/-- A document reads finite numbers only, with the signs of their texts. -/
theorem exists_finite_of_documentNumber {read : Number} (made : number.documentNumber = .ok read) :
    ∃ units, read.toDouble = .finite number.negative units := by
  have fits : number.gathered.1 < significandBound :=
    gather_lt _ (gather_lt _ (twoTo_pos 64))
  unfold documentNumber at made
  split at made
  · obtain rfl := Except.ok.inj made
    rw [toDouble_wholeNumber, ofRatio_one _ (Nat.le_of_lt fits)]
    exact ⟨_, rfl⟩
  · cases scale : scaledBy number.negative number.gathered.1 number.gathered.2 number.exponent with
    | error fault =>
        rw [scale] at made
        cases made
    | ok found =>
        rw [scale] at made
        obtain rfl := Except.ok.inj made
        exact exists_finite_of_scaledBy scale

/-- A number that a document rounds once: a zero, a whole number of 64 bits, or digits that fit
and are a floating-point number with a power of ten that is one. -/
inductive RoundedOnce (number : NumberText) : Prop where
  | zero (nothing : number.significand = 0)
  | whole (noFraction : number.fraction = none) (noExponent : number.exponent = none)
      (fits : number.significand < significandBound)
  | scaled (fits : number.significand < significandBound) (has : binary64.Has number.significand)
      (small : number.power.natAbs ≤ 22)
      (known : ∀ exponent ∈ number.exponent, natValue exponent.digits ≤ maxExponent)

theorem fits_of_zero (nothing : number.significand = 0) :
    number.significand < significandBound := by
  rw [nothing]
  exact twoTo_pos 64

theorem isWhole_iff (fits : number.significand < significandBound) :
    number.isWhole = true ↔ number.fraction = none ∧ number.exponent = none := by
  simp [isWhole, gather_whole fits]

theorem numeral_of_whole (noFraction : number.fraction = none)
    (noExponent : number.exponent = none) :
    number.numeral = ⟨number.negative, number.significand, 0⟩ := by
  simp [numeral, power, fractionDigits, noFraction, noExponent]

theorem documentNumber_of_isWhole (whole : number.isWhole = true)
    (fits : number.significand < significandBound) :
    ∃ read, number.documentNumber = .ok read ∧
      read.toDouble = number.numeral.toDouble .binary64 := by
  obtain ⟨noFraction, noExponent⟩ := (isWhole_iff fits).mp whole
  refine ⟨wholeNumber number.negative number.significand, ?_, ?_⟩
  · rw [documentNumber, if_pos whole, gathered_of_fits fits]
  · have bounded : number.significand ≤ twoTo 64 := Nat.le_of_lt fits
    rw [toDouble_wholeNumber, ofRatio_one _ bounded, numeral_of_whole noFraction noExponent,
      Numeral.toDouble_of_whole _ bounded]

/-- What is rounded once is the number nearest to the text. -/
theorem RoundedOnce.exists_documentNumber (once : number.RoundedOnce) :
    ∃ read, number.documentNumber = .ok read ∧
      read.toDouble = number.numeral.toDouble .binary64 := by
  have fits : number.significand < significandBound := by
    cases once with
    | zero nothing => exact fits_of_zero nothing
    | whole noFraction noExponent fits => exact fits
    | scaled fits has small known => exact fits
  by_cases whole : number.isWhole = true
  · exact documentNumber_of_isWhole whole fits
  · rw [documentNumber, if_neg whole, gathered_of_fits fits]
    cases once with
    | zero nothing =>
        refine ⟨.float (.finite number.negative 0), ?_, ?_⟩
        · rw [nothing, scaledBy_zero]
          rfl
        · simp [Number.toDouble, NumberText.numeral, Numeral.toDouble, nothing]
    | whole noFraction noExponent =>
        exact absurd ((isWhole_iff fits).mpr ⟨noFraction, noExponent⟩) whole
    | scaled _ has small known =>
        have bounded : number.significand ≤ twoTo 64 := Nat.le_of_lt fits
        have joined : scaledBy number.negative number.significand
            (-(number.fractionDigits.length : Int)) number.exponent =
            Json.scaled number.negative number.significand number.power := by
          unfold power
          cases shape : number.exponent with
          | none =>
              rw [scaledBy]
              congr 1
              simp
          | some exponent =>
              rw [scaledBy, if_neg (Nat.not_lt.mpr (known exponent shape))]
              congr 1
              simp only [Option.elim_some]
              omega
        have low : -300 ≤ number.power := by omega
        have high : number.power ≤ 290 := by omega
        have nearest : number.numeral.toDouble .binary64 = _ :=
          Numeral.toDouble_eq_ofRatio bounded low high
        refine ⟨.float (number.numeral.toDouble .binary64), ?_, rfl⟩
        rw [joined, scaled_of_exact number.negative bounded has small, nearest]
        rfl

end NumberText

end RecordRules
