import Mathlib.Tactic.Ring
import RecordRules.Number.Rounding

/-!
# Laws of rounding

Rounding a quotient to a natural number stays between the natural numbers around the quotient,
keeps the order of quotients and depends on the quotient only.  Rounding to the significant bits
of a format inherits all three: no power of two is crossed, so quotients with different numbers
of bits keep their order too, and a magnitude that the format has is left as it is.
-/

namespace RecordRules

theorem log2_mono {a b : Nat} (le : a ≤ b) : a.log2 ≤ b.log2 := by
  by_cases zero : a = 0
  · rw [zero]
    exact Nat.zero_le _
  · exact (Nat.le_log2 (by omega)).mpr (Nat.le_trans (Nat.log2_self_le zero) le)

/-! ## To natural numbers -/

section Division

variable {num other den factor k : Nat}

theorem div_le_divNearestEven (num den : Nat) : num / den ≤ divNearestEven num den := by
  simp only [divNearestEven]
  split_ifs <;> omega

theorem divNearestEven_le_div_succ (num den : Nat) : divNearestEven num den ≤ num / den + 1 := by
  simp only [divNearestEven]
  split_ifs <;> omega

theorem divNearestEven_mul_self (positive : 0 < den) (k : Nat) :
    divNearestEven (k * den) den = k := by
  simp [divNearestEven, positive]

theorem le_divNearestEven (positive : 0 < den) (below : k * den ≤ num) :
    k ≤ divNearestEven num den :=
  Nat.le_trans ((Nat.le_div_iff_mul_le positive).mpr below) (div_le_divNearestEven num den)

theorem divNearestEven_le (positive : 0 < den) (above : num ≤ k * den) :
    divNearestEven num den ≤ k := by
  rcases Nat.eq_or_lt_of_le above with rfl | less
  · exact Nat.le_of_eq (divNearestEven_mul_self positive k)
  · exact Nat.le_trans (divNearestEven_le_div_succ num den)
      ((Nat.div_lt_iff_lt_mul positive).mpr less)

theorem divNearestEven_mono (le : num ≤ other) :
    divNearestEven num den ≤ divNearestEven other den := by
  rcases Nat.eq_or_lt_of_le (Nat.div_le_div_right (c := den) le) with same | less
  · -- Both lie between the same natural numbers, so the rests are in order.
    have rests : num % den ≤ other % den := by
      have first := Nat.div_add_mod num den
      have second := Nat.div_add_mod other den
      rw [same] at first
      omega
    simp only [divNearestEven, same]
    split_ifs <;> omega
  · exact Nat.le_trans (divNearestEven_le_div_succ num den)
      (Nat.le_trans less (div_le_divNearestEven other den))

/-- Rounding depends on the quotient only. -/
theorem divNearestEven_mul_mul (positive : 0 < factor) (num den : Nat) :
    divNearestEven (num * factor) (den * factor) = divNearestEven num den := by
  have below : 2 * (num % den * factor) < den * factor ↔ 2 * (num % den) < den := by
    rw [← Nat.mul_assoc]
    exact Nat.mul_lt_mul_right positive
  have above : den * factor < 2 * (num % den * factor) ↔ den < 2 * (num % den) := by
    rw [← Nat.mul_assoc]
    exact Nat.mul_lt_mul_right positive
  simp only [divNearestEven, Nat.mul_div_mul_right num den positive, Nat.mul_mod_mul_right,
    below, above]

end Division

namespace BinaryFormat

/-! ## To the bits of a format -/

section Units

variable {format : BinaryFormat} {num other den factor power units : Nat}

/-- The magnitudes that a format has, without its upper bound: as many bits as are significant,
and zeros behind them. -/
def Has (format : BinaryFormat) (units : Nat) : Prop :=
  ∃ significand shift, significand < twoTo format.precision ∧ units = significand * twoTo shift

theorem Has.excess_dvd (has : format.Has units) : twoTo (format.excess units) ∣ units := by
  obtain ⟨significand, shift, few, rfl⟩ := has
  by_cases zero : significand = 0
  · rw [zero, Nat.zero_mul]
    exact Nat.dvd_zero _
  · have nonzero : significand * twoTo shift ≠ 0 :=
      Nat.mul_ne_zero zero (Nat.pos_iff_ne_zero.mp (twoTo_pos shift))
    have bound : significand * twoTo shift < 2 ^ (format.precision + shift) := by
      rw [Nat.pow_add]
      exact Nat.mul_lt_mul_of_pos_right few (twoTo_pos shift)
    have bits := (Nat.log2_lt nonzero).mpr bound
    have low : format.excess (significand * twoTo shift) ≤ shift := by
      rw [excess]
      omega
    exact Nat.dvd_trans (twoTo_dvd_twoTo low) (Nat.dvd_mul_left _ _)

theorem roundUnits_mul_mul (positive : 0 < factor) (num den : Nat) :
    format.roundUnits (num * factor) (den * factor) = format.roundUnits num den := by
  simp only [roundUnits, Nat.mul_div_mul_right num den positive]
  rw [Nat.mul_right_comm, divNearestEven_mul_mul positive]

theorem roundUnits_zero (format : BinaryFormat) (den : Nat) : format.roundUnits 0 den = 0 := by
  simp [roundUnits, divNearestEven]

/-- A magnitude of the format is left as it is. -/
theorem Has.roundUnits_eq (has : format.Has units) (positive : 0 < den) :
    format.roundUnits (units * den) den = units := by
  obtain ⟨multiple, same⟩ := has.excess_dvd
  have step := twoTo_pos (format.excess units)
  simp only [roundUnits, Nat.mul_div_cancel units positive]
  generalize twoTo (format.excess units) = bits at same step
  have whole : units * den = multiple * (den * bits) := by
    rw [same]
    ring
  rw [whole, divNearestEven_mul_self (Nat.mul_pos positive step), Nat.mul_comm, ← same]

variable (precise : 0 < format.precision)

include precise

/-- A quotient that is not above a power of two is not rounded above it. -/
theorem roundUnits_le_twoTo (positive : 0 < den) (above : num ≤ twoTo power * den) :
    format.roundUnits num den ≤ twoTo power := by
  have bits : (num / den).log2 ≤ power := by
    by_cases zero : num / den = 0
    · rw [zero]
      exact Nat.zero_le power
    · have bound : num / den < 2 ^ (power + 1) := by
        have least : num / den ≤ twoTo power := Nat.div_le_of_le_mul (by rwa [Nat.mul_comm])
        exact Nat.lt_of_le_of_lt least (twoTo_lt_twoTo (Nat.lt_succ_self power))
      exact Nat.le_of_lt_succ ((Nat.log2_lt zero).mpr bound)
  obtain ⟨rest, split⟩ : ∃ rest, power = rest + format.excess (num / den) :=
    ⟨power - format.excess (num / den), by rw [excess]; omega⟩
  have step := twoTo_pos (format.excess (num / den))
  have factored : twoTo power = twoTo rest * twoTo (format.excess (num / den)) := by
    rw [← twoTo_add, ← split]
  rw [roundUnits, factored]
  apply Nat.mul_le_mul_right
  apply divNearestEven_le (Nat.mul_pos positive step)
  calc num ≤ twoTo power * den := above
    _ = twoTo rest * (den * twoTo (format.excess (num / den))) := by
      rw [factored]
      ring

/-- The highest bit of a quotient is kept. -/
theorem twoTo_log2_le_roundUnits (nonzero : num / den ≠ 0) :
    twoTo (num / den).log2 ≤ format.roundUnits num den := by
  have positive : 0 < den := Nat.pos_of_ne_zero fun zero => nonzero (by rw [zero, Nat.div_zero])
  have below : twoTo (num / den).log2 * den ≤ num :=
    Nat.le_trans (Nat.mul_le_mul_right den (Nat.log2_self_le nonzero)) (Nat.div_mul_le_self num den)
  obtain ⟨rest, split⟩ : ∃ rest, (num / den).log2 = rest + format.excess (num / den) :=
    ⟨(num / den).log2 - format.excess (num / den), by rw [excess]; omega⟩
  have step := twoTo_pos (format.excess (num / den))
  have factored : twoTo (num / den).log2 = twoTo rest * twoTo (format.excess (num / den)) := by
    rw [← twoTo_add, ← split]
  rw [roundUnits, factored]
  apply Nat.mul_le_mul_right
  apply le_divNearestEven (Nat.mul_pos positive step)
  calc twoTo rest * (den * twoTo (format.excess (num / den)))
      = twoTo (num / den).log2 * den := by
        rw [factored]
        ring
    _ ≤ num := below

/-- Rounding to the bits of a format keeps the order of quotients. -/
theorem roundUnits_mono (positive : 0 < den) (le : num ≤ other) :
    format.roundUnits num den ≤ format.roundUnits other den := by
  have bits : (num / den).log2 ≤ (other / den).log2 := log2_mono (Nat.div_le_div_right le)
  rcases Nat.eq_or_lt_of_le bits with same | fewer
  · -- With the same number of bits both are rounded to the same multiples.
    simp only [roundUnits, excess, same]
    exact Nat.mul_le_mul_right _ (divNearestEven_mono le)
  · -- With fewer bits a power of two lies between the two results.
    have nonzero : other / den ≠ 0 := by
      intro zero
      rw [zero] at fewer
      cases fewer
    have less : num / den < twoTo (other / den).log2 :=
      Nat.lt_of_lt_of_le Nat.lt_log2_self (twoTo_le_twoTo fewer)
    have bound : num ≤ twoTo (other / den).log2 * den :=
      Nat.le_of_lt ((Nat.div_lt_iff_lt_mul positive).mp less)
    exact Nat.le_trans (roundUnits_le_twoTo precise positive bound)
      (twoTo_log2_le_roundUnits precise nonzero)

end Units

end BinaryFormat

end RecordRules
