import RecordRules.Number.Double
import RecordRules.Proofs.Number.Rounding

/-!
# Integers as floating-point numbers

The floating-point number nearest to an integer of at most 64 bits is finite.  Going over to
it keeps the order of integers, though two of them may share one number, and up to two to the
power of 53 nothing is rounded, so the order of the numbers is the order of the integers.
-/

namespace RecordRules

namespace BinaryFormat

variable {format : BinaryFormat} {units : Nat}

theorem Has.mul_twoTo (has : format.Has units) (more : Nat) : format.Has (units * twoTo more) := by
  obtain ⟨significand, shift, few, rfl⟩ := has
  exact ⟨significand, shift + more, few, by rw [twoTo_add, Nat.mul_assoc]⟩

/-- Natural numbers up to the power of two of the precision are numbers of the format. -/
theorem has_of_le_twoTo (precise : 0 < format.precision) (small : units ≤ twoTo format.precision) :
    format.Has units := by
  rcases Nat.eq_or_lt_of_le small with rfl | less
  · refine ⟨1, format.precision, ?_, (Nat.one_mul _).symm⟩
    exact Nat.one_lt_two_pow (Nat.pos_iff_ne_zero.mp precise)
  · exact ⟨units, 0, less, (Nat.mul_one units).symm⟩

end BinaryFormat

namespace Double

open BinaryFormat

theorem ofRatio_zero (format : BinaryFormat) (negative : Bool) (den : Nat) :
    ofRatio format negative 0 den = .finite negative 0 := by
  simp only [ofRatio, Nat.zero_mul, roundUnits_zero, if_pos (twoTo_pos _)]

/-- The units of the number nearest to a natural number. -/
def wholeUnits (n : Nat) : Nat :=
  binary64.roundUnits (n * twoTo binary64.scale) 1

theorem wholeUnits_mono {a b : Nat} (le : a ≤ b) : wholeUnits a ≤ wholeUnits b :=
  roundUnits_mono (by decide) Nat.one_pos (Nat.mul_le_mul_right _ le)

theorem wholeUnits_of_has {n : Nat} (has : binary64.Has n) :
    wholeUnits n = n * twoTo binary64.scale := by
  have exact := (has.mul_twoTo binary64.scale).roundUnits_eq Nat.one_pos
  rwa [Nat.mul_one] at exact

@[simp] theorem wholeUnits_zero : wholeUnits 0 = 0 := by
  rw [wholeUnits_of_has (has_of_le_twoTo (by decide) (Nat.zero_le _)), Nat.zero_mul]

theorem wholeUnits_lt {n bits : Nat} (bounded : n ≤ twoTo bits) (few : bits < 1024) :
    wholeUnits n < twoTo binary64.top := by
  have above : n * twoTo binary64.scale ≤ twoTo (bits + binary64.scale) * 1 := by
    rw [Nat.mul_one, twoTo_add]
    exact Nat.mul_le_mul_right _ bounded
  have finite : bits + binary64.scale < binary64.top := Nat.add_lt_add_right few 1074
  exact Nat.lt_of_le_of_lt (roundUnits_le_twoTo (by decide) Nat.one_pos above)
    (twoTo_lt_twoTo finite)

theorem ofRatio_one (negative : Bool) {n : Nat} (bounded : n ≤ twoTo 64) :
    ofRatio binary64 negative n 1 = .finite negative (wholeUnits n) := by
  have finite := wholeUnits_lt bounded (by decide)
  rw [wholeUnits] at finite
  have unscaled : twoTo (binary64.scale - binary64.scale) = 1 := by
    rw [Nat.sub_self, twoTo_zero]
  simp only [ofRatio, if_pos finite, unscaled, Nat.mul_one, wholeUnits]

/-! ## The order of integers -/

def signedWhole (negative : Bool) (magnitude : Nat) : Int :=
  if negative then -(magnitude : Int) else magnitude

theorem natAbs_signedWhole (negative : Bool) (magnitude : Nat) :
    (signedWhole negative magnitude).natAbs = magnitude := by
  cases negative <;> simp [signedWhole]

/-- The floating-point numbers nearest to integers; there are two nearest to zero. -/
inductive IsNearest : Double → Int → Prop where
  | of (negative : Bool) (magnitude : Nat) :
      IsNearest (.finite negative (wholeUnits magnitude)) (signedWhole negative magnitude)

/-- The place in the order of the numbers nearest to an integer. -/
def wholeRank (n : Int) : Int :=
  signedWhole (n < 0) (wholeUnits n.natAbs)

theorem IsNearest.rank?_eq {number : Double} {n : Int} (nearest : number.IsNearest n) :
    number.rank? = some (0, wholeRank n) := by
  obtain ⟨negative, magnitude⟩ := nearest
  cases negative with
  | false =>
      have sign : ¬ (magnitude : Int) < 0 := by omega
      simp [rank?, wholeRank, signedWhole]
  | true =>
      cases magnitude with
      | zero => simp [rank?, wholeRank, signedWhole]
      | succ magnitude =>
          have sign : -((magnitude + 1 : Nat) : Int) < 0 := by omega
          simp only [rank?, wholeRank, signedWhole, if_true, sign, decide_true, Int.natAbs_neg,
            Int.natAbs_natCast]

theorem wholeRank_mono {a b : Int} (le : a ≤ b) : wholeRank a ≤ wholeRank b := by
  unfold wholeRank signedWhole
  by_cases signA : a < 0
  · by_cases signB : b < 0
    · have magnitudes := wholeUnits_mono (show b.natAbs ≤ a.natAbs by omega)
      simp only [signA, signB, decide_true, if_true]
      omega
    · simp only [signA, signB, decide_true, decide_false, if_true, Bool.false_eq_true, if_false]
      omega
  · have signB : ¬ b < 0 := by omega
    have magnitudes := wholeUnits_mono (show a.natAbs ≤ b.natAbs by omega)
    simp only [signA, signB, decide_false, Bool.false_eq_true, if_false]
    omega

/-- The integers that are not rounded are as far apart as the numbers nearest to them. -/
theorem wholeRank_of_small {n : Int} (small : n.natAbs ≤ twoTo 53) :
    wholeRank n = n * (twoTo binary64.scale : Int) := by
  have exact : wholeUnits n.natAbs = n.natAbs * twoTo binary64.scale :=
    wholeUnits_of_has (has_of_le_twoTo (by decide) small)
  unfold wholeRank signedWhole
  rw [exact, Int.natCast_mul]
  by_cases sign : n < 0
  · simp only [sign, decide_true, if_true]
    rw [← Int.neg_mul, show -(n.natAbs : Int) = n by omega]
  · simp only [sign, decide_false, Bool.false_eq_true, if_false]
    rw [show (n.natAbs : Int) = n by omega]

variable {left right : Double} {n m : Int}

theorem order?_of_nearest (first : left.IsNearest n) (second : right.IsNearest m) :
    left.order? right = some (compare (wholeRank n) (wholeRank m)) := by
  rw [order?, first.rank?_eq, second.rank?_eq]
  rfl

/-- Integers are never in the opposite order of the numbers nearest to them. -/
theorem order_of_wholeRank (n m : Int) :
    (compare (wholeRank n) (wholeRank m) = .lt → n < m) ∧
    (compare (wholeRank n) (wholeRank m) = .gt → m < n) ∧
    (n = m → compare (wholeRank n) (wholeRank m) = .eq) := by
  refine ⟨?_, ?_, ?_⟩
  · intro less
    by_contra notLess
    have ordered := wholeRank_mono (Int.not_lt.mp notLess)
    have strictly := Int.compare_eq_lt.mp less
    omega
  · intro more
    by_contra notMore
    have ordered := wholeRank_mono (Int.not_lt.mp notMore)
    have strictly := Int.compare_eq_gt.mp more
    omega
  · rintro rfl
    exact Int.compare_eq_eq.mpr rfl

theorem compare_wholeRank_of_small (smallN : n.natAbs ≤ twoTo 53) (smallM : m.natAbs ≤ twoTo 53) :
    compare (wholeRank n) (wholeRank m) = compare n m := by
  have positive : (0 : Int) < twoTo binary64.scale := Int.natCast_pos.mpr (twoTo_pos _)
  rw [wholeRank_of_small smallN, wholeRank_of_small smallM]
  cases compared : compare n m with
  | lt =>
      exact Int.compare_eq_lt.mpr
        (Int.mul_lt_mul_of_pos_right (Int.compare_eq_lt.mp compared) positive)
  | eq =>
      rw [Int.compare_eq_eq.mp compared]
      exact Int.compare_eq_eq.mpr rfl
  | gt =>
      exact Int.compare_eq_gt.mpr
        (Int.mul_lt_mul_of_pos_right (Int.compare_eq_gt.mp compared) positive)

end Double

end RecordRules
