/-!
# Powers of two and of ten

The powers that number formats are made of.  The bound of a width of bits, the step of a
rounding and the value of a decimal place are all one of these.

They are not written `2 ^ n`, for that is the power of natural numbers in a module that imports
nothing and the power of a monoid in one that imports algebra.  These names stand for the same
term in the modules that run and in the modules about them; the laws that are used of them are
those of `Nat.pow`.
-/

namespace RecordRules

def twoTo (exponent : Nat) : Nat :=
  Nat.pow 2 exponent

def tenTo (exponent : Nat) : Nat :=
  Nat.pow 10 exponent

theorem twoTo_zero : twoTo 0 = 1 := rfl

theorem twoTo_pos (exponent : Nat) : 0 < twoTo exponent :=
  Nat.pow_pos (by decide)

theorem twoTo_add (a b : Nat) : twoTo (a + b) = twoTo a * twoTo b :=
  Nat.pow_add 2 a b

theorem twoTo_dvd_twoTo {a b : Nat} (le : a ≤ b) : twoTo a ∣ twoTo b :=
  Nat.pow_dvd_pow 2 le

theorem twoTo_le_twoTo {a b : Nat} (le : a ≤ b) : twoTo a ≤ twoTo b :=
  Nat.pow_le_pow_right (by decide) le

theorem twoTo_lt_twoTo {a b : Nat} (less : a < b) : twoTo a < twoTo b :=
  Nat.pow_lt_pow_right (by decide) less

theorem tenTo_zero : tenTo 0 = 1 := rfl

theorem tenTo_pos (exponent : Nat) : 0 < tenTo exponent :=
  Nat.pow_pos (by decide)

end RecordRules
