import CloudCensus.Number.Binary64
import Mathlib.Algebra.Order.Field.Power
import Mathlib.Algebra.Order.Ring.Rat
import Mathlib.Tactic.NormNum.Pow

namespace CloudCensus.Binary64

def value (x : Binary64) : ℚ := x.scaled / 2 ^ 1074

/-- No exponent of a double is below the least one, so that its number is what it is written as. -/
theorem value_finite (negative : Bool) (mantissa : Nat) (exponent : Int)
    (bound : leastExponent ≤ exponent) :
    value (.finite negative mantissa exponent) =
      (if negative then -1 else 1) * (mantissa * 2 ^ exponent) := by
  have power : (2 : ℚ) ^ (exponent - leastExponent).toNat = 2 ^ exponent * 2 ^ 1074 := by
    calc (2 : ℚ) ^ (exponent - leastExponent).toNat
        = 2 ^ (((exponent - leastExponent).toNat : ℕ) : ℤ) := (zpow_natCast 2 _).symm
      _ = 2 ^ (exponent + 1074) := by
        rw [Int.toNat_of_nonneg (Int.sub_nonneg_of_le bound)]
        rfl
      _ = 2 ^ exponent * 2 ^ 1074 := by
        rw [zpow_add₀ two_ne_zero]
        norm_cast
  have sign : (((if negative then -1 else 1 : Int)) : ℚ) = if negative then -1 else 1 := by
    cases negative <;> simp
  calc value (.finite negative mantissa exponent)
      = (if negative then -1 else 1) * (mantissa * 2 ^ (exponent - leastExponent).toNat) / 2 ^ 1074 := by
        rw [value, scaled, Int.cast_mul, sign, Int.cast_natCast, Nat.cast_mul, twoTo, Nat.pow_eq,
          Nat.cast_pow, Nat.cast_ofNat]
    _ = (if negative then -1 else 1) * (mantissa * 2 ^ exponent) := by
        rw [power, ← mul_assoc, ← mul_assoc, ← mul_assoc]
        exact mul_div_cancel_right₀ _ (pow_ne_zero _ two_ne_zero)

theorem value_one : one.value = 1 := by
  have form : one = .finite false (2 ^ 52) (-52) := by decide +kernel
  rw [form, value_finite _ _ _ (by decide), if_neg Bool.false_ne_true, one_mul, Nat.cast_pow, Nat.cast_ofNat]
  norm_num

theorem le_finite_iff (x y : Binary64) (finite : x.isFinite = true) (finiteToo : y.isFinite = true) :
    x.le y = true ↔ x.value ≤ y.value := by
  have whole : x.le y = true ↔ x.scaled ≤ y.scaled := by
    cases x with
    | nan => cases finite
    | infinite negative => cases finite
    | finite negative mantissa exponent =>
        cases y with
        | nan => cases finiteToo
        | infinite negative => cases finiteToo
        | finite negative mantissa exponent => exact decide_eq_true_iff
  rw [whole, value, value, div_le_div_iff_of_pos_right (pow_pos two_pos _), Int.cast_le]

theorem lt_finite_iff (x y : Binary64) (finite : x.isFinite = true) (finiteToo : y.isFinite = true) :
    x.lt y = true ↔ x.value < y.value := by
  rw [lt, Bool.and_eq_true, Bool.not_eq_true', ← Bool.not_eq_true, le_finite_iff x y finite finiteToo,
    le_finite_iff y x finiteToo finite, ← lt_iff_le_not_ge]

end CloudCensus.Binary64
