import Mathlib.Data.Int.Log
import Mathlib.Data.Rat.Floor
import Mathlib.Tactic.Linarith
import Mathlib.Tactic.Positivity

set_option autoImplicit false

namespace Yaaos.Base

-- To the nearest whole number, a tie to the even one.
def roundEven (value : ℚ) : Int :=
  let low := ⌊value⌋
  if value - low < 1 / 2 then low
  else if 1 / 2 < value - low then low + 1
  else if low % 2 = 0 then low else low + 1

-- To `digits` binary digits, over exponents of any size.
def roundDigits (digits : Nat) (value : ℚ) : ℚ :=
  if value = 0 then 0
  else
    let unit : ℚ := 2 ^ (Int.log 2 |value| - digits + 1)
    unit * roundEven (value / unit)

def float64 (value : ℚ) : ℚ := roundDigits 53 value

theorem roundEven_near (value : ℚ) : |(roundEven value : ℚ) - value| ≤ 1 / 2 := by
  have low := Int.floor_le value
  have high := Int.lt_floor_add_one value
  rw [abs_le, roundEven]
  split_ifs with below above even
  · constructor <;> linarith
  · push_cast
    constructor <;> linarith
  · constructor <;> linarith
  · push_cast
    constructor <;> linarith

theorem roundDigits_near (digits : Nat) (value : ℚ) : |roundDigits digits value - value| ≤ |value| / 2 ^ digits := by
  rw [roundDigits]
  split_ifs with zero
  · rw [zero, sub_zero, abs_zero, zero_div]
  · have size : 0 < |value| := abs_pos.mpr zero
    have leading : (2 : ℚ) ^ Int.log 2 |value| ≤ |value| := Int.zpow_log_le_self (by decide) size
    generalize Int.log 2 |value| = exponent at leading ⊢
    have positive : (0 : ℚ) < 2 ^ (exponent - digits + 1) := zpow_pos two_pos _
    have unit : (2 : ℚ) ^ (exponent - digits + 1) / 2 = 2 ^ exponent / 2 ^ digits := by
      rw [zpow_add_one₀ (by norm_num), zpow_sub₀ (by norm_num), zpow_natCast]
      ring
    generalize (2 : ℚ) ^ (exponent - digits + 1) = spacing at positive unit ⊢
    have scaled : spacing * roundEven (value / spacing) - value =
        spacing * (roundEven (value / spacing) - value / spacing) := by
      rw [mul_sub, mul_div_cancel₀ _ positive.ne']
    rw [scaled, abs_mul, abs_of_pos positive]
    calc spacing * |(roundEven (value / spacing) : ℚ) - value / spacing| ≤ spacing * (1 / 2) :=
          mul_le_mul_of_nonneg_left (roundEven_near _) positive.le
      _ = 2 ^ exponent / 2 ^ digits := by rw [← unit]; ring
      _ ≤ |value| / 2 ^ digits := div_le_div_of_nonneg_right leading (pow_nonneg zero_le_two digits)

theorem float64_near (value : ℚ) : |float64 value - value| ≤ |value| / 2 ^ 53 := roundDigits_near 53 value

-- A value at most `bound` away from zero is rounded by at most its last digit.
theorem float64_off (value bound : ℚ) (small : |value| ≤ bound) : |float64 value - value| ≤ bound / 2 ^ 53 :=
  (float64_near value).trans (div_le_div_of_nonneg_right small (by positivity))

end Yaaos.Base
