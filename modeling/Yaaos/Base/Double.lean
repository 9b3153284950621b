import Mathlib.Algebra.Order.Group.Unbundled.Int
import Mathlib.Algebra.Order.Ring.Int

set_option autoImplicit false

namespace Yaaos.Base

structure FiniteDouble where
  units : Int
  digits : ∃ mantissa exponent : Nat, units.natAbs = mantissa * 2 ^ exponent ∧ mantissa < 2 ^ 53
  bounded : units.natAbs < 2 ^ (1024 + 1074)

inductive Double where
  | nan
  | infinity (negative : Bool)
  | finite (number : FiniteDouble)

namespace FiniteDouble

theorem shifted_lt (number precision exponent limit : Nat) (short : number < 2 ^ precision)
    (fits : precision + exponent ≤ limit) : number * 2 ^ exponent < 2 ^ limit := by
  calc number * 2 ^ exponent < 2 ^ precision * 2 ^ exponent :=
        Nat.mul_lt_mul_of_pos_right short (Nat.two_pow_pos exponent)
    _ = 2 ^ (precision + exponent) := (Nat.pow_add 2 precision exponent).symm
    _ ≤ 2 ^ limit := Nat.pow_le_pow_right Nat.two_pos fits

def ofNat (number : Nat) (short : number < 2 ^ 53) : FiniteDouble where
  units := (number * 2 ^ 1074 : Nat)
  digits := ⟨number, 1074, Int.natAbs_natCast _, short⟩
  bounded := by
    rw [Int.natAbs_natCast]
    exact shifted_lt number 53 1074 (1024 + 1074) short (by omega)

theorem natAbs_scaled (units : Int) (power : Nat) : (units * 2 ^ power).natAbs = units.natAbs * 2 ^ power := by
  rw [Int.natAbs_mul, Int.natAbs_pow]
  rfl

def scaled (number : FiniteDouble) (power : Nat) (bounded : (number.units * 2 ^ power).natAbs < 2 ^ (1024 + 1074)) :
    FiniteDouble where
  units := number.units * 2 ^ power
  digits := by
    obtain ⟨mantissa, exponent, same, short⟩ := number.digits
    refine ⟨mantissa, exponent + power, ?_, short⟩
    rw [natAbs_scaled, same, Nat.mul_assoc, Nat.pow_add]
  bounded := bounded

end FiniteDouble

namespace Double

-- Beyond every finite number.
@[irreducible]
def limit : Int := (2 ^ (1024 + 1074) : Nat)

def value : Double → Option Int
  | .nan => none
  | .infinity true => some (-limit)
  | .infinity false => some limit
  | .finite number => some number.units

def le (left right : Double) : Prop := ∃ low high, left.value = some low ∧ right.value = some high ∧ low ≤ high

def lt (left right : Double) : Bool := match left.value, right.value with
  | some low, some high => low < high
  | _, _ => false

def pyMin (left right : Double) : Double := if right.lt left then right else left

def timesPower (number : Double) (power : Nat) : Double := match number with
  | .nan => .nan
  | .infinity negative => .infinity negative
  | .finite number =>
      if bounded : (number.units * 2 ^ power).natAbs < 2 ^ (1024 + 1074) then .finite (number.scaled power bounded)
      else .infinity (number.units < 0)

section Comparing

variable (left right : Double) (low high : Int)

theorem value_none (none : left.value = none) : left = .nan := by
  cases left with
  | nan => rfl
  | infinity negative =>
      cases negative with
      | true => cases none
      | false => cases none
  | finite number => cases none

theorem limit_above (number : FiniteDouble) : -limit < number.units ∧ number.units < limit := by
  have bounded := number.bounded
  rw [limit]
  generalize 2 ^ (1024 + 1074) = beyond at bounded
  omega

theorem value_bounded (place : Int) (atLeft : left.value = some place) : -limit ≤ place ∧ place ≤ limit := by
  have positive : 0 ≤ limit := by
    rw [limit]
    exact Int.natCast_nonneg _
  cases left with
  | nan => cases atLeft
  | infinity negative =>
      cases negative with
      | true =>
          cases atLeft
          omega
      | false =>
          cases atLeft
          omega
  | finite number =>
      cases atLeft
      have between := limit_above number
      omega

theorem lt_iff (atLeft : left.value = some low) (atRight : right.value = some high) :
    left.lt right = true ↔ low < high := by
  rw [lt, atLeft, atRight]
  exact decide_eq_true_iff

theorem le_iff (atLeft : left.value = some low) (atRight : right.value = some high) :
    left.le right ↔ low ≤ high := by
  constructor
  · rintro ⟨other, another, sameLow, sameHigh, ordered⟩
    rw [atLeft] at sameLow
    rw [atRight] at sameHigh
    cases sameLow
    cases sameHigh
    exact ordered
  · intro ordered
    exact ⟨low, high, atLeft, atRight, ordered⟩

theorem value_pyMin (atLeft : left.value = some low) (atRight : right.value = some high) :
    (pyMin left right).value = some (min low high) := by
  unfold pyMin
  by_cases less : right.lt left = true
  · have below := (lt_iff right left high low atRight atLeft).mp less
    rw [if_pos less, atRight, min_eq_right (le_of_lt below)]
  · have above := mt (lt_iff right left high low atRight atLeft).mpr less
    rw [if_neg less, atLeft, min_eq_left (not_lt.mp above)]

end Comparing

section Powers

variable (number : FiniteDouble) (power : Nat)

theorem timesPower_zero (other : Double) : other.timesPower 0 = other := by
  cases other with
  | nan => rfl
  | infinity negative => rfl
  | finite number =>
      have same : number.units * 2 ^ 0 = number.units := by rw [Int.pow_zero, Int.mul_one]
      have bounded : (number.units * 2 ^ 0).natAbs < 2 ^ (1024 + 1074) := by
        rw [same]
        exact number.bounded
      rw [timesPower, dif_pos bounded]
      congr
      rw [FiniteDouble.scaled]
      congr

theorem value_small (bounded : (number.units * 2 ^ power).natAbs < 2 ^ (1024 + 1074)) :
    ((Double.finite number).timesPower power).value = some (number.units * 2 ^ power) := by
  rw [timesPower, dif_pos bounded]
  rfl

theorem value_large (positive : 0 ≤ number.units) (large : ¬ (number.units * 2 ^ power).natAbs < 2 ^ (1024 + 1074)) :
    ((Double.finite number).timesPower power).value = some limit := by
  rw [timesPower, dif_neg large, decide_eq_false (Int.not_lt.mpr positive)]
  rfl

theorem value_deep (negative : number.units < 0) (large : ¬ (number.units * 2 ^ power).natAbs < 2 ^ (1024 + 1074)) :
    ((Double.finite number).timesPower power).value = some (-limit) := by
  rw [timesPower, dif_neg large, decide_eq_true negative]
  rfl

theorem value_timesPower (other : Double) (isNumber : other ≠ .nan) : ∃ product, (other.timesPower power).value = some product := by
  cases other with
  | nan => exact absurd rfl isNumber
  | infinity negative =>
      cases negative with
      | true => exact ⟨-limit, rfl⟩
      | false => exact ⟨limit, rfl⟩
  | finite number =>
      by_cases bounded : (number.units * 2 ^ power).natAbs < 2 ^ (1024 + 1074)
      · exact ⟨_, value_small number power bounded⟩
      · by_cases negative : number.units < 0
        · exact ⟨_, value_deep number power negative bounded⟩
        · exact ⟨_, value_large number power (Int.not_lt.mp negative) bounded⟩

theorem natAbs_mono (units : Int) (fewer more : Nat) (ordered : fewer ≤ more) :
    (units * 2 ^ fewer).natAbs ≤ (units * 2 ^ more).natAbs := by
  rw [FiniteDouble.natAbs_scaled, FiniteDouble.natAbs_scaled]
  exact Nat.mul_le_mul_left _ (Nat.pow_le_pow_right Nat.two_pos ordered)

theorem timesPower_mono (fewer more : Nat) (positive : 0 ≤ number.units) (ordered : fewer ≤ more) :
    ((Double.finite number).timesPower fewer).le ((Double.finite number).timesPower more) := by
  have grows := natAbs_mono number.units fewer more ordered
  by_cases bounded : (number.units * 2 ^ more).natAbs < 2 ^ (1024 + 1074)
  · have before := value_small number fewer (Nat.lt_of_le_of_lt grows bounded)
    refine ⟨_, _, before, value_small number more bounded, ?_⟩
    exact Int.mul_le_mul_of_nonneg_left (pow_le_pow_right₀ (by omega) ordered) positive
  · obtain ⟨product, before⟩ := value_timesPower fewer (.finite number) Double.noConfusion
    exact ⟨product, limit, before, value_large number more positive bounded, (value_bounded _ product before).2⟩

theorem timesPower_falls (more : Nat) (negative : number.units < 0) (some_ : 0 < more) (place : Int)
    (product : ((Double.finite number).timesPower more).value = some place) : place < number.units := by
  by_cases bounded : (number.units * 2 ^ more).natAbs < 2 ^ (1024 + 1074)
  · rw [value_small number more bounded] at product
    cases product
    have power : (2 : Int) ≤ 2 ^ more := by
      calc (2 : Int) = 2 ^ 1 := by rfl
        _ ≤ 2 ^ more := pow_le_pow_right₀ (by omega) some_
    calc number.units * 2 ^ more ≤ number.units * 2 := Int.mul_le_mul_of_nonpos_left (by omega) power
      _ < number.units := by omega
  · rw [value_deep number more negative bounded] at product
    cases product
    exact (limit_above number).1

end Powers

end Double

end Yaaos.Base
