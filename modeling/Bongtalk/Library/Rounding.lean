import Mathlib.Data.Int.Log
import Mathlib.Algebra.Order.Floor.Ring

/-!
# Rounding of decimals

A number is rounded to a whole number, or to so many significant digits. A number half way between
two goes away from zero.
-/

namespace Library.Rounding

variable {K : Type*} [Field K] [LinearOrder K] [IsStrictOrderedRing K] [FloorRing K]

/-- The nearest whole number. -/
def roundHalfUp (number : K) : Int :=
  if 0 ≤ number then ⌊number + 1 / 2⌋ else ⌈number - 1 / 2⌉

theorem abs_sub_roundHalfUp_le (number : K) : |number - roundHalfUp number| ≤ 1 / 2 := by
  rw [roundHalfUp, abs_le]
  split
  · have below := Int.floor_le (number + 1 / 2)
    have above := Int.lt_floor_add_one (number + 1 / 2)
    constructor
    · linarith
    · linarith
  · have below := Int.ceil_lt_add_one (number - 1 / 2)
    have above := Int.le_ceil (number - 1 / 2)
    constructor
    · linarith
    · linarith

theorem roundHalfUp_intCast (whole : Int) : roundHalfUp (whole : K) = whole := by
  have near := abs_sub_roundHalfUp_le (whole : K)
  have apart : |((whole - roundHalfUp (whole : K) : Int) : K)| < 1 := by
    rw [Int.cast_sub]
    exact near.trans_lt (by norm_num)
  have same : |whole - roundHalfUp (whole : K)| < 1 := by exact_mod_cast apart
  rw [Int.abs_lt_one_iff] at same
  omega

theorem roundHalfUp_neg (number : K) : roundHalfUp (-number) = -roundHalfUp number := by
  rw [roundHalfUp, roundHalfUp]
  rcases lt_trichotomy number 0 with below | rfl | above
  · rw [if_pos (neg_pos.mpr below).le, if_neg (not_le.mpr below), ← Int.floor_neg, neg_sub']
    rw [sub_neg_eq_add]
  · have noneHalf : ⌊(1 / 2 : K)⌋ = 0 := by
      rw [Int.floor_eq_zero_iff]
      constructor
      · norm_num
      · norm_num
    rw [neg_zero, if_pos le_rfl, zero_add, noneHalf, neg_zero]
  · rw [if_neg (not_le.mpr (neg_neg_iff_pos.mpr above)), if_pos above.le, ← Int.ceil_neg, neg_add']

/-- Rounding does not pass a whole number. -/
theorem le_roundHalfUp {whole : Int} {number : K} (le : whole ≤ number) :
    whole ≤ roundHalfUp number := by
  have near := (abs_le.mp (abs_sub_roundHalfUp_le number)).2
  have above : ((whole : Int) : K) < ((roundHalfUp number + 1 : Int) : K) := by
    push_cast
    linarith
  exact Int.lt_add_one_iff.mp (Int.cast_lt.mp above)

/-- The value of one in the last of the significant digits. -/
def lastPlace (digits : Nat) (number : K) : K :=
  10 ^ (Int.log 10 |number| + 1 - digits)

/-- The number to so many significant digits. -/
def toSignificant (digits : Nat) (number : K) : K :=
  roundHalfUp (number / lastPlace digits number) * lastPlace digits number

section Significant

variable {digits : Nat} {number : K}

theorem lastPlace_pos (digits : Nat) (number : K) : 0 < lastPlace digits number :=
  zpow_pos (by norm_num) _

theorem log_lt {bound : Int} (nonzero : number ≠ 0) (below : |number| < 10 ^ bound) :
    Int.log 10 |number| < bound := by
  apply (Int.lt_zpow_iff_log_lt (by norm_num) (abs_pos.mpr nonzero)).mp
  exact_mod_cast below

theorem toSignificant_zero : toSignificant digits (0 : K) = 0 := by
  have whole : roundHalfUp (0 : K) = 0 := by
    rw [← Int.cast_zero]
    exact roundHalfUp_intCast 0
  rw [toSignificant, zero_div, whole, Int.cast_zero, zero_mul]

/-- The error is at most half of the last place. -/
theorem abs_sub_toSignificant_le {bound : Int} (below : |number| < 10 ^ bound) :
    |number - toSignificant digits number| ≤ 10 ^ (bound - digits) / 2 := by
  by_cases zero : number = 0
  · rw [zero, toSignificant_zero, sub_zero, abs_zero]
    exact (half_pos (zpow_pos (by norm_num) _)).le
  · have unit := lastPlace_pos digits number
    have smaller : lastPlace digits number ≤ 10 ^ (bound - digits) := by
      have place := log_lt zero below
      exact zpow_le_zpow_right₀ (by norm_num) (by omega)
    have scaled : number - toSignificant digits number =
        (number / lastPlace digits number -
          roundHalfUp (number / lastPlace digits number)) * lastPlace digits number := by
      rw [sub_mul, div_mul_cancel₀ _ unit.ne', toSignificant]
    rw [scaled, abs_mul, abs_of_pos unit]
    have near := abs_sub_roundHalfUp_le (number / lastPlace digits number)
    calc _ ≤ 1 / 2 * lastPlace digits number := mul_le_mul_of_nonneg_right near unit.le
      _ ≤ 10 ^ (bound - digits) / 2 := by linarith

/-- A number with few enough digits is not changed. -/
theorem toSignificant_eq_self {place whole : Int} (multiple : number = whole * 10 ^ place)
    (below : |number| < 10 ^ (place + digits)) : toSignificant digits number = number := by
  by_cases zero : number = 0
  · rw [zero, toSignificant_zero]
  have logBelow := log_lt zero below
  have unit := lastPlace_pos digits number
  obtain ⟨extra, split⟩ : ∃ extra : Nat, place = extra + (Int.log 10 |number| + 1 - digits) :=
    ⟨(place - (Int.log 10 |number| + 1 - digits)).toNat, by omega⟩
  have quotient : number / lastPlace digits number = ((whole * 10 ^ extra : Int) : K) := by
    rw [div_eq_iff unit.ne', lastPlace]
    push_cast
    rw [mul_assoc, ← zpow_natCast, ← zpow_add₀ (by norm_num), ← split]
    exact multiple
  rw [toSignificant, quotient, roundHalfUp_intCast, ← quotient, div_mul_cancel₀ _ unit.ne']

theorem toSignificant_neg (digits : Nat) (number : K) :
    toSignificant digits (-number) = -toSignificant digits number := by
  have samePlace : lastPlace digits (-number) = lastPlace digits number := by
    rw [lastPlace, abs_neg, lastPlace]
  rw [toSignificant, samePlace, neg_div, roundHalfUp_neg, Int.cast_neg, neg_mul, toSignificant]

/-- Rounding does not pass a power of ten. -/
theorem le_toSignificant (some : 0 < digits) {bound : Int} (le : 10 ^ bound ≤ number) :
    10 ^ bound ≤ toSignificant digits number := by
  have positive : 0 < number := (zpow_pos (by norm_num) _).trans_le le
  have unit := lastPlace_pos digits number
  have reaches : bound ≤ Int.log 10 |number| := by
    rw [abs_of_pos positive]
    apply (Int.zpow_le_iff_le_log (by norm_num) positive).mp
    exact_mod_cast le
  have leading : (10 : K) ^ Int.log 10 |number| =
      ((10 ^ (digits - 1) : Int) : K) * lastPlace digits number := by
    push_cast
    rw [lastPlace, ← zpow_natCast, ← zpow_add₀ (by norm_num)]
    congr 1
    omega
  have below : (10 : K) ^ Int.log 10 |number| ≤ number := by
    rw [abs_of_pos positive]
    exact_mod_cast Int.zpow_log_le_self (by norm_num : 1 < 10) positive
  have quotient : ((10 ^ (digits - 1) : Int) : K) ≤ number / lastPlace digits number := by
    rw [le_div_iff₀ unit, ← leading]
    exact below
  have rounded : ((10 ^ (digits - 1) : Int) : K) ≤
      (roundHalfUp (number / lastPlace digits number) : K) :=
    Int.cast_le.mpr (le_roundHalfUp quotient)
  calc (10 : K) ^ bound ≤ 10 ^ Int.log 10 |number| := zpow_le_zpow_right₀ (by norm_num) reaches
    _ = ((10 ^ (digits - 1) : Int) : K) * lastPlace digits number := leading
    _ ≤ toSignificant digits number := mul_le_mul_of_nonneg_right rounded unit.le

end Significant

end Library.Rounding
