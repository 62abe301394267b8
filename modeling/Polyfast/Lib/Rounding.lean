import Mathlib.Data.Rat.Floor
import Mathlib.Algebra.Order.Floor.Ring
import Mathlib.Tactic.Ring
import Mathlib.Tactic.Linarith
import Mathlib.Tactic.Positivity

/-!
# Rounding to decimals, ties to even

* `roundEven`: the nearest integer, a tie going to the even neighbour;
* `roundTo n`: the nearest multiple of `10⁻ⁿ`, with the same rule for ties;
* `abs_roundTo_sub_le`, `roundTo_mono`: the error is half a unit at most, and the order is kept;
* `abs_roundTo_sub_roundTo_le`: numbers less than a unit apart are rounded to at most a unit apart.
-/

namespace Lib

/-- The nearest integer, a tie going to the even neighbour. -/
def roundEven (x : ℚ) : ℤ :=
  if x - ⌊x⌋ < 1 / 2 then ⌊x⌋
  else if 1 / 2 < x - ⌊x⌋ then ⌊x⌋ + 1
  else if ⌊x⌋ % 2 = 0 then ⌊x⌋ else ⌊x⌋ + 1

/-- `x` rounded to `n` decimals. -/
def roundTo (n : ℕ) (x : ℚ) : ℚ := roundEven (x * 10 ^ n) / 10 ^ n

variable {n : ℕ} {x y : ℚ} {k : ℤ}

/-! ### To integers -/

@[simp] theorem roundEven_intCast (k : ℤ) : roundEven (k : ℚ) = k := by
  simp [roundEven]

theorem abs_roundEven_sub_le (x : ℚ) : |(roundEven x : ℚ) - x| ≤ 1 / 2 := by
  have hlo := Int.floor_le x
  have hhi := Int.lt_floor_add_one x
  unfold roundEven
  rw [abs_le]
  split_ifs
  all_goals
    push_cast
    constructor <;> linarith

/-- Rounding keeps the order: two integers apart, the rounded numbers would be the same number. -/
theorem roundEven_mono (h : x ≤ y) : roundEven x ≤ roundEven y := by
  by_contra hlt
  have hstep : roundEven y + 1 ≤ roundEven x := by omega
  have hcast : (roundEven y : ℚ) + 1 ≤ roundEven x := by exact_mod_cast hstep
  have hx := abs_le.mp (abs_roundEven_sub_le x)
  have hy := abs_le.mp (abs_roundEven_sub_le y)
  have heq : x = y := by linarith
  subst heq
  exact hlt le_rfl

theorem roundEven_le_of_lt (h : x < k + 1 / 2) : roundEven x ≤ k := by
  have hx := abs_le.mp (abs_roundEven_sub_le x)
  have hlt : (roundEven x : ℚ) < k + 1 := by linarith
  exact Int.lt_add_one_iff.mp (by exact_mod_cast hlt)

/-- An even integer takes its upper tie. -/
theorem roundEven_le_iff (hk : k % 2 = 0) : roundEven x ≤ k ↔ x ≤ k + 1 / 2 := by
  constructor
  · intro h
    have hcast : (roundEven x : ℚ) ≤ k := by exact_mod_cast h
    have hx := abs_le.mp (abs_roundEven_sub_le x)
    linarith
  · intro h
    rcases lt_or_eq_of_le h with h | h
    · exact roundEven_le_of_lt h
    · have hfloor : ⌊x⌋ = k := by
        rw [Int.floor_eq_iff]
        constructor <;> linarith
      have htie : x - (k : ℚ) = 1 / 2 := by linarith
      unfold roundEven
      rw [hfloor, htie]
      simp [hk]

/-- Numbers less than one apart are rounded to the same or to neighbouring integers. -/
theorem abs_roundEven_sub_roundEven_le (h : |x - y| < 1) : |roundEven x - roundEven y| ≤ 1 := by
  have hxy := abs_lt.mp h
  have hx := abs_le.mp (abs_roundEven_sub_le x)
  have hy := abs_le.mp (abs_roundEven_sub_le y)
  have hupper : ((roundEven x - roundEven y : ℤ) : ℚ) < 2 := by
    push_cast
    linarith
  have hlower : (-2 : ℚ) < ((roundEven x - roundEven y : ℤ) : ℚ) := by
    push_cast
    linarith
  have hupper' : roundEven x - roundEven y < 2 := by exact_mod_cast hupper
  have hlower' : -2 < roundEven x - roundEven y := by exact_mod_cast hlower
  rw [abs_le]
  omega

/-! ### To decimals -/

theorem roundTo_mono (n : ℕ) (h : x ≤ y) : roundTo n x ≤ roundTo n y := by
  have hscaled : x * 10 ^ n ≤ y * 10 ^ n := mul_le_mul_of_nonneg_right h (by positivity)
  have hround : (roundEven (x * 10 ^ n) : ℚ) ≤ roundEven (y * 10 ^ n) := by
    exact_mod_cast roundEven_mono hscaled
  exact div_le_div_of_nonneg_right hround (by positivity)

@[simp] theorem roundTo_zero (n : ℕ) : roundTo n 0 = 0 := by
  have hzero : roundEven 0 = 0 := by exact_mod_cast roundEven_intCast 0
  simp [roundTo, hzero]

theorem roundTo_nonneg (n : ℕ) (h : 0 ≤ x) : 0 ≤ roundTo n x := by
  rw [← roundTo_zero n]
  exact roundTo_mono n h

theorem abs_roundTo_sub_le (n : ℕ) (x : ℚ) : |roundTo n x - x| ≤ 1 / 2 / 10 ^ n := by
  have hpos : (0 : ℚ) < 10 ^ n := by positivity
  have hsplit : roundTo n x - x = ((roundEven (x * 10 ^ n) : ℚ) - x * 10 ^ n) / 10 ^ n := by
    unfold roundTo
    field_simp
  rw [hsplit, abs_div, abs_of_pos hpos]
  exact div_le_div_of_nonneg_right (abs_roundEven_sub_le _) hpos.le

theorem roundTo_le_zero_of_lt (h : x < 1 / 2 / 10 ^ n) : roundTo n x ≤ 0 := by
  have hpos : (0 : ℚ) < 10 ^ n := by positivity
  have hscaled : x * 10 ^ n < (0 : ℤ) + 1 / 2 := by
    rw [lt_div_iff₀ hpos] at h
    push_cast
    linarith
  have hround : (roundEven (x * 10 ^ n) : ℚ) ≤ 0 := by exact_mod_cast roundEven_le_of_lt hscaled
  exact div_nonpos_of_nonpos_of_nonneg hround hpos.le

theorem abs_roundTo_sub_roundTo_le (h : |x - y| < 1 / 10 ^ n) :
    |roundTo n x - roundTo n y| ≤ 1 / 10 ^ n := by
  have hpos : (0 : ℚ) < 10 ^ n := by positivity
  have hscaled : |x * 10 ^ n - y * 10 ^ n| < 1 := by
    rw [← sub_mul, abs_mul, abs_of_pos hpos]
    exact (lt_div_iff₀ hpos).mp h
  have hround := abs_roundEven_sub_roundEven_le hscaled
  have hsplit : roundTo n x - roundTo n y =
      ((roundEven (x * 10 ^ n) - roundEven (y * 10 ^ n) : ℤ) : ℚ) / 10 ^ n := by
    unfold roundTo
    push_cast
    ring
  rw [hsplit, abs_div, abs_of_pos hpos]
  refine div_le_div_of_nonneg_right ?_ hpos.le
  exact_mod_cast hround

end Lib
