import Mathlib

/-!
Rounding to the nearest integer and to the nearest double, ties to even.
-/

namespace Vauxr.Lib

/-- The nearest integer, the even one of two. -/
def roundEven (q : ℚ) : ℤ :=
  let up := if Even ⌊q⌋ then 1 / 2 < Int.fract q else 1 / 2 ≤ Int.fract q
  if up then ⌊q⌋ + 1 else ⌊q⌋

lemma roundEven_error (q : ℚ) : |(roundEven q : ℚ) - q| ≤ 1 / 2 := by
  have hsum := Int.floor_add_fract q
  have hnonneg := Int.fract_nonneg q
  have hlt := Int.fract_lt_one q
  have hdown : Int.fract q ≤ 1 / 2 → |((⌊q⌋ : ℤ) : ℚ) - q| ≤ 1 / 2 := by
    intro h
    rw [abs_le]
    constructor <;> linarith
  have hup : 1 / 2 ≤ Int.fract q → |((⌊q⌋ + 1 : ℤ) : ℚ) - q| ≤ 1 / 2 := by
    intro h
    push_cast
    rw [abs_le]
    constructor <;> linarith
  unfold roundEven
  by_cases heven : Even ⌊q⌋
  · simp only [heven, if_true]
    split
    next h => exact hup h.le
    next h => exact hdown (not_lt.mp h)
  · simp only [heven, if_false]
    split
    next h => exact hup h
    next h => exact hdown (not_le.mp h).le

@[simp] lemma roundEven_intCast (n : ℤ) : roundEven n = n := by
  have hdown : ¬ if Even n then (1 : ℚ) / 2 < 0 else (1 : ℚ) / 2 ≤ 0 := by
    split
    · norm_num
    · norm_num
  simp only [roundEven, Int.floor_intCast, Int.fract_intCast]
  rw [if_neg hdown]

lemma roundEven_nonneg {q : ℚ} (hq : 0 ≤ q) : 0 ≤ roundEven q := by
  have hfloor : 0 ≤ ⌊q⌋ := Int.floor_nonneg.mpr hq
  have hle : ⌊q⌋ ≤ roundEven q := by
    unfold roundEven
    dsimp only
    split
    · split
      · omega
      · omega
    · split
      · omega
      · omega
  exact hfloor.trans hle

/-- The distance of two doubles next to a positive number, subnormal ones included. -/
def ulp (q : ℚ) : ℚ := 2 ^ max (Int.log 2 q - 52) (-1074)

/-- The double next to a number that is not negative and not too large for one. -/
def double (q : ℚ) : ℚ := roundEven (q / ulp q) * ulp q

@[simp] lemma double_zero : double 0 = 0 := by
  have h := roundEven_intCast 0
  rw [Int.cast_zero] at h
  simp [double, h]

lemma double_nonneg {q : ℚ} (hq : 0 ≤ q) : 0 ≤ double q := by
  have hpos : 0 < ulp q := zpow_pos (by norm_num) _
  have hround : 0 ≤ roundEven (q / ulp q) := roundEven_nonneg (div_nonneg hq hpos.le)
  exact mul_nonneg (Int.cast_nonneg hround) hpos.le

lemma double_error (q : ℚ) : |double q - q| ≤ ulp q / 2 := by
  have hpos : 0 < ulp q := zpow_pos (by norm_num) _
  have herr := roundEven_error (q / ulp q)
  have heq : double q - q = (roundEven (q / ulp q) - q / ulp q) * ulp q := by
    rw [double, sub_mul, div_mul_cancel₀ q hpos.ne']
  rw [heq, abs_mul, abs_of_pos hpos]
  calc |(roundEven (q / ulp q) : ℚ) - q / ulp q| * ulp q ≤ 1 / 2 * ulp q :=
        mul_le_mul_of_nonneg_right herr hpos.le
    _ = ulp q / 2 := by ring

lemma log_le {q : ℚ} {k : ℕ} (hq : q < 2 ^ (k + 1)) : Int.log 2 q ≤ k := by
  by_contra hlog
  rw [not_le] at hlog
  by_cases hpos : 0 < q
  · have h := (Int.zpow_le_iff_le_log (by norm_num : 1 < 2) hpos).mpr
      (by omega : ((k + 1 : ℕ) : ℤ) ≤ Int.log 2 q)
    rw [zpow_natCast, Nat.cast_ofNat] at h
    linarith
  · have hzero := Int.log_of_right_le_zero 2 (not_lt.mp hpos)
    omega

/-- Below the double of 53 bits, doubles are at most one apart. -/
lemma ulp_le_one {q : ℚ} (hq : q < 2 ^ 53) : ulp q ≤ 1 := by
  have hlog := log_le (k := 52) hq
  unfold ulp
  exact zpow_le_one_of_nonpos₀ (by norm_num) (by omega)

/-- Rounding the double of a number gives an integer at most one off. -/
lemma roundEven_double_error {q : ℚ} (hq : q < 2 ^ 53) : |(roundEven (double q) : ℚ) - q| ≤ 1 := by
  have h₁ := roundEven_error (double q)
  have h₂ := double_error q
  have h₃ := ulp_le_one hq
  calc |(roundEven (double q) : ℚ) - q| ≤ |(roundEven (double q) : ℚ) - double q| + |double q - q| :=
        abs_sub_le _ _ _
    _ ≤ 1 / 2 + 1 / 2 := by linarith
    _ = 1 := by norm_num

end Vauxr.Lib
