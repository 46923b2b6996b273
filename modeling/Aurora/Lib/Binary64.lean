/-
  Binary floating point as far as a program that measures durations needs it.

  A number is a finite rational, an infinity or not a number.  `Binary64.nearest` rounds a rational
  to the nearest 53-bit value, ties to even, with gradual underflow; it has no value when the
  rounded magnitude reaches `2 ^ 1024`.  `roundHalfEven` is the rounding of a rational to an
  integer, again ties to even.
-/
import Mathlib.Data.Int.Log
import Mathlib.Data.Rat.Floor
import Mathlib.Algebra.Order.Field.Power
import Mathlib.Tactic.Positivity
import Mathlib.Tactic.Linarith

namespace Aurora

/-- The nearest integer, ties to even. -/
def roundHalfEven (q : ℚ) : Int :=
  if q - ⌊q⌋ < 1 / 2 then ⌊q⌋
  else if 1 / 2 < q - ⌊q⌋ then ⌊q⌋ + 1
  else if ⌊q⌋ % 2 = 0 then ⌊q⌋
  else ⌊q⌋ + 1

theorem roundHalfEven_nonneg {q : ℚ} (h : 0 ≤ q) : 0 ≤ roundHalfEven q := by
  have hf : 0 ≤ ⌊q⌋ := Int.floor_nonneg.mpr h
  unfold roundHalfEven
  split
  · exact hf
  split
  · omega
  split <;> omega

/-- Rounding does not pass an integer bound. -/
theorem roundHalfEven_le {q : ℚ} {n : Int} (h : q ≤ n) : roundHalfEven q ≤ n := by
  have hf : ⌊q⌋ ≤ n := by
    have := (Int.floor_le q).trans h
    exact_mod_cast this
  rcases hf.lt_or_eq with hlt | heq
  · unfold roundHalfEven
    split
    · exact hf
    split
    · omega
    split <;> omega
  · have hhalf : q - ⌊q⌋ < 1 / 2 := by
      rw [heq]
      linarith
    unfold roundHalfEven
    rw [if_pos hhalf]
    exact hf

/-- A number a float variable can hold. -/
inductive FloatValue where
  | finite (q : ℚ)
  | infinite (negative : Bool)
  | nan
deriving DecidableEq

namespace Binary64

/-- The exponent of the last bit of the 53-bit significand, not below the subnormal one. -/
def exponent (q : ℚ) : Int := max (Int.log 2 |q| - 52) (-1074)

/-- The nearest value, if its magnitude stays below `2 ^ 1024`. -/
def nearest (q : ℚ) : Option ℚ :=
  let r := roundHalfEven (q / 2 ^ exponent q) * (2 : ℚ) ^ exponent q
  if |r| < 2 ^ 1024 then some r else none

theorem nearest_nonneg {q r : ℚ} (hq : 0 ≤ q) (h : nearest q = some r) : 0 ≤ r := by
  unfold nearest at h
  dsimp only at h
  split at h
  · obtain rfl := Option.some.inj h
    have hpow : (0 : ℚ) < 2 ^ exponent q := zpow_pos (by norm_num) _
    have hround : 0 ≤ roundHalfEven (q / 2 ^ exponent q) :=
      roundHalfEven_nonneg (div_nonneg hq hpow.le)
    exact mul_nonneg (by exact_mod_cast hround) hpow.le
  · cases h

/-- A number well inside the range has a nearest value. -/
theorem nearest_isSome {q : ℚ} (hq : 0 ≤ q) (h : q ≤ 2 ^ 100) : ∃ r, nearest q = some r := by
  have hexp : exponent q ≤ 100 := by
    refine max_le ?_ (by decide)
    rcases hq.eq_or_lt with rfl | hpos
    · rw [abs_zero, Int.log_zero_right]
      decide
    have hlog : (2 : ℚ) ^ Int.log 2 |q| ≤ 2 ^ (100 : Int) := by
      rw [abs_of_pos hpos]
      exact (Int.zpow_log_le_self (by decide) hpos).trans (by exact_mod_cast h)
    have := (zpow_le_zpow_iff_right₀ (by norm_num : (1 : ℚ) < 2)).mp hlog
    omega
  have hpow : (0 : ℚ) < 2 ^ exponent q := zpow_pos (by norm_num) _
  have hle : (2 : ℚ) ^ exponent q ≤ 2 ^ (100 : Int) :=
    zpow_le_zpow_right₀ (by norm_num) hexp
  have hround : ((roundHalfEven (q / 2 ^ exponent q) : Int) : ℚ) ≤ q / 2 ^ exponent q + 1 := by
    have hceil : roundHalfEven (q / 2 ^ exponent q) ≤ ⌈q / 2 ^ exponent q⌉ :=
      roundHalfEven_le (Int.le_ceil _)
    have hlt := Int.ceil_lt_add_one (q / 2 ^ exponent q)
    have : ((roundHalfEven (q / 2 ^ exponent q) : Int) : ℚ) ≤ (⌈q / 2 ^ exponent q⌉ : Int) := by
      exact_mod_cast hceil
    exact this.trans hlt.le
  have hnonneg : (0 : ℚ) ≤ (roundHalfEven (q / 2 ^ exponent q) : Int) := by
    exact_mod_cast roundHalfEven_nonneg (div_nonneg hq hpow.le)
  unfold nearest
  dsimp only
  rw [if_pos]
  · exact ⟨_, rfl⟩
  rw [abs_of_nonneg (mul_nonneg hnonneg hpow.le)]
  calc (roundHalfEven (q / 2 ^ exponent q) : ℚ) * 2 ^ exponent q
      ≤ (q / 2 ^ exponent q + 1) * 2 ^ exponent q := mul_le_mul_of_nonneg_right hround hpow.le
    _ = q + 2 ^ exponent q := by
      rw [add_mul, div_mul_cancel₀ _ hpow.ne', one_mul]
    _ ≤ 2 ^ 100 + 2 ^ 100 := add_le_add h (by exact_mod_cast hle)
    _ = 2 ^ 101 := by norm_num
    _ < 2 ^ 1024 := pow_lt_pow_right₀ (by norm_num) (by norm_num)

end Binary64

end Aurora
