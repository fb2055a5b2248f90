/-
Binary floating point: rational numbers with so many significant bits, and
rounding to the nearest of them, whatever the rule for ties.  Exponents have no
bounds, so nothing overflows and nothing is lost near zero.
-/

import Mathlib

namespace DpktNg.Library

/-- Rounding to a whole number that is nearest. -/
structure Nearest where
  round : ℚ → ℤ
  near : ∀ x, |(round x : ℚ) - x| ≤ 1 / 2

/-- A number with so many significant bits, at any exponent. -/
def HasBits (bits : ℕ) (x : ℚ) : Prop :=
  ∃ significand exponent : ℤ,
    |significand| ≤ 2 ^ bits ∧ x = significand * 2 ^ exponent

/-- The distance of the numbers with so many bits around a number. -/
def ulp (bits : ℕ) (x : ℚ) : ℚ := 2 ^ (Int.log 2 |x| + 1 - (bits : ℤ))

def Nearest.roundBits (nearest : Nearest) (bits : ℕ) (x : ℚ) : ℚ :=
  nearest.round (x / ulp bits x) * ulp bits x

section Ulp

variable {x : ℚ}

theorem ulp_pos (bits : ℕ) (x : ℚ) : 0 < ulp bits x := zpow_pos two_pos _

theorem abs_lt_ulp (bits : ℕ) (x : ℚ) : |x| < 2 ^ bits * ulp bits x := by
  have above := Int.lt_zpow_succ_log_self (b := 2) one_lt_two |x|
  have split : (2 : ℚ) ^ bits * ulp bits x = 2 ^ (Int.log 2 |x| + 1) := by
    unfold ulp
    rw [← zpow_natCast, ← zpow_add₀ two_ne_zero]
    congr 1
    ring
  rw [split]
  exact_mod_cast above

theorem le_abs_of_ulp (bits : ℕ) (nonzero : x ≠ 0) :
    2 ^ bits * ulp bits x / 2 ≤ |x| := by
  have below := Int.zpow_log_le_self (b := 2) one_lt_two (abs_pos.mpr nonzero)
  have split : (2 : ℚ) ^ bits * ulp bits x / 2 = 2 ^ Int.log 2 |x| := by
    unfold ulp
    rw [← zpow_natCast, ← zpow_add₀ two_ne_zero,
      add_sub_cancel, zpow_add_one₀ two_ne_zero]
    ring
  rw [split]
  exact_mod_cast below

theorem ulp_le (bits : ℕ) {exponent : ℤ} (nonzero : x ≠ 0)
    (below : |x| < 2 ^ exponent) : ulp bits x ≤ 2 ^ (exponent - (bits : ℤ)) := by
  have atMost := Int.zpow_log_le_self (b := 2) one_lt_two (abs_pos.mpr nonzero)
  have less : (2 : ℚ) ^ Int.log 2 |x| < 2 ^ exponent :=
    lt_of_le_of_lt (by exact_mod_cast atMost) below
  have smaller := (zpow_lt_zpow_iff_right₀ one_lt_two).mp less
  unfold ulp
  apply zpow_le_zpow_right₀ one_le_two
  omega

end Ulp

namespace Nearest

variable (nearest : Nearest) {bits : ℕ} {x : ℚ}

theorem round_nearest (x : ℚ) (whole : ℤ) :
    |(nearest.round x : ℚ) - x| ≤ |(whole : ℚ) - x| := by
  by_cases same : whole = nearest.round x
  · rw [same]
  · have apart : (1 : ℚ) ≤ |(whole : ℚ) - nearest.round x| := by
      have distance := Int.one_le_abs (sub_ne_zero.mpr same)
      exact_mod_cast distance
    have near := nearest.near x
    have triangle := abs_sub_le (whole : ℚ) x (nearest.round x)
    rw [abs_sub_comm x] at triangle
    linarith

theorem round_intCast (whole : ℤ) : nearest.round (whole : ℚ) = whole := by
  have distance := nearest.round_nearest (whole : ℚ) whole
  rw [sub_self, abs_zero, abs_nonpos_iff, sub_eq_zero] at distance
  exact_mod_cast distance

theorem roundBits_sub (bits : ℕ) (x : ℚ) :
    |nearest.roundBits bits x - x| =
      |(nearest.round (x / ulp bits x) : ℚ) - x / ulp bits x| * ulp bits x := by
  have positive := ulp_pos bits x
  have scaled : nearest.roundBits bits x - x =
      ((nearest.round (x / ulp bits x) : ℚ) - x / ulp bits x) * ulp bits x := by
    unfold roundBits
    rw [sub_mul, div_mul_cancel₀ _ positive.ne']
  rw [scaled, abs_mul, abs_of_pos positive]

theorem roundBits_hasBits (bits : ℕ) (x : ℚ) :
    HasBits bits (nearest.roundBits bits x) := by
  have positive := ulp_pos bits x
  refine ⟨_, _, ?_, rfl⟩
  have scaled : |x / ulp bits x| < 2 ^ bits := by
    rw [abs_div, abs_of_pos positive, div_lt_iff₀ positive]
    exact abs_lt_ulp bits x
  have near := nearest.near (x / ulp bits x)
  have size := abs_sub_abs_le_abs_sub
    (nearest.round (x / ulp bits x) : ℚ) (x / ulp bits x)
  have bound : (|nearest.round (x / ulp bits x)| : ℚ) < 2 ^ bits + 1 := by
    linarith
  have whole : |nearest.round (x / ulp bits x)| < 2 ^ bits + 1 := by
    exact_mod_cast bound
  exact Int.lt_add_one_iff.mp whole

/-- The error of a number below a power of two. -/
theorem roundBits_near (exponent : ℤ) (below : |x| < 2 ^ exponent) :
    |nearest.roundBits bits x - x| ≤ 2 ^ (exponent - (bits : ℤ) - 1) := by
  by_cases zero : x = 0
  · have whole := nearest.round_intCast 0
    rw [Int.cast_zero] at whole
    have nothing : nearest.roundBits bits 0 = 0 := by
      unfold roundBits
      rw [zero_div, whole, Int.cast_zero, zero_mul]
    rw [zero, nothing, sub_self, abs_zero]
    positivity
  · have small := ulp_le bits zero below
    have near := nearest.near (x / ulp bits x)
    rw [nearest.roundBits_sub, zpow_sub_one₀ two_ne_zero]
    calc
      _ ≤ 1 / 2 * ulp bits x :=
        mul_le_mul_of_nonneg_right near (ulp_pos bits x).le
      _ ≤ 1 / 2 * 2 ^ (exponent - (bits : ℤ)) := by linarith
      _ = _ := by ring

/-- A number with so many bits is a multiple of the ulp around another one, or
it is below the power of two that the other one has reached. -/
theorem multiple_or_small {y : ℚ} (has : HasBits bits y) (x : ℚ) :
    (∃ whole : ℤ, y = whole * ulp bits x) ∨ |y| ≤ 2 ^ bits * ulp bits x / 2 := by
  obtain ⟨significand, exponent, small, same⟩ := has
  by_cases coarse : Int.log 2 |x| + 1 - (bits : ℤ) ≤ exponent
  · left
    obtain ⟨shift, above⟩ := Int.le.dest coarse
    refine ⟨significand * 2 ^ shift, ?_⟩
    unfold ulp
    push_cast
    rw [same, ← above, zpow_add₀ two_ne_zero, zpow_natCast]
    ring
  · right
    have bounded : |(significand : ℚ)| ≤ 2 ^ bits := by exact_mod_cast small
    have fine : (2 : ℚ) ^ exponent ≤ ulp bits x / 2 := by
      unfold ulp
      rw [div_eq_mul_inv, ← zpow_sub_one₀ two_ne_zero]
      apply zpow_le_zpow_right₀ one_le_two
      omega
    have power : (0 : ℚ) < 2 ^ exponent := zpow_pos two_pos exponent
    calc
      |y| = |(significand : ℚ)| * 2 ^ exponent := by
        rw [same, abs_mul, abs_of_pos power]
      _ ≤ 2 ^ bits * (ulp bits x / 2) :=
        mul_le_mul bounded fine power.le (by positivity)
      _ = _ := by ring

/-- No number with so many bits is nearer. -/
theorem roundBits_nearest (positive : 0 < bits) {y : ℚ}
    (has : HasBits bits y) (x : ℚ) :
    |nearest.roundBits bits x - x| ≤ |y - x| := by
  have unit := ulp_pos bits x
  -- enough for the multiples of the ulp
  have multiple : ∀ whole : ℤ,
      |nearest.roundBits bits x - x| ≤ |whole * ulp bits x - x| := by
    intro whole
    have scaled : whole * ulp bits x - x =
        ((whole : ℚ) - x / ulp bits x) * ulp bits x := by
      rw [sub_mul, div_mul_cancel₀ _ unit.ne']
    rw [nearest.roundBits_sub, scaled, abs_mul, abs_of_pos unit]
    exact mul_le_mul_of_nonneg_right (nearest.round_nearest _ whole) unit.le
  by_cases zero : x = 0
  · have nothing := multiple 0
    rw [Int.cast_zero, zero_mul, zero, sub_self, abs_zero] at nothing
    rw [zero]
    exact nothing.trans (abs_nonneg _)
  · rcases multiple_or_small has x with ⟨whole, same⟩ | small
    · rw [same]
      exact multiple whole
    · -- the power of two that `x` has reached is as near as `y`, or nearer
      have reached := le_abs_of_ulp bits zero
      have further : |x| - 2 ^ bits * ulp bits x / 2 ≤ |y - x| := by
        have triangle := abs_sub_abs_le_abs_sub x y
        rw [abs_sub_comm] at triangle
        linarith
      have halved : (2 : ℚ) ^ bits * ulp bits x / 2 =
          2 ^ (bits - 1) * ulp bits x := by
        rw [← Nat.sub_add_cancel positive, pow_succ, Nat.add_sub_cancel]
        ring
      rw [halved] at reached further
      rcases abs_choice x with up | down
      · have distance : |2 ^ (bits - 1) * ulp bits x - x| =
            |x| - 2 ^ (bits - 1) * ulp bits x := by
          rw [abs_sub_comm, abs_of_nonneg (by linarith), up]
        have power := multiple (2 ^ (bits - 1))
        push_cast at power
        linarith
      · have distance : |-2 ^ (bits - 1) * ulp bits x - x| =
            |x| - 2 ^ (bits - 1) * ulp bits x := by
          rw [abs_of_nonneg (by linarith), down]
          ring
        have power := multiple (-2 ^ (bits - 1))
        push_cast at power
        linarith

/-- A number is kept exactly when it has so many bits. -/
theorem roundBits_eq_self_iff (positive : 0 < bits) :
    nearest.roundBits bits x = x ↔ HasBits bits x := by
  constructor
  · intro kept
    rw [← kept]
    exact nearest.roundBits_hasBits bits x
  · intro has
    have distance := nearest.roundBits_nearest positive has x
    rw [sub_self, abs_zero, abs_nonpos_iff, sub_eq_zero] at distance
    exact distance

end Nearest

namespace HasBits

variable {bits : ℕ} {x : ℚ}

theorem of_div (numerator : ℤ) (power : ℕ)
    (small : |numerator| ≤ 2 ^ bits) :
    HasBits bits ((numerator : ℚ) / 2 ^ power) := by
  refine ⟨numerator, -power, small, ?_⟩
  rw [zpow_neg, zpow_natCast, div_eq_mul_inv]

theorem of_int (whole : ℤ) (small : |whole| ≤ 2 ^ bits) :
    HasBits bits (whole : ℚ) := by
  refine ⟨whole, 0, small, ?_⟩
  rw [zpow_zero, mul_one]

theorem odd_dvd (has : HasBits bits x) {numerator odd : ℤ}
    (denominator : ℤ) (same : x * denominator = numerator) (isOdd : Odd odd)
    (factor : odd ∣ denominator) : odd ∣ numerator := by
  obtain ⟨significand, exponent, _small, value⟩ := has
  rw [value] at same
  rcases Int.le_total 0 exponent with up | down
  · obtain ⟨power, rfl⟩ := Int.eq_ofNat_of_zero_le up
    rw [zpow_natCast] at same
    have whole : significand * 2 ^ power * denominator = numerator := by
      exact_mod_cast same
    rw [← whole]
    exact Dvd.dvd.mul_left factor _
  · obtain ⟨power, negated⟩ := Int.eq_ofNat_of_zero_le (neg_nonneg.mpr down)
    have back : exponent = -(power : ℤ) := by omega
    rw [back, zpow_neg, zpow_natCast] at same
    have cleared : (significand : ℚ) * denominator = numerator * 2 ^ power := by
      rw [← same]
      field_simp
    have whole : significand * denominator = numerator * 2 ^ power := by
      exact_mod_cast cleared
    have divides : odd ∣ numerator * 2 ^ power := by
      rw [← whole]
      exact Dvd.dvd.mul_left factor _
    have coprime : IsCoprime odd (2 ^ power) :=
      IsCoprime.pow_right (Int.isCoprime_two_right.mpr isOdd)
    exact coprime.dvd_of_dvd_mul_right divides

end HasBits

end DpktNg.Library
