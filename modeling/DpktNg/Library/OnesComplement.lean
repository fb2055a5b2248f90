/-
One's-complement sums of words that are at most `top`: a carry out of the top
comes back in at the bottom.  Such a sum is the plain sum modulo `top`, where
a sum that is not zero but divisible is written as `top` itself.
-/

import Mathlib

namespace DpktNg.Library.OnesComplement

section Sums

variable (top : Nat)

/-- Addition with the end-around carry. -/
def add (a b : Nat) : Nat := if a + b ≤ top then a + b else a + b - top

def sum (words : List Nat) : Nat := words.foldl (add top) 0

/-- The word that stands for a plain sum. -/
def word (total : Nat) : Nat :=
  if total = 0 then 0 else (total - 1) % top + 1

/-- One round of moving everything above the top back to the bottom. -/
def carry (total : Nat) : Nat := total / (top + 1) + total % (top + 1)

end Sums

variable {top : Nat}

theorem word_le (positive : 0 < top) (total : Nat) : word top total ≤ top := by
  unfold word
  have small := Nat.mod_lt (total - 1) positive
  split <;> omega

theorem word_eq_zero {total : Nat} : word top total = 0 ↔ total = 0 := by
  unfold word
  split <;> omega

theorem word_modEq (total : Nat) : word top total ≡ total [MOD top] := by
  unfold word
  split
  · rename_i zero
    rw [zero]
  · rename_i nonzero
    have shifted : (total - 1) % top + 1 ≡ total - 1 + 1 [MOD top] :=
      (Nat.mod_modEq _ _).add_right 1
    have same : total - 1 + 1 = total := by omega
    rw [same] at shifted
    exact shifted

/-- Of two words that are congruent one is the other, unless one is zero and
the other one the top. -/
theorem word_unique {w total : Nat} (bounded : w ≤ top)
    (congruent : w ≡ total [MOD top]) (zero : w = 0 ↔ total = 0) :
    w = word top total := by
  unfold word
  split
  · rename_i nothing
    exact zero.mpr nothing
  · rename_i nonzero
    have positive : w ≠ 0 := fun empty => nonzero (zero.mp empty)
    have shifted : w - 1 ≡ total - 1 [MOD top] := by
      apply Nat.ModEq.add_right_cancel' 1
      have left : w - 1 + 1 = w := by omega
      have right : total - 1 + 1 = total := by omega
      rw [left, right]
      exact congruent
    have small : (w - 1) % top = w - 1 := Nat.mod_eq_of_lt (by omega)
    rw [← shifted, small]
    omega

theorem word_eq_top_iff (positive : 0 < top) {total : Nat} :
    word top total = top ↔ total ≠ 0 ∧ top ∣ total := by
  constructor
  · intro full
    have congruent : word top total ≡ total [MOD top] := word_modEq total
    rw [full] at congruent
    refine ⟨?_, ?_⟩
    · intro zero
      rw [word_eq_zero.mpr zero] at full
      omega
    · exact (congruent.dvd_iff (Nat.dvd_refl top)).mp (Nat.dvd_refl top)
  · intro divisible
    obtain ⟨nonzero, divides⟩ := divisible
    symm
    apply word_unique (Nat.le_refl top)
    · exact ((Nat.modEq_zero_iff_dvd.mpr (Nat.dvd_refl top)).trans
        (Nat.modEq_zero_iff_dvd.mpr divides).symm)
    · omega

theorem add_word (positive : 0 < top) {total w : Nat} (bounded : w ≤ top) :
    add top (word top total) w = word top (total + w) := by
  have small := word_le positive total
  have congruent : word top total + w ≡ total + w [MOD top] :=
    (word_modEq total).add_right w
  have zero : word top total = 0 ↔ total = 0 := word_eq_zero
  unfold add
  split
  · exact word_unique (by omega) congruent (by omega)
  · apply word_unique (by omega)
    · have lowered : word top total + w - top ≡ word top total + w
          [MOD top] := by
        have whole : word top total + w - top + top = word top total + w := by
          omega
        have step := (Nat.add_modEq_right
          (a := word top total + w - top) (n := top)).symm
        rw [whole] at step
        exact step
      exact lowered.trans congruent
    · omega

theorem sum_eq_word (positive : 0 < top) {words : List Nat}
    (bounded : ∀ w ∈ words, w ≤ top) : sum top words = word top words.sum := by
  induction words using List.reverseRecOn with
  | nil => rfl
  | append_singleton before w ih =>
      have earlier := ih fun other member =>
        bounded other (List.mem_append_left [w] member)
      have last := bounded w (by simp)
      unfold sum at earlier ⊢
      rw [List.foldl_append, earlier, List.sum_append, List.sum_singleton]
      exact add_word positive last

theorem sum_eq_top_iff (positive : 0 < top) {words : List Nat}
    (bounded : ∀ w ∈ words, w ≤ top) :
    sum top words = top ↔ words.sum ≠ 0 ∧ top ∣ words.sum := by
  rw [sum_eq_word positive bounded, word_eq_top_iff positive]

theorem carry_modEq (total : Nat) : carry top total ≡ total [MOD top] := by
  unfold carry
  have split := Nat.div_add_mod total (top + 1)
  have expanded : total = top * (total / (top + 1)) +
      (total / (top + 1) + total % (top + 1)) := by
    rw [Nat.add_mul, Nat.one_mul] at split
    omega
  have multiple : top * (total / (top + 1)) +
      (total / (top + 1) + total % (top + 1)) ≡
      0 + (total / (top + 1) + total % (top + 1)) [MOD top] :=
    (Nat.modEq_zero_iff_dvd.mpr (Nat.dvd_mul_right _ _)).add_right _
  rw [← expanded, Nat.zero_add] at multiple
  exact multiple.symm

theorem carry_eq_zero {total : Nat} : carry top total = 0 ↔ total = 0 := by
  unfold carry
  constructor
  · intro nothing
    obtain ⟨high, low⟩ := Nat.add_eq_zero_iff.mp nothing
    have split := Nat.div_add_mod total (top + 1)
    rw [high, low, Nat.mul_zero] at split
    exact split.symm
  · intro nothing
    rw [nothing, Nat.zero_div, Nat.zero_mod]

/-- Two rounds fold every sum below the square of the radix; the second one may
keep its carry where it is, since only the low part is used. -/
theorem carry_twice (positive : 0 < top) {total : Nat}
    (small : total < (top + 1) * (top + 1)) :
    (carry top total + carry top total / (top + 1)) % (top + 1) =
      word top total := by
  have high : total / (top + 1) ≤ top :=
    Nat.le_of_lt_succ (Nat.div_lt_of_lt_mul small)
  have low : total % (top + 1) ≤ top :=
    Nat.le_of_lt_succ (Nat.mod_lt total (Nat.succ_pos top))
  have congruent : carry top total ≡ total [MOD top] := carry_modEq total
  have zero : carry top total = 0 ↔ total = 0 := carry_eq_zero
  have bounded : carry top total ≤ top + top := Nat.add_le_add high low
  generalize carry top total = once at congruent zero bounded ⊢
  by_cases fits : once ≤ top
  · have noCarry : once / (top + 1) = 0 := Nat.div_eq_of_lt (by omega)
    rw [noCarry, Nat.add_zero, Nat.mod_eq_of_lt (by omega)]
    exact word_unique fits congruent zero
  · have oneCarry : once / (top + 1) = 1 :=
      Nat.div_eq_of_lt_le (by omega) (by omega)
    have reduced : (once + 1) % (top + 1) = once - top := by
      have whole : once + 1 = once - top + (top + 1) := by omega
      rw [whole, Nat.add_mod_right, Nat.mod_eq_of_lt (by omega)]
    rw [oneCarry, reduced]
    apply word_unique (by omega)
    · have step := (Nat.add_modEq_right (a := once - top) (n := top)).symm
      have whole : once - top + top = once := by omega
      rw [whole] at step
      exact step.trans congruent
    · omega

/-- A word with its two digits exchanged. -/
def swap (radix w : Nat) : Nat := w % radix * radix + w / radix

/-- Where the radix squared is one more than the top, exchanging the digits is
multiplication by the radix. -/
theorem swap_modEq {radix : Nat} (square : radix * radix = top + 1) (w : Nat) :
    swap radix w ≡ radix * w [MOD top] := by
  unfold swap
  have split := Nat.div_add_mod w radix
  have expanded : radix * w =
      top * (w / radix) + (w % radix * radix + w / radix) := by
    calc radix * w = radix * (radix * (w / radix) + w % radix) := by
            rw [split]
      _ = radix * radix * (w / radix) + w % radix * radix := by ring
      _ = top * (w / radix) + (w % radix * radix + w / radix) := by
            rw [square]
            ring
  rw [expanded]
  have multiple : top * (w / radix) + (w % radix * radix + w / radix) ≡
      0 + (w % radix * radix + w / radix) [MOD top] :=
    (Nat.modEq_zero_iff_dvd.mpr (Nat.dvd_mul_right _ _)).add_right _
  rw [Nat.zero_add] at multiple
  exact multiple.symm

theorem swap_le {radix : Nat} (square : radix * radix = top + 1) {w : Nat}
    (bounded : w ≤ top) : swap radix w ≤ top := by
  have positive : 0 < radix := by
    rcases Nat.eq_zero_or_pos radix with zero | positive
    · rw [zero] at square
      omega
    · exact positive
  have high : w / radix + 1 ≤ radix := Nat.div_lt_of_lt_mul (by omega)
  have low : w % radix + 1 ≤ radix := Nat.mod_lt w positive
  have product : (w % radix + 1) * radix ≤ radix * radix :=
    Nat.mul_le_mul_right radix low
  rw [Nat.add_mul, Nat.one_mul, square] at product
  unfold swap
  generalize w % radix * radix = raised at product ⊢
  generalize w / radix = digit at high ⊢
  omega

theorem swap_eq_zero {radix : Nat} (positive : 0 < radix) {w : Nat} :
    swap radix w = 0 ↔ w = 0 := by
  unfold swap
  constructor
  · intro nothing
    obtain ⟨product, high⟩ := Nat.add_eq_zero_iff.mp nothing
    have low : w % radix = 0 :=
      (Nat.mul_eq_zero.mp product).resolve_right (by omega)
    have split := Nat.div_add_mod w radix
    rw [high, low, Nat.mul_zero] at split
    exact split.symm
  · intro nothing
    rw [nothing, Nat.zero_mod, Nat.zero_div, Nat.zero_mul]

/-- A checksum computed from words read in the other digit order fills the sum
up to the top. -/
theorem checksum_completes (positive : 0 < top) {radix : Nat}
    (square : radix * radix = top + 1) {total reversed : Nat}
    (congruent : radix * reversed ≡ total [MOD top])
    (zero : total = 0 ↔ reversed = 0) :
    let checksum := swap radix (top - word top reversed)
    total + checksum ≠ 0 ∧ top ∣ total + checksum := by
  have radixPositive : 0 < radix := by
    rcases Nat.eq_zero_or_pos radix with nothing | something
    · rw [nothing] at square
      omega
    · exact something
  have bounded := word_le positive reversed
  refine ⟨?_, ?_⟩
  · intro nothing
    have both : total = 0 ∧ swap radix (top - word top reversed) = 0 :=
      Nat.add_eq_zero_iff.mp nothing
    have full := (swap_eq_zero radixPositive).mp both.2
    have empty : word top reversed = 0 := word_eq_zero.mpr (zero.mp both.1)
    omega
  · have swapped := swap_modEq square (top - word top reversed)
    have folded : radix * word top reversed ≡ total [MOD top] :=
      ((word_modEq reversed).mul_left radix).trans congruent
    have filled : total + swap radix (top - word top reversed) ≡
        radix * word top reversed + radix * (top - word top reversed)
          [MOD top] := folded.symm.add swapped
    rw [← Nat.mul_add, Nat.add_sub_cancel' bounded] at filled
    exact (Nat.modEq_zero_iff_dvd.mp (filled.trans
      (Nat.modEq_zero_iff_dvd.mpr (Nat.dvd_mul_left top radix))))

end DpktNg.Library.OnesComplement
