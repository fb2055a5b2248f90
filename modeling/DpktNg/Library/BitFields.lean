/-
Bit fields in a word.  The widths of the fields are listed from the highest
field down.  A field is overwritten by clearing its bits with a mask and
or-ing the new value in.  The word is then the same as the list of the values
of its fields, of which one has been replaced.
-/

import Mathlib

namespace DpktNg.Library.BitFields

/-- The value of `width` bits from position `shift` on. -/
def field (shift width word : Nat) : Nat := word / 2 ^ shift % 2 ^ width

def values : List Nat → Nat → List Nat
  | [], _ => []
  | width :: lower, word => field lower.sum width word :: values lower word

/-- Ones at the bits of a field. -/
def mask (shift width : Nat) : Nat := (2 ^ width - 1) <<< shift

/-- The word with one field overwritten. -/
def overwrite (total shift width value word : Nat) : Nat :=
  (value <<< shift) ||| (word &&& ((2 ^ total - 1) - mask shift width))

theorem field_lt (shift width word : Nat) :
    field shift width word < 2 ^ width :=
  Nat.mod_lt _ (Nat.two_pow_pos width)

theorem testBit_field (shift width word index : Nat) :
    (field shift width word).testBit index =
      (decide (index < width) && word.testBit (index + shift)) := by
  unfold field
  rw [Nat.testBit_mod_two_pow, Nat.testBit_div_two_pow]

theorem testBit_mask (shift width index : Nat) :
    (mask shift width).testBit index =
      decide (shift ≤ index ∧ index < shift + width) := by
  unfold mask
  rw [Nat.testBit_shiftLeft, Nat.testBit_two_pow_sub_one]
  by_cases below : shift ≤ index
  · simp only [below, decide_true, Bool.true_and, true_and, decide_eq_decide]
    omega
  · simp [below]

theorem mask_shiftRight (shift width word : Nat) :
    (word &&& mask shift width) >>> shift = field shift width word := by
  apply Nat.eq_of_testBit_eq
  intro index
  rw [testBit_field, Nat.testBit_shiftRight, Nat.testBit_and, testBit_mask,
    Nat.add_comm shift index]
  by_cases inside : index < width
  · simp [inside, Nat.add_comm]
  · have outside : ¬(shift ≤ index + shift ∧ index + shift < shift + width) := by
      omega
    rw [decide_eq_false outside, decide_eq_false inside, Bool.and_false,
      Bool.false_and]

theorem mask_lt {total shift width : Nat} (inside : shift + width ≤ total) :
    mask shift width < 2 ^ total := by
  apply Nat.lt_pow_two_of_testBit
  intro index above
  rw [testBit_mask]
  exact decide_eq_false (by omega)

theorem testBit_inverse {total shift width : Nat}
    (inside : shift + width ≤ total) (index : Nat) :
    ((2 ^ total - 1) - mask shift width).testBit index =
      (decide (index < total) &&
        !decide (shift ≤ index ∧ index < shift + width)) := by
  have below := mask_lt inside
  have same : (2 ^ total - 1) - mask shift width =
      2 ^ total - (mask shift width + 1) := by omega
  rw [same, Nat.testBit_two_pow_sub_succ below, testBit_mask]

/-- Within the field the bits are those of the value, elsewhere those of the
word. -/
theorem testBit_overwrite {total shift width value : Nat} (word : Nat)
    (inside : shift + width ≤ total) (fits : value < 2 ^ width) (index : Nat) :
    (overwrite total shift width value word).testBit index =
      if shift ≤ index ∧ index < shift + width then
        value.testBit (index - shift)
      else decide (index < total) && word.testBit index := by
  unfold overwrite
  rw [Nat.testBit_or, Nat.testBit_shiftLeft, Nat.testBit_and,
    testBit_inverse inside]
  by_cases within : shift ≤ index ∧ index < shift + width
  · rw [if_pos within]
    simp [within]
  · rw [if_neg within]
    by_cases above : shift ≤ index
    · have high : width ≤ index - shift := by omega
      have clear : value.testBit (index - shift) = false :=
        Nat.testBit_lt_two_pow
          (lt_of_lt_of_le fits (Nat.pow_le_pow_right (by omega) high))
      simp [within, clear, Bool.and_comm]
    · simp [above, Bool.and_comm]

theorem overwrite_lt {total shift width value : Nat} (word : Nat)
    (inside : shift + width ≤ total) (fits : value < 2 ^ width) :
    overwrite total shift width value word < 2 ^ total := by
  apply Nat.lt_pow_two_of_testBit
  intro index above
  rw [testBit_overwrite word inside fits, if_neg (by omega)]
  have outside : ¬index < total := by omega
  rw [decide_eq_false outside, Bool.false_and]

theorem field_overwrite_same {total shift width value : Nat} (word : Nat)
    (inside : shift + width ≤ total) (fits : value < 2 ^ width) :
    field shift width (overwrite total shift width value word) = value := by
  apply Nat.eq_of_testBit_eq
  intro index
  rw [testBit_field, testBit_overwrite word inside fits]
  by_cases within : index < width
  · rw [if_pos (by omega), decide_eq_true within, Bool.true_and,
      Nat.add_sub_cancel]
  · rw [decide_eq_false within, Bool.false_and]
    exact (Nat.testBit_lt_two_pow (lt_of_lt_of_le fits
      (Nat.pow_le_pow_right (by omega) (by omega)))).symm

theorem field_overwrite_other {total shift width value shift' width' : Nat}
    (word : Nat) (inside : shift + width ≤ total) (fits : value < 2 ^ width)
    (inside' : shift' + width' ≤ total)
    (apart : shift + width ≤ shift' ∨ shift' + width' ≤ shift) :
    field shift' width' (overwrite total shift width value word) =
      field shift' width' word := by
  apply Nat.eq_of_testBit_eq
  intro index
  rw [testBit_field, testBit_field, testBit_overwrite word inside fits]
  by_cases within : index < width'
  · rw [if_neg (by omega), decide_eq_true (by omega : index + shift' < total),
      Bool.true_and]
  · rw [decide_eq_false within, Bool.false_and, Bool.false_and]

theorem values_below {lower : List Nat} {total shift width value : Nat}
    (word : Nat) (inside : shift + width ≤ total) (fits : value < 2 ^ width)
    (below : lower.sum ≤ shift) :
    values lower (overwrite total shift width value word) =
      values lower word := by
  induction lower with
  | nil => rfl
  | cons width' rest ih =>
      rw [List.sum_cons] at below
      rw [values, values, ih (by omega),
        field_overwrite_other word inside fits (by omega) (Or.inr (by omega))]

theorem values_overwrite {upper lower : List Nat} {total width value : Nat}
    (word : Nat) (inside : (upper ++ width :: lower).sum ≤ total)
    (fits : value < 2 ^ width) :
    values (upper ++ width :: lower)
        (overwrite total lower.sum width value word) =
      (values (upper ++ width :: lower) word).set upper.length value := by
  induction upper with
  | nil =>
      rw [List.nil_append, List.sum_cons] at inside
      rw [List.nil_append, values, values,
        field_overwrite_same word (by omega) fits,
        values_below word (by omega) fits (Nat.le_refl _)]
      rfl
  | cons width' rest ih =>
      rw [List.cons_append, List.sum_cons] at inside
      have sums : (rest ++ width :: lower).sum =
          rest.sum + (width + lower.sum) := by
        rw [List.sum_append, List.sum_cons]
      rw [List.cons_append, values, values, ih (by omega),
        field_overwrite_other word (by omega) fits (by omega)
          (Or.inl (by omega))]
      rfl

end DpktNg.Library.BitFields
