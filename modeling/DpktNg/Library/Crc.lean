/-
Remainders modulo a polynomial over two elements, lowest bit first.  A step is
linear in exclusive or, so that several steps at once can be read from a table
of what they make of the low bits.
-/

import Mathlib.Data.Nat.Bitwise

namespace DpktNg.Library.Crc

variable {poly : Nat}

/-- One bit leaves at the low end; a one takes the polynomial with it. -/
def step (poly word : Nat) : Nat :=
  if word % 2 = 1 then word / 2 ^^^ poly else word / 2

def steps (poly : Nat) : Nat → Nat → Nat
  | 0, word => word
  | count + 1, word => steps poly count (step poly word)

/-- What eight steps make of a word after a byte was added to it. -/
def addByte (poly word byte : Nat) : Nat := steps poly 8 (word ^^^ byte)

theorem step_xor (first second : Nat) :
    step poly (first ^^^ second) = step poly first ^^^ step poly second := by
  unfold step
  rw [Nat.xor_div_two]
  by_cases odd : first % 2 = 1
  · by_cases oddToo : second % 2 = 1
    · have even : ¬(first ^^^ second) % 2 = 1 := by
        rw [Nat.xor_mod_two_eq_one]
        exact fun differ => differ ⟨fun _odd => oddToo, fun _odd => odd⟩
      rw [if_neg even, if_pos odd, if_pos oddToo, Nat.xor_assoc,
        Nat.xor_comm (second / 2), ← Nat.xor_assoc poly, Nat.xor_self,
        Nat.zero_xor]
    · have one : (first ^^^ second) % 2 = 1 := by
        rw [Nat.xor_mod_two_eq_one]
        exact fun same => oddToo (same.mp odd)
      rw [if_pos one, if_pos odd, if_neg oddToo, Nat.xor_assoc,
        Nat.xor_comm (second / 2), Nat.xor_assoc]
  · by_cases oddToo : second % 2 = 1
    · have one : (first ^^^ second) % 2 = 1 := by
        rw [Nat.xor_mod_two_eq_one]
        exact fun same => odd (same.mpr oddToo)
      rw [if_pos one, if_neg odd, if_pos oddToo, Nat.xor_assoc]
    · have even : ¬(first ^^^ second) % 2 = 1 := by
        rw [Nat.xor_mod_two_eq_one]
        exact fun differ => differ
          ⟨fun wrong => absurd wrong odd, fun wrong => absurd wrong oddToo⟩
      rw [if_neg even, if_neg odd, if_neg oddToo]

theorem steps_xor (count first second : Nat) :
    steps poly count (first ^^^ second) =
      steps poly count first ^^^ steps poly count second := by
  induction count generalizing first second with
  | zero => rfl
  | succ count ih => rw [steps, step_xor, ih, steps, steps]

/-- Zeros at the low end leave without a trace. -/
theorem steps_shifted (count word : Nat) :
    steps poly count (word * 2 ^ count) = word := by
  induction count with
  | zero => rw [steps, pow_zero, Nat.mul_one]
  | succ count ih =>
      have even : ¬word * 2 ^ (count + 1) % 2 = 1 := by
        rw [pow_succ, ← Nat.mul_assoc, Nat.mul_mod_left]
        exact Nat.zero_ne_one
      have half : word * 2 ^ (count + 1) / 2 = word * 2 ^ count := by
        rw [pow_succ, ← Nat.mul_assoc, Nat.mul_div_cancel _ Nat.two_pos]
      rw [steps, step, if_neg even, half, ih]

theorem high_xor_low (count word : Nat) :
    word / 2 ^ count * 2 ^ count ^^^ word % 2 ^ count = word := by
  apply Nat.eq_of_testBit_eq
  intro index
  rw [Nat.testBit_xor, Nat.testBit_mul_two_pow, Nat.testBit_div_two_pow,
    Nat.testBit_mod_two_pow]
  by_cases high : count ≤ index
  · have notLow : ¬index < count := Nat.not_lt.mpr high
    rw [Nat.sub_add_cancel high, decide_eq_true high, decide_eq_false notLow,
      Bool.true_and, Bool.false_and, Bool.xor_false]
  · have low : index < count := Nat.lt_of_not_le high
    rw [decide_eq_false high, decide_eq_true low, Bool.false_and,
      Bool.true_and, Bool.false_xor]

/-- Steps move the high bits down, and the rest comes from the low bits. -/
theorem steps_eq (count word : Nat) :
    steps poly count word =
      word / 2 ^ count ^^^ steps poly count (word % 2 ^ count) := by
  calc steps poly count word
      = steps poly count
          (word / 2 ^ count * 2 ^ count ^^^ word % 2 ^ count) := by
        rw [high_xor_low]
    _ = _ := by rw [steps_xor, steps_shifted]

/-- A table of what eight steps make of every byte does for any word. -/
theorem addByte_table {entry : Nat → Nat}
    (table : ∀ low < 256, entry low = steps poly 8 low) {word byte : Nat}
    (small : byte < 256) :
    addByte poly word byte = word / 256 ^^^ entry ((word ^^^ byte) % 256) := by
  have gone : byte / 2 ^ 8 = 0 := Nat.div_eq_of_lt small
  unfold addByte
  rw [steps_eq, Nat.xor_div_two_pow, gone, Nat.xor_zero,
    table _ (Nat.mod_lt _ (by decide))]
  rfl

theorem step_lt {width word : Nat} (polyFits : poly < 2 ^ width)
    (fits : word < 2 ^ width) : step poly word < 2 ^ width := by
  unfold step
  split
  · exact Nat.xor_lt_two_pow (by omega) polyFits
  · omega

theorem steps_lt {width word : Nat} (polyFits : poly < 2 ^ width)
    (count : Nat) (fits : word < 2 ^ width) :
    steps poly count word < 2 ^ width := by
  induction count generalizing word with
  | zero => exact fits
  | succ count ih => exact ih (step_lt polyFits fits)

theorem addByte_lt {width word byte : Nat} (polyFits : poly < 2 ^ width)
    (fits : word < 2 ^ width) (small : byte < 2 ^ width) :
    addByte poly word byte < 2 ^ width :=
  steps_lt polyFits 8 (Nat.xor_lt_two_pow fits small)

end DpktNg.Library.Crc
