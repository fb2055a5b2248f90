/-
Numbers with a fraction.  A timestamp is the exact rational that it stands
for, and the arithmetic on it is that of `fractions.Fraction`; a float is the
rational that it stands for as well, and each operation on floats rounds.
-/

import DpktNg.Library.FloatingPoint

namespace DpktNg

open Library

/-- `int(number)`, which cuts towards zero. -/
def truncate (number : ℚ) : Int := number.num.tdiv number.den

def modOne (number : ℚ) : ℚ := number - ⌊number⌋

/-- `round(number)`, which takes the even neighbour of two that are equally
near. -/
def intround (number : ℚ) : Int :=
  if modOne number < 1 / 2 then ⌊number⌋
  else if 1 / 2 < modOne number then ⌊number⌋ + 1
  else if ⌊number⌋ % 2 = 0 then ⌊number⌋ else ⌊number⌋ + 1

theorem truncate_of_nonneg {number : ℚ} (nonneg : 0 ≤ number) :
    truncate number = ⌊number⌋ := by
  unfold truncate
  rw [Int.tdiv_eq_ediv_of_nonneg (Rat.num_nonneg.mpr nonneg),
    Rat.floor_def']

@[simp] theorem modOne_intCast (number : Int) : modOne (number : ℚ) = 0 := by
  unfold modOne
  rw [Int.floor_intCast, sub_self]

@[simp] theorem intround_intCast (number : Int) :
    intround (number : ℚ) = number := by
  unfold intround
  rw [modOne_intCast, if_pos (by norm_num), Int.floor_intCast]

example : intround (5 / 2) = 2 := by decide +kernel

theorem floor_ticks {ticks : Nat} {perSecond : Nat} :
    ⌊(ticks : ℚ) / perSecond⌋ = ((ticks / perSecond : Nat) : Int) := by
  rw [Rat.floor_natCast_div_natCast, Int.natCast_div]

/-- The fraction of a second, in ticks. -/
theorem modOne_ticks {ticks : Nat} {perSecond : Nat}
    (positive : 0 < perSecond) :
    modOne ((ticks : ℚ) / perSecond) * perSecond =
      ((ticks % perSecond : Nat) : ℚ) := by
  have nonzero : (perSecond : ℚ) ≠ 0 := by positivity
  have split : (ticks : ℚ) =
      perSecond * (ticks / perSecond : Nat) + (ticks % perSecond : Nat) := by
    exact_mod_cast (Nat.div_add_mod ticks perSecond).symm
  unfold modOne
  rw [floor_ticks, sub_mul, div_mul_cancel₀ _ nonzero, Int.cast_natCast]
  linarith

theorem seconds_add_ticks {ticks : Nat} {perSecond : Nat}
    (positive : 0 < perSecond) :
    ((ticks / perSecond : Nat) : ℚ) + ((ticks % perSecond : Nat) : ℚ) /
      perSecond = ticks / perSecond := by
  have nonzero : (perSecond : ℚ) ≠ 0 := by positivity
  have split : (ticks : ℚ) =
      perSecond * (ticks / perSecond : Nat) + (ticks % perSecond : Nat) := by
    exact_mod_cast (Nat.div_add_mod ticks perSecond).symm
  rw [eq_div_iff nonzero, add_mul, div_mul_cancel₀ _ nonzero]
  linarith

theorem modOne_nonneg (number : ℚ) : 0 ≤ modOne number :=
  Int.fract_nonneg number

theorem modOne_lt_one (number : ℚ) : modOne number < 1 :=
  Int.fract_lt_one number

theorem floor_add_modOne (number : ℚ) : ⌊number⌋ + modOne number = number := by
  unfold modOne
  ring

/-- Rounding goes to one of the two whole numbers next to it. -/
theorem intround_eq_or (number : ℚ) :
    intround number = ⌊number⌋ ∨ intround number = ⌊number⌋ + 1 := by
  unfold intround
  split
  · exact Or.inl rfl
  · split
    · exact Or.inr rfl
    · split
      · exact Or.inl rfl
      · exact Or.inr rfl

theorem intround_nonneg {number : ℚ} (nonneg : 0 ≤ number) :
    0 ≤ intround number := by
  have floor := Int.floor_nonneg.mpr nonneg
  rcases intround_eq_or number with same | next <;> omega

theorem intround_le {number : ℚ} {bound : Int} (below : number < bound) :
    intround number ≤ bound := by
  have floor := Int.floor_lt.mpr below
  rcases intround_eq_or number with same | next <;> omega

/-- An even number is added before rounding or after it: which neighbour of a
half is even stays the same. -/
theorem intround_add {shift : Int} (even : shift % 2 = 0) (number : ℚ) :
    intround (shift + number) = shift + intround number := by
  have floor : ⌊(shift : ℚ) + number⌋ = shift + ⌊number⌋ :=
    Int.floor_intCast_add shift number
  have fraction : modOne ((shift : ℚ) + number) = modOne number := by
    unfold modOne
    rw [floor]
    push_cast
    ring
  have parity : (shift + ⌊number⌋) % 2 = 0 ↔ ⌊number⌋ % 2 = 0 := by omega
  unfold intround
  rw [fraction, floor]
  split
  · rfl
  · split
    · exact Int.add_assoc _ _ _
    · by_cases half : ⌊number⌋ % 2 = 0
      · rw [if_pos half, if_pos (parity.mpr half)]
      · rw [if_neg half, if_neg (fun both => half (parity.mp both)),
          Int.add_assoc]

theorem intround_lt_iff {number : ℚ} {bound : Int} (even : bound % 2 = 0) :
    intround number < bound ↔ number < bound - 1 / 2 := by
  have whole := floor_add_modOne number
  have low := modOne_nonneg number
  have high := modOne_lt_one number
  unfold intround
  split
  · rename_i down
    constructor
    · intro less
      have floor : (⌊number⌋ : ℚ) + 1 ≤ bound := by exact_mod_cast less
      linarith
    · intro less
      have floor : (⌊number⌋ : ℚ) < bound := by linarith
      exact_mod_cast floor
  · rename_i notDown
    split
    · rename_i up
      constructor
      · intro less
        have floor : (⌊number⌋ : ℚ) + 1 + 1 ≤ bound := by exact_mod_cast less
        linarith
      · intro less
        have floor : (⌊number⌋ : ℚ) + 1 < bound := by linarith
        exact_mod_cast floor
    · rename_i notUp
      have half : modOne number = 1 / 2 := by linarith
      have beside : number < bound - 1 / 2 ↔ ⌊number⌋ + 1 < bound := by
        constructor
        · intro less
          have floor : (⌊number⌋ : ℚ) + 1 < bound := by linarith
          exact_mod_cast floor
        · intro less
          have floor : (⌊number⌋ : ℚ) + 1 < bound := by exact_mod_cast less
          linarith
      rw [beside]
      split
      · omega
      · exact Iff.rfl

/-- The whole seconds and the rounded fraction together are the rounded
number of ticks, if there is an even number of them in a second. -/
theorem seconds_add_rounded {perSecond : Nat} (even : perSecond % 2 = 0)
    (ts : ℚ) :
    ⌊ts⌋ * perSecond + intround (modOne ts * perSecond) =
      intround (ts * perSecond) := by
  have evenSeconds : (⌊ts⌋ * (perSecond : Int)) % 2 = 0 := by
    have evenTicks : (perSecond : Int) % 2 = 0 := by omega
    rw [Int.mul_emod, evenTicks, mul_zero]
    rfl
  have split : ts * perSecond =
      ((⌊ts⌋ * (perSecond : Int) : Int) : ℚ) + modOne ts * perSecond := by
    push_cast
    rw [← add_mul, floor_add_modOne]
  rw [split, intround_add evenSeconds]

theorem intround_near (number : ℚ) :
    |(intround number : ℚ) - number| ≤ 1 / 2 := by
  have whole := floor_add_modOne number
  have low := modOne_nonneg number
  have high := modOne_lt_one number
  have down : modOne number ≤ 1 / 2 → |(⌊number⌋ : ℚ) - number| ≤ 1 / 2 := by
    intro small
    rw [abs_sub_comm, abs_of_nonneg (by linarith)]
    linarith
  have up : 1 / 2 ≤ modOne number →
      |((⌊number⌋ + 1 : Int) : ℚ) - number| ≤ 1 / 2 := by
    intro large
    push_cast
    rw [abs_of_nonneg (by linarith)]
    linarith
  unfold intround
  split
  · exact down (by linarith)
  · split
    · exact up (by linarith)
    · split
      · exact down (by linarith)
      · exact up (by linarith)

/-- Ties go to the even neighbour. -/
def evenTies : Nearest where
  round := intround
  near := intround_near

/-- The float nearest to a number that is within the range of floats. -/
def double (number : ℚ) : ℚ := evenTies.roundBits 53 number

def IsDouble (number : ℚ) : Prop := HasBits 53 number

example : double (1 / 10) = 3602879701896397 / 2 ^ 55 := by decide +kernel

theorem double_isDouble (number : ℚ) : IsDouble (double number) :=
  evenTies.roundBits_hasBits 53 number

theorem double_eq_self_iff {number : ℚ} :
    double number = number ↔ IsDouble number :=
  evenTies.roundBits_eq_self_iff (by decide)

theorem double_natCast {number : Nat} (small : number ≤ 2 ^ 53) :
    double (number : ℚ) = number := by
  apply double_eq_self_iff.mpr
  have has : IsDouble ((number : Int) : ℚ) := by
    apply HasBits.of_int
    rw [abs_of_nonneg (Int.natCast_nonneg number)]
    exact_mod_cast small
  exact_mod_cast has

/-- `seconds + microseconds / 1000000.0` -/
def floatSeconds (seconds microseconds : Nat) : ℚ :=
  double (double seconds + double (double microseconds / 1000000))

section Microseconds

variable {ticks : Nat}

theorem micros_joined :
    ((ticks / 1000000 : Nat) : ℚ) + (ticks % 1000000 : Nat) / 1000000 =
      ticks / 1000000 := by
  have joined := @seconds_add_ticks ticks 1000000 (by decide)
  exact_mod_cast joined

theorem floatSeconds_eq (early : ticks / 1000000 < 2 ^ 32) :
    floatSeconds (ticks / 1000000) (ticks % 1000000) =
      double ((ticks / 1000000 : Nat) +
        double ((ticks % 1000000 : Nat) / 1000000)) := by
  unfold floatSeconds
  rw [double_natCast (by omega), double_natCast (by omega)]

/-- A fraction of a second, as a float, and the seconds added to it. -/
theorem double_add_near (seconds fraction : ℚ) (early : seconds ≤ 2 ^ 32 - 1)
    (late : 0 ≤ seconds) (low : 0 ≤ fraction) (high : fraction ≤ 999999 / 10 ^ 6) :
    |double (seconds + double fraction) - (seconds + fraction)| <
      1 / 2000000 := by
  have inner : |double fraction - fraction| ≤ 2 ^ (-54 : ℤ) := by
    apply evenTies.roundBits_near 0
    rw [abs_of_nonneg low]
    linarith
  have bounds := abs_le.mp inner
  have outer : |double (seconds + double fraction) -
      (seconds + double fraction)| ≤ 2 ^ (-22 : ℤ) := by
    apply evenTies.roundBits_near 32
    norm_num at bounds ⊢
    rw [abs_lt]
    constructor <;> linarith
  have triangle := abs_sub_le (double (seconds + double fraction))
    (seconds + double fraction) (seconds + fraction)
  rw [add_sub_add_left_eq_sub] at triangle
  calc
    _ ≤ (2 : ℚ) ^ (-22 : ℤ) + 2 ^ (-54 : ℤ) := by linarith
    _ < 1 / 2000000 := by norm_num

/-- Half a microsecond is not reached, so the tick count can be told. -/
theorem floatSeconds_near (early : ticks / 1000000 < 2 ^ 32) :
    |floatSeconds (ticks / 1000000) (ticks % 1000000) - ticks / 1000000| <
      1 / 2000000 := by
  have seconds : ((ticks / 1000000 : Nat) : ℚ) + 1 ≤ 2 ^ 32 := by
    exact_mod_cast early
  have fraction : ((ticks % 1000000 : Nat) : ℚ) ≤ 999999 := by
    have atMost : ticks % 1000000 ≤ 999999 := by omega
    exact_mod_cast atMost
  have near := double_add_near (ticks / 1000000 : Nat)
    ((ticks % 1000000 : Nat) / 1000000)
    (by linarith) (by positivity) (by positivity) (by linarith)
  rw [floatSeconds_eq early, ← @micros_joined ticks]
  exact near

/-- Only whole multiples of 1/64 s are floats. -/
theorem floatSeconds_eq_iff (early : ticks / 1000000 < 2 ^ 32) :
    floatSeconds (ticks / 1000000) (ticks % 1000000) = (ticks : ℚ) / 1000000 ↔
      15625 ∣ ticks := by
  rw [floatSeconds_eq early]
  constructor
  · intro kept
    have has := double_isDouble ((ticks / 1000000 : Nat) +
      double ((ticks % 1000000 : Nat) / 1000000))
    rw [kept] at has
    have divides : (15625 : Int) ∣ (ticks : Int) := by
      refine has.odd_dvd 1000000 ?_ (by decide) (by decide)
      push_cast
      exact div_mul_cancel₀ _ (by norm_num)
    exact_mod_cast divides
  · rintro ⟨count, same⟩
    obtain ⟨part, partSame⟩ : ∃ part, ticks % 1000000 = 15625 * part :=
      ⟨ticks % 1000000 / 15625, by omega⟩
    have fraction : ((ticks % 1000000 : Nat) : ℚ) / 1000000 =
        (part : Int) / 2 ^ 6 := by
      rw [partSame]
      push_cast
      ring
    have sum : (ticks : ℚ) / 1000000 = (count : Int) / 2 ^ 6 := by
      rw [same]
      push_cast
      ring
    have inner : IsDouble ((part : Int) / 2 ^ 6) := by
      apply HasBits.of_div
      rw [abs_of_nonneg (Int.natCast_nonneg part)]
      omega
    have outer : IsDouble ((count : Int) / 2 ^ 6) := by
      apply HasBits.of_div
      rw [abs_of_nonneg (Int.natCast_nonneg count)]
      omega
    rw [fraction, double_eq_self_iff.mpr inner, ← fraction, micros_joined, sum]
    exact double_eq_self_iff.mpr outer

end Microseconds

end DpktNg
