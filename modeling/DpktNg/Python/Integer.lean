/-
`int(text, base)` on ASCII text, and on byte strings, which it reads as text.
-/

import DpktNg.Python.Error

namespace DpktNg

/-- The white space that `int` skips on either side. -/
def isIntSpace (c : Char) : Bool :=
  c ∈ [' ', '\t', '\n', '\x0b', '\x0c', '\r']

def digitValue (c : Char) : Option Nat :=
  if '0' ≤ c ∧ c ≤ '9' then some (c.toNat - '0'.toNat)
  else if 'a' ≤ c ∧ c ≤ 'z' then some (c.toNat - 'a'.toNat + 10)
  else if 'A' ≤ c ∧ c ≤ 'Z' then some (c.toNat - 'A'.toNat + 10)
  else none

def isDigitOf (base : Nat) (c : Char) : Bool :=
  match digitValue c with
  | none => false
  | some value => value < base

def digitsValue (base : Nat) (digits : PyStr) : Nat :=
  digits.foldl (fun value c => value * base + (digitValue c).getD 0) 0

/-- `0x` in front of the digits of base 16, which an underscore may follow. -/
def withoutRadix (base : Nat) : PyStr → PyStr
  | '0' :: x :: rest =>
      if base = 16 ∧ (x = 'x' ∨ x = 'X') then
        match rest with
        | '_' :: digits => digits
        | digits => digits
      else '0' :: x :: rest
  | text => text

/-- The digits of an integer literal, where single underscores may stand between
two digits. -/
def parseDigits (base : Nat) (text : PyStr) : Option Nat :=
  let run := text.takeWhile fun c => isDigitOf base c || c = '_'
  let behind := text.drop run.length
  if (run.splitOn '_').all (· ≠ []) ∧ behind.all isIntSpace then
    some (digitsValue base (run.filter (· ≠ '_')))
  else none

/-- `int(text, base)`, `none` where it raises. -/
def parseInt (base : Nat) (text : PyStr) : Option Int :=
  match text.dropWhile isIntSpace with
  | '+' :: rest => (parseDigits base (withoutRadix base rest)).map Int.ofNat
  | '-' :: rest =>
      (parseDigits base (withoutRadix base rest)).map fun value => -(value : Int)
  | rest => (parseDigits base (withoutRadix base rest)).map Int.ofNat

/-- Digits and underscores behind white space and a sign. -/
def literalRun (text : PyStr) : PyStr :=
  let unsigned :=
    match text.dropWhile isIntSpace with
    | '+' :: rest => rest
    | '-' :: rest => rest
    | rest => rest
  unsigned.takeWhile fun c => isDigitOf 10 c || c = '_'

def literalDigits (text : PyStr) : Nat :=
  ((literalRun text).filter (· ≠ '_')).length

/-- A literal of base 10 with more digits, leading zeros among them, than the
interpreter converts unless it is told otherwise. -/
def TooManyDigits (text : PyStr) : Prop :=
  ((literalRun text).splitOn '_').all (· ≠ []) ∧ 4300 < literalDigits text

instance : DecidablePred TooManyDigits := fun text =>
  inferInstanceAs (Decidable
    (((literalRun text).splitOn '_').all (· ≠ []) ∧
      4300 < literalDigits text))

def intOfBytes (bytes : Bytes) : Except PyError Int :=
  match parseInt 10 (decodeLatin1 bytes) with
  | some value => .ok value
  | none => .error (.other "ValueError"
      ("invalid literal for int() with base 10: ".toList ++ reprBytes bytes))

theorem digitsValue_snoc (base : Nat) (digits : PyStr) (c : Char) :
    digitsValue base (digits ++ [c]) =
      digitsValue base digits * base + (digitValue c).getD 0 := by
  unfold digitsValue
  rw [List.foldl_append]
  rfl

theorem digitValue_lt {base : Nat} {c : Char} (digit : isDigitOf base c) :
    (digitValue c).getD 0 < base := by
  unfold isDigitOf at digit
  cases value : digitValue c with
  | none =>
      rw [value] at digit
      cases digit
  | some value' =>
      rw [value] at digit
      exact of_decide_eq_true digit

theorem digitsValue_lt {base : Nat} {digits : PyStr}
    (all : ∀ c ∈ digits, isDigitOf base c) :
    digitsValue base digits < base ^ digits.length := by
  induction digits using List.reverseRecOn with
  | nil => exact Nat.one_pos
  | append_singleton digits c ih =>
      have front := ih fun c member => all c (List.mem_append_left _ member)
      have last := digitValue_lt
        (all c (List.mem_append_right _ (List.mem_singleton.mpr rfl)))
      rw [digitsValue_snoc, List.length_append, List.length_singleton, pow_succ]
      calc
        digitsValue base digits * base + (digitValue c).getD 0
            < digitsValue base digits * base + base := by omega
        _ = (digitsValue base digits + 1) * base := by ring
        _ ≤ base ^ digits.length * base := Nat.mul_le_mul_right base front

theorem parseDigits_lt {base value : Nat} {text : PyStr} (positive : 0 < base)
    (parsed : parseDigits base text = some value) :
    value < base ^ text.length := by
  unfold parseDigits at parsed
  dsimp only at parsed
  split at parsed
  · rw [Option.some.injEq] at parsed
    rw [← parsed]
    refine lt_of_lt_of_le (digitsValue_lt ?_)
      (Nat.pow_le_pow_right positive ?_)
    · intro c member
      rw [List.mem_filter] at member
      have inRun := List.mem_takeWhile_imp member.1
      rw [Bool.or_eq_true] at inRun
      rcases inRun with digit | underscore
      · exact digit
      · exact absurd (of_decide_eq_true underscore)
          (of_decide_eq_true member.2)
    · exact (List.length_filter_le _ _).trans
        (List.takeWhile_prefix _).length_le
  · cases parsed

theorem withoutRadix_length_le (base : Nat) (text : PyStr) :
    (withoutRadix base text).length ≤ text.length := by
  unfold withoutRadix
  split
  · rename_i x rest
    split
    · split
      · simp only [List.length_cons]
        omega
      · simp only [List.length_cons]
        omega
    · exact le_rfl
  · exact le_rfl

theorem parseDigits_within {base value : Nat} {text whole : PyStr}
    (positive : 0 < base) (within : text.length ≤ whole.length)
    (parsed : parseDigits base (withoutRadix base text) = some value) :
    value < base ^ whole.length :=
  lt_of_lt_of_le (parseDigits_lt positive parsed)
    (Nat.pow_le_pow_right positive
      ((withoutRadix_length_le base text).trans within))

theorem parseInt_natAbs_lt {base : Nat} {text : PyStr} {value : Int}
    (positive : 0 < base) (parsed : parseInt base text = some value) :
    value.natAbs < base ^ text.length := by
  have skipped : (text.dropWhile isIntSpace).length ≤ text.length :=
    (List.dropWhile_suffix _).length_le
  unfold parseInt at parsed
  split at parsed
  · rename_i rest start
    rw [start, List.length_cons] at skipped
    obtain ⟨digits, found, same⟩ := Option.map_eq_some_iff.mp parsed
    rw [← same]
    exact parseDigits_within positive (by omega) found
  · rename_i rest start
    rw [start, List.length_cons] at skipped
    obtain ⟨signless, lifted, same⟩ := Option.map_eq_some_iff.mp parsed
    obtain ⟨digits, found, cast⟩ := Option.bind_eq_some_iff.mp lifted
    rw [← same, Int.natAbs_neg, ← Option.some.inj cast]
    exact parseDigits_within positive (by omega) found
  · obtain ⟨digits, found, same⟩ := Option.map_eq_some_iff.mp parsed
    rw [← same]
    exact parseDigits_within positive skipped found

theorem not_digit {base : Nat} {c : Char} (none : digitValue c = none) :
    isDigitOf base c = false := by
  unfold isDigitOf
  rw [none]

theorem isIntSpace_of_digit {base : Nat} {c : Char}
    (digit : isDigitOf base c = true) : isIntSpace c = false := by
  rw [← Bool.not_eq_true]
  intro blank
  have free : [' ', '\t', '\n', '\x0b', '\x0c', '\r'].all
      (fun c => digitValue c = none) = true := by decide
  unfold isIntSpace at blank
  have none := List.all_eq_true.mp free c (of_decide_eq_true blank)
  rw [not_digit (of_decide_eq_true none)] at digit
  cases digit

section Digits

variable {base : Nat} {digits : PyStr}
  (all : ∀ c ∈ digits, isDigitOf base c = true)

include all

theorem not_mem_digits {c : Char} (none : digitValue c = none) :
    c ∉ digits := by
  intro member
  have digit := all c member
  rw [not_digit none] at digit
  cases digit

theorem takeWhile_digits :
    digits.takeWhile (fun c => isDigitOf base c || c = '_') = digits := by
  rw [List.takeWhile_eq_self_iff]
  intro c member
  rw [all c member]
  rfl

theorem filter_digits : digits.filter (· ≠ '_') = digits := by
  have underscore := not_mem_digits all (by decide : digitValue '_' = none)
  rw [List.filter_eq_self]
  intro c member
  exact decide_eq_true fun same => underscore (same ▸ member)

theorem splitOn_digits (present : digits ≠ []) :
    (digits.splitOn '_').all (· ≠ []) = true := by
  rw [List.splitOn_eq_singleton
      (not_mem_digits all (by decide : digitValue '_' = none)),
    List.all_cons, List.all_nil, Bool.and_true]
  exact decide_eq_true present

theorem dropWhile_digits : digits.dropWhile isIntSpace = digits := by
  cases digits with
  | nil => rfl
  | cons c rest =>
      rw [List.dropWhile_cons_of_neg]
      rw [isIntSpace_of_digit (all c (List.mem_cons_self))]
      exact Bool.false_ne_true

theorem parseDigits_digits (present : digits ≠ []) :
    parseDigits base digits = some (digitsValue base digits) := by
  unfold parseDigits
  rw [takeWhile_digits all]
  dsimp only
  rw [List.drop_length, filter_digits all,
    if_pos ⟨splitOn_digits all present, rfl⟩]

theorem withoutRadix_digits : withoutRadix base digits = digits := by
  unfold withoutRadix
  split
  · rename_i x rest
    rw [if_neg]
    intro radix
    have digit := all x (by simp)
    rw [radix.1] at digit
    rcases radix.2 with lower | upper
    · rw [lower] at digit
      exact absurd digit (by decide)
    · rw [upper] at digit
      exact absurd digit (by decide)
  · rfl

theorem parseInt_digits (present : digits ≠ []) :
    parseInt base digits = some (digitsValue base digits : Int) := by
  have plus := not_mem_digits all (by decide : digitValue '+' = none)
  have minus := not_mem_digits all (by decide : digitValue '-' = none)
  unfold parseInt
  rw [dropWhile_digits all]
  split
  · exact absurd List.mem_cons_self plus
  · exact absurd List.mem_cons_self minus
  · rw [withoutRadix_digits all, parseDigits_digits all present]
    rfl

end Digits

theorem tooManyDigits_digits {digits : PyStr}
    (all : ∀ c ∈ digits, isDigitOf 10 c = true) (present : digits ≠ []) :
    TooManyDigits digits ↔ 4300 < digits.length := by
  have run : literalRun digits = digits := by
    unfold literalRun
    rw [dropWhile_digits all]
    dsimp only
    split
    · exact absurd List.mem_cons_self
        (not_mem_digits all (by decide : digitValue '+' = none))
    · exact absurd List.mem_cons_self
        (not_mem_digits all (by decide : digitValue '-' = none))
    · exact takeWhile_digits all
  unfold TooManyDigits literalDigits
  rw [run, filter_digits all]
  exact and_iff_right (splitOn_digits all present)

example : parseInt 10 " -1_2\n".toList = some (-12) := by decide

example : parseInt 16 "0x_ff".toList = some 255 := by decide

example : parseInt 10 "1__2".toList = none := by decide

end DpktNg
