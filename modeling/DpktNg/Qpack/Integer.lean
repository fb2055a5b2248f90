/-
Prefixed integers, `_decode_int` of dpkt/qpack.py, and the encoding that it
reads back.
-/

import DpktNg.Python.Struct

namespace DpktNg.Qpack

open Library

/-- The loop over the bytes behind the first one, which stand from `off` on. -/
def continued (value m off : Nat) : Bytes → Nat × Nat
  | [] => (value, off)
  | b :: rest =>
      let value := value + (b.toNat &&& 0x7f) <<< m
      if b.toNat &&& 0x80 = 0 then (value, off + 1)
      else continued value (m + 7) (off + 1) rest

/-- `_decode_int`: the value, and how many bytes it takes. -/
def decodeInt (buf : Bytes) (prefixBits : Nat) : Except PyError (Nat × Nat) :=
  match buf with
  | [] => .error .indexError
  | first :: rest =>
      let mask := 1 <<< prefixBits - 1
      let value := first.toNat &&& mask
      if value < mask then .ok (value, 1)
      else .ok (continued mask 0 1 rest)

/-- Groups of seven bits, the lowest first; all but the last have the highest
bit set. -/
def groups (value : Nat) : Bytes :=
  if value < 128 then [UInt8.ofNat value]
  else UInt8.ofNat (value % 128 + 128) :: groups (value / 128)
termination_by value
decreasing_by omega

/-- A first byte that keeps the bits of `above` above the prefix. -/
def firstByte (above : UInt8) (prefixBits value : Nat) : UInt8 :=
  UInt8.ofNat (above.toNat / 2 ^ prefixBits * 2 ^ prefixBits + value)

/-- A value that does not fit the prefix fills it, and the rest follows in
groups. -/
def encodeInt (above : UInt8) (prefixBits value : Nat) : Bytes :=
  let top := 2 ^ prefixBits - 1
  if value < top then [firstByte above prefixBits value]
  else firstByte above prefixBits top :: groups (value - top)

theorem low_bits (n : Nat) : n &&& 0x7f = n % 128 :=
  Nat.and_two_pow_sub_one_eq_mod n 7

theorem top_bit {n : Nat} (byte : n < 256) : n &&& 0x80 = 0 ↔ n < 128 := by
  have table : ∀ n < 256, (n &&& 0x80 = 0 ↔ n < 128) := by decide +kernel
  exact table n byte

theorem continued_last {n : Nat} (small : n < 128) (value m off : Nat)
    (rest : Bytes) :
    continued value m off (UInt8.ofNat n :: rest) =
      (value + n * 2 ^ m, off + 1) := by
  have byte : (UInt8.ofNat n).toNat = n := count_toNat (by omega)
  unfold continued
  rw [byte, low_bits, Nat.mod_eq_of_lt small, Nat.shiftLeft_eq,
    if_pos ((top_bit (by omega)).mpr small)]

theorem continued_more {n : Nat} (small : n < 128) (value m off : Nat)
    (rest : Bytes) :
    continued value m off (UInt8.ofNat (n + 128) :: rest) =
      continued (value + n * 2 ^ m) (m + 7) (off + 1) rest := by
  have byte : (UInt8.ofNat (n + 128)).toNat = n + 128 :=
    count_toNat (by omega)
  have further : ¬n + 128 &&& 0x80 = 0 := by
    rw [top_bit (by omega)]
    omega
  rw [continued, byte, low_bits, if_neg further, Nat.add_mod_right,
    Nat.mod_eq_of_lt small, Nat.shiftLeft_eq]

theorem continued_groups (more value m off : Nat) (rest : Bytes) :
    continued value m off (groups more ++ rest) =
      (value + more * 2 ^ m, off + (groups more).length) := by
  fun_induction groups more generalizing value m off with
  | case1 more small => exact continued_last small value m off rest
  | case2 more large ih =>
      have low : more % 128 < 128 := Nat.mod_lt more (by decide)
      rw [List.cons_append, continued_more low, ih, List.length_cons]
      have sum : more % 128 * 2 ^ m + more / 128 * 2 ^ (m + 7) =
          more * 2 ^ m := by
        calc more % 128 * 2 ^ m + more / 128 * 2 ^ (m + 7)
            = (more % 128 + 128 * (more / 128)) * 2 ^ m := by
              rw [pow_add]
              ring
          _ = more * 2 ^ m := by
              rw [Nat.mod_add_div]
      rw [Nat.add_assoc, sum, Nat.add_assoc, Nat.add_comm 1]

theorem firstByte_toNat (above : UInt8) {prefixBits value : Nat}
    (width : prefixBits ≤ 8) (fits : value < 2 ^ prefixBits) :
    (firstByte above prefixBits value).toNat =
      above.toNat / 2 ^ prefixBits * 2 ^ prefixBits + value := by
  have whole : 256 = 2 ^ (8 - prefixBits) * 2 ^ prefixBits := by
    rw [← pow_add, Nat.sub_add_cancel width]
    rfl
  have byte := above.toNat_lt
  have high : above.toNat / 2 ^ prefixBits < 2 ^ (8 - prefixBits) := by
    rw [Nat.div_lt_iff_lt_mul (Nat.two_pow_pos prefixBits), ← whole]
    exact byte
  have product : (above.toNat / 2 ^ prefixBits + 1) * 2 ^ prefixBits ≤
      2 ^ (8 - prefixBits) * 2 ^ prefixBits :=
    Nat.mul_le_mul_right _ high
  rw [← whole, Nat.add_mul, Nat.one_mul] at product
  exact count_toNat (by omega)

theorem firstByte_mask (above : UInt8) {prefixBits value mask : Nat}
    (width : prefixBits ≤ 8) (fits : value < 2 ^ prefixBits)
    (high : mask % 2 ^ prefixBits = 0) :
    (firstByte above prefixBits value).toNat &&& mask =
      above.toNat &&& mask := by
  rw [firstByte_toNat above width fits]
  apply Nat.eq_of_testBit_eq
  intro index
  rw [Nat.testBit_and, Nat.testBit_and, Nat.mul_comm,
    Nat.testBit_two_pow_mul_add _ fits]
  by_cases low : index < prefixBits
  · have clear : mask.testBit index = false := by
      have bit := Nat.testBit_mod_two_pow mask prefixBits index
      rw [high, Nat.zero_testBit, decide_eq_true low, Bool.true_and] at bit
      exact bit.symm
    rw [clear, Bool.and_false, Bool.and_false]
  · rw [if_neg low, Nat.testBit_div_two_pow,
      Nat.sub_add_cancel (Nat.not_lt.mp low)]

theorem firstByte_prefix (above : UInt8) {prefixBits value : Nat}
    (width : prefixBits ≤ 8) (fits : value < 2 ^ prefixBits) :
    (firstByte above prefixBits value).toNat &&& 2 ^ prefixBits - 1 =
      value := by
  rw [firstByte_toNat above width fits, Nat.and_two_pow_sub_one_eq_mod,
    Nat.mul_add_mod_self_right, Nat.mod_eq_of_lt fits]

theorem encodeInt_eq_cons (above : UInt8) (prefixBits value : Nat) :
    ∃ low rest, low < 2 ^ prefixBits ∧
      encodeInt above prefixBits value =
        firstByte above prefixBits low :: rest := by
  have room := Nat.two_pow_pos prefixBits
  unfold encodeInt
  dsimp only
  split
  · exact ⟨value, [], by omega, rfl⟩
  · exact ⟨2 ^ prefixBits - 1, _, by omega, rfl⟩

theorem encodeInt_length_pos (above : UInt8) (prefixBits value : Nat) :
    0 < (encodeInt above prefixBits value).length := by
  obtain ⟨low, rest, _small, same⟩ := encodeInt_eq_cons above prefixBits value
  rw [same, List.length_cons]
  omega

/-- Decoding a buffer that begins with an encoding gives the value back and stops
behind it. -/
theorem decodeInt_begins {above : UInt8} {prefixBits value : Nat} {buf : Bytes}
    (width : prefixBits ≤ 8)
    (begins : encodeInt above prefixBits value <+: buf) :
    decodeInt buf prefixBits =
      .ok (value, (encodeInt above prefixBits value).length) := by
  obtain ⟨rest, rfl⟩ := begins
  have positive := Nat.two_pow_pos prefixBits
  have mask : 1 <<< prefixBits - 1 = 2 ^ prefixBits - 1 := by
    rw [Nat.one_shiftLeft]
  unfold encodeInt
  dsimp only
  split
  · rename_i inside
    change (if (firstByte above prefixBits value).toNat &&&
      (1 <<< prefixBits - 1) < 1 <<< prefixBits - 1 then _ else _) = _
    rw [mask, firstByte_prefix above width (by omega), if_pos inside]
    rfl
  · rename_i outside
    change (if (firstByte above prefixBits (2 ^ prefixBits - 1)).toNat &&&
      (1 <<< prefixBits - 1) < 1 <<< prefixBits - 1 then _ else
        Except.ok (continued (1 <<< prefixBits - 1) 0 1 (groups _ ++ rest))) = _
    rw [mask, firstByte_prefix above width (by omega),
      if_neg (Nat.lt_irrefl _), continued_groups, pow_zero, Nat.mul_one,
      Nat.add_sub_cancel' (by omega), List.length_cons, Nat.add_comm 1]

/-- Prefixed integers come back, whatever stands above the prefix and whatever
follows. -/
theorem decodeInt_encodeInt (above : UInt8) {prefixBits : Nat}
    (width : prefixBits ≤ 8) (value : Nat) (rest : Bytes) :
    decodeInt (encodeInt above prefixBits value ++ rest) prefixBits =
      .ok (value, (encodeInt above prefixBits value).length) :=
  decodeInt_begins width (List.prefix_append _ rest)

/-- The value 1337 behind a prefix of five bits. -/
theorem decodeInt_example :
    decodeInt (encodeInt 0xe0 5 1337 ++ [0x2a]) 5 =
      .ok (1337, (encodeInt 0xe0 5 1337).length) :=
  decodeInt_encodeInt 0xe0 (by decide) 1337 [0x2a]

theorem continued_bounds (value m off : Nat) (rest : Bytes) :
    off ≤ (continued value m off rest).2 ∧
      (continued value m off rest).2 ≤ off + rest.length := by
  induction rest generalizing value m off with
  | nil => exact ⟨Nat.le_refl off, Nat.le_refl off⟩
  | cons b rest ih =>
      rw [continued, List.length_cons]
      split
      · exact ⟨Nat.le_add_right off 1, by dsimp only; omega⟩
      · obtain ⟨low, high⟩ := ih (value + (b.toNat &&& 0x7f) <<< m) (m + 7)
          (off + 1)
        omega

theorem decodeInt_present {buf : Bytes} (present : 0 < buf.length)
    (prefixBits : Nat) :
    ∃ value n, decodeInt buf prefixBits = .ok (value, n) ∧ 0 < n ∧
      n ≤ buf.length := by
  cases buf with
  | nil => exact absurd present (Nat.lt_irrefl 0)
  | cons first rest =>
      unfold decodeInt
      dsimp only
      split
      · exact ⟨_, 1, rfl, Nat.one_pos, present⟩
      · obtain ⟨low, high⟩ :=
          continued_bounds (1 <<< prefixBits - 1) 0 1 rest
        refine ⟨_, _, rfl, low, ?_⟩
        rw [List.length_cons]
        omega

/-- The loop runs through groups of which the last is missing. -/
theorem continued_cut {more count : Nat}
    (cutOff : count < (groups more).length) (value m off : Nat) :
    (continued value m off ((groups more).take count)).2 = off + count := by
  induction count generalizing more value m off with
  | zero => rfl
  | succ count ih =>
      rw [groups] at cutOff ⊢
      split at cutOff
      · rw [List.length_singleton] at cutOff
        omega
      · rename_i large
        have low : more % 128 < 128 := Nat.mod_lt more (by decide)
        rw [List.length_cons] at cutOff
        rw [if_neg large, List.take_succ_cons, continued_more low,
          ih (by omega)]
        omega

/-- Of an integer that is cut off all bytes are taken. -/
theorem decodeInt_cut (above : UInt8) {prefixBits count : Nat}
    (width : prefixBits ≤ 8) {value : Nat} (positive : 0 < count)
    (cutOff : count ≤ (encodeInt above prefixBits value).length) :
    ∃ found, decodeInt ((encodeInt above prefixBits value).take count)
      prefixBits = .ok (found, count) := by
  rcases Nat.lt_or_eq_of_le cutOff with inside | whole
  · have mask : 1 <<< prefixBits - 1 = 2 ^ prefixBits - 1 := by
      rw [Nat.one_shiftLeft]
    have room := Nat.two_pow_pos prefixBits
    obtain ⟨count, rfl⟩ := Nat.exists_eq_succ_of_ne_zero positive.ne'
    unfold encodeInt at inside ⊢
    dsimp only at inside ⊢
    split at inside
    · rw [List.length_singleton] at inside
      omega
    · rename_i outside
      rw [List.length_cons] at inside
      rw [if_neg outside, List.take_succ_cons]
      have all := continued_cut (Nat.lt_of_succ_lt_succ inside)
        (2 ^ prefixBits - 1) 0 1
      refine ⟨(continued (2 ^ prefixBits - 1) 0 1
        ((groups (value - (2 ^ prefixBits - 1))).take count)).1, ?_⟩
      unfold decodeInt
      dsimp only
      rw [mask, firstByte_prefix above width (by omega),
        if_neg (Nat.lt_irrefl _)]
      exact congrArg Except.ok
        (Prod.ext rfl (all.trans (Nat.add_comm 1 count)))
  · rw [whole, List.take_length]
    exact ⟨value, decodeInt_begins width (List.prefix_refl _)⟩

end DpktNg.Qpack
