/-
The Internet checksum of dpkt/dpkt.py.

The code adds little-endian words and exchanges the two bytes of the result.
What a receiver checks is the one's-complement sum of the big-endian words.

Against RFC 1071, for buffers of any length: `in_cksum_done` moves carries down
twice.  For the packets that it is meant for that is enough; in a long buffer the
second round may leave a carry, which is cut off.
-/

import DpktNg.Library.OnesComplement
import DpktNg.Python.Struct

namespace DpktNg.Inet

open Library

/-- `struct.unpack('<nH', bytes)`, where an odd byte at the end is left out. -/
def leWords : Bytes → List Nat
  | low :: high :: rest => (low.toNat + 256 * high.toNat) :: leWords rest
  | _ => []

def inCksumAdd (s : Nat) (buf : Bytes) : Nat :=
  let n := buf.length
  let cnt := n / 2 * 2
  let res := s + (leWords (buf.take cnt)).sum
  if cnt ≠ n then res + (buf.getLastD 0).toNat else res

/-- Write a 16-bit value big-endian and read it little-endian. -/
def ntole (v : Nat) : Nat := beNat (beBytes 2 v).reverse

def inCksumDone (s : Nat) : Nat :=
  let s := s / 0x10000 + s % 0x10000
  let s := s + s / 0x10000
  ntole (0xffff - s % 0x10000)

def inCksum (buf : Bytes) : Nat := inCksumDone (inCksumAdd 0 buf)

/-- The big-endian words, the last one padded with a zero byte. -/
def beWords : Bytes → List Nat
  | high :: low :: rest => (256 * high.toNat + low.toNat) :: beWords rest
  | [high] => [256 * high.toNat]
  | [] => []

def onesSum (buf : Bytes) : Nat := OnesComplement.sum 0xffff (beWords buf)

/-- The plain sum of the big-endian words. -/
def beSum (buf : Bytes) : Nat := (beWords buf).sum

theorem beWords_bounded (buf : Bytes) : ∀ w ∈ beWords buf, w ≤ 0xffff := by
  fun_induction beWords buf with
  | case1 high low rest ih =>
      intro w member
      have highRange := high.toNat_lt
      have lowRange := low.toNat_lt
      rcases List.mem_cons.mp member with here | later
      · omega
      · exact ih w later
  | case2 high =>
      intro w member
      have highRange := high.toNat_lt
      rw [List.mem_singleton] at member
      omega
  | case3 =>
      intro w member
      cases member

theorem onesSum_eq_top_iff (buf : Bytes) :
    onesSum buf = 0xffff ↔ beSum buf ≠ 0 ∧ 0xffff ∣ beSum buf :=
  OnesComplement.sum_eq_top_iff (by decide) (beWords_bounded buf)

/-- The sum that `in_cksum_add` adds. -/
def leSum : Bytes → Nat
  | low :: high :: rest => low.toNat + 256 * high.toNat + leSum rest
  | [last] => last.toNat
  | [] => 0

theorem inCksumAdd_eq (s : Nat) (buf : Bytes) :
    inCksumAdd s buf = s + leSum buf := by
  induction buf using leSum.induct generalizing s with
  | case1 low high rest ih =>
      have shorter := ih (s + (low.toNat + 256 * high.toNat))
      have count : (low :: high :: rest).length / 2 * 2 =
          rest.length / 2 * 2 + 2 := by
        rw [List.length_cons, List.length_cons]
        omega
      have last : (low :: high :: rest).getLastD 0 =
          rest.getLastD high := by
        cases rest with
        | nil => rfl
        | cons next others => rfl
      have odd : rest.length / 2 * 2 + 2 ≠ (low :: high :: rest).length ↔
          rest.length / 2 * 2 ≠ rest.length := by
        rw [List.length_cons, List.length_cons]
        omega
      unfold inCksumAdd at shorter ⊢
      dsimp only at shorter ⊢
      rw [count, last]
      simp only [odd, List.take_succ_cons, leWords, List.sum_cons, leSum]
      by_cases more : rest.length / 2 * 2 ≠ rest.length
      · have nonempty : rest ≠ [] := by
          intro empty
          rw [empty] at more
          exact more rfl
        have sameLast : rest.getLastD high = rest.getLastD 0 := by
          rw [List.getLastD_eq_getLast?, List.getLastD_eq_getLast?,
            List.getLast?_eq_some_getLast nonempty]
          rfl
        rw [if_pos more] at shorter ⊢
        rw [sameLast]
        omega
      · rw [if_neg more] at shorter ⊢
        omega
  | case2 last => simp [inCksumAdd, leWords, leSum]
  | case3 => simp [inCksumAdd, leWords, leSum]

theorem leSum_append {front : Bytes} (even : front.length % 2 = 0)
    (back : Bytes) : leSum (front ++ back) = leSum front + leSum back := by
  induction front using leSum.induct with
  | case1 low high rest ih =>
      have evenRest : rest.length % 2 = 0 := by
        rw [List.length_cons, List.length_cons] at even
        omega
      have shorter := ih evenRest
      simp only [List.cons_append, leSum]
      omega
  | case2 last => cases even
  | case3 =>
      rw [List.nil_append]
      exact (Nat.zero_add _).symm

theorem leSum_bound (buf : Bytes) :
    leSum buf ≤ 0xffff * ((buf.length + 1) / 2) := by
  fun_induction leSum buf with
  | case1 low high rest ih =>
      have lowRange := low.toNat_lt
      have highRange := high.toNat_lt
      rw [List.length_cons, List.length_cons]
      omega
  | case2 last =>
      have range := last.toNat_lt
      rw [List.length_singleton]
      omega
  | case3 => exact Nat.zero_le _

/-- The two orders differ by a factor of 256, modulo the largest word. -/
theorem leSum_modEq (buf : Bytes) :
    256 * leSum buf ≡ beSum buf [MOD 0xffff] := by
  unfold beSum
  fun_induction leSum buf with
  | case1 low high rest ih =>
      have whole : 256 * (low.toNat + 256 * high.toNat + leSum rest) =
          0xffff * high.toNat + (256 * low.toNat + high.toNat) +
            256 * leSum rest := by omega
      have word : 0xffff * high.toNat + (256 * low.toNat + high.toNat) ≡
          0 + (256 * low.toNat + high.toNat) [MOD 0xffff] :=
        (Nat.modEq_zero_iff_dvd.mpr (Nat.dvd_mul_right _ _)).add_right _
      rw [Nat.zero_add] at word
      rw [whole]
      simp only [beWords, List.sum_cons]
      exact word.add ih
  | case2 last => exact Nat.ModEq.refl _
  | case3 => exact Nat.ModEq.refl _

theorem beSum_eq_zero (buf : Bytes) : beSum buf = 0 ↔ leSum buf = 0 := by
  unfold beSum
  fun_induction leSum buf with
  | case1 low high rest ih =>
      simp only [beWords, List.sum_cons]
      omega
  | case2 last =>
      simp only [beWords, List.sum_cons, List.sum_nil]
      omega
  | case3 => exact Iff.rfl

theorem ntole_eq_swap {v : Nat} (word : v ≤ 0xffff) :
    ntole v = OnesComplement.swap 256 v := by
  have bytes : (beBytes 2 v).reverse =
      [UInt8.ofNat v, UInt8.ofNat (v / 256)] := rfl
  unfold ntole OnesComplement.swap
  rw [bytes]
  simp only [beNat, List.foldl_cons, List.foldl_nil, UInt8.toNat_ofNat']
  omega

theorem inCksumDone_eq {s : Nat} (small : s < 0x100000000) :
    inCksumDone s =
      OnesComplement.swap 256 (0xffff - OnesComplement.word 0xffff s) := by
  have folded :
      (OnesComplement.carry 0xffff s +
        OnesComplement.carry 0xffff s / (0xffff + 1)) % (0xffff + 1) =
      OnesComplement.word 0xffff s :=
    OnesComplement.carry_twice (by decide) small
  unfold OnesComplement.carry at folded
  change ntole (0xffff - (s / 0x10000 + s % 0x10000 +
    (s / 0x10000 + s % 0x10000) / 0x10000) % 0x10000) = _
  rw [ntole_eq_swap (Nat.sub_le _ _), ← folded]

theorem inCksumDone_le {s : Nat} (small : s < 0x100000000) :
    inCksumDone s ≤ 0xffff := by
  rw [inCksumDone_eq small]
  exact OnesComplement.swap_le rfl (Nat.sub_le _ _)

theorem beSum_append {front : Bytes} (even : front.length % 2 = 0)
    (back : Bytes) : beSum (front ++ back) = beSum front + beSum back := by
  unfold beSum
  induction front using leSum.induct with
  | case1 high low rest ih =>
      have evenRest : rest.length % 2 = 0 := by
        rw [List.length_cons, List.length_cons] at even
        omega
      have shorter := ih evenRest
      simp only [List.cons_append, beWords, List.sum_cons]
      omega
  | case2 last => cases even
  | case3 =>
      rw [List.nil_append]
      exact (Nat.zero_add _).symm

theorem beSum_field {value : Nat} (word : value ≤ 0xffff) (back : Bytes) :
    beSum (beBytes 2 value ++ back) = value + beSum back := by
  have bytes : beBytes 2 value ++ back =
      UInt8.ofNat (value / 256) :: UInt8.ofNat value :: back := rfl
  unfold beSum
  rw [bytes]
  simp only [beWords, List.sum_cons, UInt8.toNat_ofNat']
  omega

section Field

variable {front back : Bytes}

theorem beSum_filled (even : front.length % 2 = 0) {value : Nat}
    (word : value ≤ 0xffff) :
    beSum (front ++ beBytes 2 value ++ back) =
      beSum (front ++ beBytes 2 0 ++ back) + value := by
  rw [List.append_assoc, List.append_assoc, beSum_append even,
    beSum_append even, beSum_field word, beSum_field (Nat.zero_le _)]
  omega

/-- The checksum over the buffer with an empty field makes it sum up. -/
theorem onesSum_completes (even : front.length % 2 = 0) {s : Nat}
    (small : s < 0x100000000)
    (added : s = leSum (front ++ beBytes 2 0 ++ back)) :
    onesSum (front ++ beBytes 2 (inCksumDone s) ++ back) = 0xffff := by
  rw [onesSum_eq_top_iff, beSum_filled even (inCksumDone_le small),
    inCksumDone_eq small]
  apply OnesComplement.checksum_completes (by decide) rfl
  · rw [added]
    exact leSum_modEq _
  · rw [added]
    exact beSum_eq_zero _

/-- A computed checksum of zero may as well be sent as all ones. -/
theorem onesSum_all_ones (even : front.length % 2 = 0)
    (valid : onesSum (front ++ beBytes 2 0 ++ back) = 0xffff) :
    onesSum (front ++ beBytes 2 0xffff ++ back) = 0xffff := by
  rw [onesSum_eq_top_iff] at valid ⊢
  rw [beSum_filled even (Nat.le_refl _)]
  exact ⟨by omega, valid.2.add (Nat.dvd_refl _)⟩

theorem inCksumDone_eq_zero {s : Nat} (small : s < 0x100000000) {buf : Bytes}
    (added : s = leSum buf) :
    inCksumDone s = 0 ↔ onesSum buf = 0xffff := by
  have bounded : OnesComplement.word 0xffff (leSum buf) ≤ 0xffff :=
    OnesComplement.word_le (by decide) _
  have congruent := leSum_modEq buf
  have zero := beSum_eq_zero buf
  rw [inCksumDone_eq small, OnesComplement.swap_eq_zero (by decide), added,
    onesSum_eq_top_iff]
  have full : 0xffff - OnesComplement.word 0xffff (leSum buf) = 0 ↔
      OnesComplement.word 0xffff (leSum buf) = 0xffff := by omega
  rw [full, OnesComplement.word_eq_top_iff (by decide)]
  have divides : 0xffff ∣ leSum buf ↔ 0xffff ∣ beSum buf := by
    rw [← congruent.dvd_iff (Nat.dvd_refl _)]
    have coprime : Nat.Coprime 0xffff 256 := by decide
    exact (coprime.dvd_mul_left).symm
  rw [divides]
  exact and_congr_left fun _ => not_congr zero.symm

end Field

example : inCksum [0x00, 0x01, 0x02, 0x03, 0x04, 0x05, 0x06, 0x07, 0x08, 0x09,
    0x0a, 0x0b, 0x0c, 0x0d, 0x0e] = 51150 := by decide

/-- The complement of the one's-complement sum of the big-endian words. -/
def rfc1071 (buf : Bytes) : Nat := 0xffff - onesSum buf

/-- Two rounds of carrying leave nothing to carry, or a multiple of the largest
word that may as well be cut off. -/
def FoldsDown (total : Nat) : Prop :=
  let twice :=
    OnesComplement.carry 0xffff (OnesComplement.carry 0xffff total)
  0xffff ∣ twice / 0x10000 ∧ (twice % 0x10000 = 0 → twice = 0)

theorem swap_complement {w : Nat} (word : w ≤ 0xffff) :
    OnesComplement.swap 256 (0xffff - w) =
      0xffff - OnesComplement.swap 256 w := by
  unfold OnesComplement.swap
  omega

theorem swap_injective {v w : Nat} (first : v ≤ 0xffff) (second : w ≤ 0xffff) :
    OnesComplement.swap 256 v = OnesComplement.swap 256 w ↔ v = w := by
  unfold OnesComplement.swap
  omega

/-- The word that `in_cksum_done` complements. -/
def foldedWord (total : Nat) : Nat :=
  OnesComplement.carry 0xffff (OnesComplement.carry 0xffff total) % 0x10000

theorem foldedWord_le (total : Nat) : foldedWord total ≤ 0xffff :=
  Nat.le_of_lt_succ (Nat.mod_lt _ (by decide))

theorem inCksumDone_folded (s : Nat) :
    inCksumDone s = 0xffff - OnesComplement.swap 256 (foldedWord s) := by
  rw [← swap_complement (foldedWord_le s), ← ntole_eq_swap (Nat.sub_le _ _)]
  unfold inCksumDone foldedWord OnesComplement.carry
  dsimp only
  congr 2
  omega

theorem onesSum_eq_swap (buf : Bytes) :
    onesSum buf =
      OnesComplement.swap 256 (OnesComplement.word 0xffff (leSum buf)) := by
  have bounded : OnesComplement.word 0xffff (leSum buf) ≤ 0xffff :=
    OnesComplement.word_le (by decide) _
  unfold onesSum
  rw [OnesComplement.sum_eq_word (by decide) (beWords_bounded buf)]
  symm
  apply OnesComplement.word_unique
  · exact OnesComplement.swap_le rfl bounded
  · exact (OnesComplement.swap_modEq rfl _).trans
      (((OnesComplement.word_modEq _).mul_left 256).trans (leSum_modEq buf))
  · rw [OnesComplement.swap_eq_zero (by decide), OnesComplement.word_eq_zero]
    exact (beSum_eq_zero buf).symm

/-- Cutting the twice folded sum gives its word exactly when it folds down. -/
theorem foldedWord_eq_word_iff (total : Nat) :
    foldedWord total = OnesComplement.word 0xffff total ↔ FoldsDown total := by
  have congruent : OnesComplement.carry 0xffff
      (OnesComplement.carry 0xffff total) ≡ total [MOD 0xffff] :=
    (OnesComplement.carry_modEq _).trans (OnesComplement.carry_modEq _)
  have zero : OnesComplement.carry 0xffff
      (OnesComplement.carry 0xffff total) = 0 ↔ total = 0 := by
    rw [OnesComplement.carry_eq_zero, OnesComplement.carry_eq_zero]
  unfold foldedWord FoldsDown
  dsimp only
  generalize OnesComplement.carry 0xffff
    (OnesComplement.carry 0xffff total) = twice at congruent zero ⊢
  have split := Nat.div_add_mod twice 0x10000
  -- what is cut off is congruent to the number of carries
  have carries : twice ≡ twice / 0x10000 + twice % 0x10000 [MOD 0xffff] :=
    (@OnesComplement.carry_modEq 0xffff twice).symm
  constructor
  · intro same
    have kept : twice % 0x10000 ≡ total [MOD 0xffff] := by
      rw [same]
      exact OnesComplement.word_modEq total
    have cut : 0 + twice % 0x10000 ≡
        twice / 0x10000 + twice % 0x10000 [MOD 0xffff] := by
      rw [Nat.zero_add]
      exact kept.trans (congruent.symm.trans carries)
    refine ⟨(Nat.modEq_zero_iff_dvd.mp
      (Nat.ModEq.add_right_cancel' _ cut).symm), ?_⟩
    intro nothing
    rw [nothing] at same
    exact zero.mpr (OnesComplement.word_eq_zero.mp same.symm)
  · rintro ⟨divides, onlyZero⟩
    apply OnesComplement.word_unique
    · omega
    · have cut := (Nat.modEq_zero_iff_dvd.mpr divides).add_right
        (twice % 0x10000)
      rw [Nat.zero_add] at cut
      exact cut.symm.trans (carries.symm.trans congruent)
    · rw [← zero]
      constructor
      · exact onlyZero
      · intro nothing
        rw [nothing]

theorem inCksum_eq_iff (buf : Bytes) :
    inCksum buf = rfc1071 buf ↔ FoldsDown (leSum buf) := by
  have sum : inCksumAdd 0 buf = leSum buf := by
    rw [inCksumAdd_eq, Nat.zero_add]
  have bounded : OnesComplement.word 0xffff (leSum buf) ≤ 0xffff :=
    OnesComplement.word_le (by decide) _
  have first : OnesComplement.swap 256 (foldedWord (leSum buf)) ≤ 0xffff :=
    OnesComplement.swap_le rfl (foldedWord_le _)
  have second : OnesComplement.swap 256
      (OnesComplement.word 0xffff (leSum buf)) ≤ 0xffff :=
    OnesComplement.swap_le rfl bounded
  unfold inCksum rfc1071
  rw [sum, inCksumDone_folded, onesSum_eq_swap, ← foldedWord_eq_word_iff,
    ← swap_injective (foldedWord_le _) bounded]
  omega

/-- A buffer of up to 131072 bytes is short enough. -/
theorem foldsDown_of_short {buf : Bytes} (short : buf.length ≤ 0x20000) :
    FoldsDown (leSum buf) := by
  have bound := leSum_bound buf
  have small : leSum buf < (0xffff + 1) * (0xffff + 1) := by omega
  have folded := OnesComplement.carry_twice (by decide) small
  rw [← foldedWord_eq_word_iff, ← folded]
  unfold foldedWord OnesComplement.carry
  omega

theorem inCksumAdd_append (s : Nat) {a : Bytes} (even : a.length % 2 = 0)
    (b : Bytes) :
    inCksumAdd (inCksumAdd s a) b = inCksumAdd s (a ++ b) := by
  rw [inCksumAdd_eq, inCksumAdd_eq, inCksumAdd_eq, leSum_append even,
    Nat.add_assoc]

/-- The checksum is the one of RFC 1071 exactly where the sum folds down; sums
may always be added up in pieces. -/
theorem checksum_correct_iff (buf : Bytes) :
    (inCksum buf = rfc1071 buf ↔ FoldsDown (leSum buf)) ∧
      ∀ (s : Nat) (a b : Bytes), a.length % 2 = 0 →
        inCksumAdd (inCksumAdd s a) b = inCksumAdd s (a ++ b) :=
  ⟨inCksum_eq_iff buf, fun s _a b even => inCksumAdd_append s even b⟩

/-- Three bytes, and a sum in two pieces. -/
theorem checksum_correct_short :
    inCksum [0x12, 0x34, 0x56] = rfc1071 [0x12, 0x34, 0x56] ∧
      inCksumAdd (inCksumAdd 7 [0x12, 0x34]) [0x56] =
        inCksumAdd 7 [0x12, 0x34, 0x56] :=
  have correct := checksum_correct_iff [0x12, 0x34, 0x56]
  ⟨correct.1.mpr (foldsDown_of_short (by decide)),
    correct.2 7 [0x12, 0x34] [0x56] rfl⟩

theorem leSum_ones (words : Nat) :
    leSum (List.replicate (2 * words) 0xff) = 0xffff * words := by
  induction words with
  | zero => rfl
  | succ words ih =>
      have pair : List.replicate (2 * (words + 1)) (0xff : UInt8) =
          0xff :: 0xff :: List.replicate (2 * words) 0xff := rfl
      rw [pair, leSum, ih]
      change 255 + 256 * 255 + 0xffff * words = _
      omega

/-- 65538 words of ones, and a one behind them. -/
def manyOnes : Bytes := List.replicate (2 * 65538) 0xff ++ [1, 0]

theorem leSum_manyOnes : leSum manyOnes = 0x10000ffff := by
  have even : (List.replicate (2 * 65538) (0xff : UInt8)).length % 2 = 0 := by
    rw [List.length_replicate]
  unfold manyOnes
  rw [leSum_append even, leSum_ones]
  rfl

theorem manyOnes_checksum : inCksum manyOnes ≠ rfc1071 manyOnes := by
  rw [ne_eq, inCksum_eq_iff, leSum_manyOnes]
  rintro ⟨_divides, onlyZero⟩
  exact absurd (onlyZero (by decide)) (by decide)

end DpktNg.Inet
