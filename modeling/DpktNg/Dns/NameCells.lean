/-
A message as a store of name cells: a label, the root label or a pointer may
stand at each offset.  `unpack_name` returns exactly the labels that the cells
spell, as long as they fit in 255 bytes.
-/

import DpktNg.Library.Chains
import DpktNg.Dns.Name

namespace DpktNg.Dns

open Library

def cellAt (buf : Bytes) (off : Nat) : Option (Cell Bytes) :=
  match buf[off]? with
  | none => none
  | some byte =>
      let n := byte.toNat
      if n = 0 then some (.stop (off + 1))
      else if n &&& 0xc0 = 0xc0 ∧ off + 2 ≤ buf.length then
        some (.jump (beNat (cut buf off (off + 2)) &&& 0x3fff) (off + 2))
      else if n &&& 0xc0 = 0x00 ∧ off + 1 + n ≤ buf.length then
        some (.item (cut buf (off + 1) (off + 1 + n)) (off + 1 + n))
      else none

def wireLength (labels : List Bytes) : Nat :=
  (labels.map fun label => label.length + 1).sum

@[simp] theorem wireLength_cons (label : Bytes) (rest : List Bytes) :
    wireLength (label :: rest) = label.length + 1 + wireLength rest := rfl

theorem cut_of_prefix {buf full : Bytes} (within : buf <+: full)
    {start stop : Nat} (inside : stop ≤ buf.length) :
    cut full start stop = cut buf start stop := by
  obtain ⟨behind, whole⟩ := within
  unfold cut
  rw [← whole]
  by_cases ordered : start ≤ buf.length
  · rw [List.drop_append_of_le_length ordered, List.take_append_of_le_length]
    rw [List.length_drop]
    omega
  · have empty : stop - start = 0 := by omega
    rw [empty, List.take_zero, List.take_zero]

theorem cellAt_extends {buf full : Bytes} (within : buf <+: full) :
    Cells.Extends (cellAt buf) (cellAt full) := by
  intro off cell found
  have shorter := within.length_le
  unfold cellAt at found ⊢
  cases here : buf[off]? with
  | none =>
      rw [here] at found
      cases found
  | some byte =>
      rw [here] at found
      obtain ⟨inside, value⟩ := List.getElem?_eq_some_iff.mp here
      rw [List.prefix_iff_getElem?.mp within off inside, value]
      simp only at found ⊢
      split at found
      · rename_i zero
        rw [if_pos zero]
        exact found
      · rename_i nonzero
        rw [if_neg nonzero]
        split at found
        · rename_i pointer
          rw [if_pos ⟨pointer.1, by omega⟩, cut_of_prefix within pointer.2]
          exact found
        · rename_i noPointer
          split at found
          · rename_i label
            have differs : ¬(byte.toNat &&& 0xc0 = 0xc0 ∧
                off + 2 ≤ full.length) := by
              intro both
              have clash := both.1.symm.trans label.1
              contradiction
            rw [if_neg differs, if_pos ⟨label.1, by omega⟩,
              cut_of_prefix within label.2]
            exact found
          · cases found

theorem getElem?_front (front : Bytes) (byte : UInt8) (behind : Bytes) :
    (front ++ byte :: behind)[front.length]? = some byte := by
  rw [List.getElem?_append_right (Nat.le_refl _), Nat.sub_self]
  rfl

theorem cellAt_root (front : Bytes) :
    cellAt (front ++ [0]) front.length = some (.stop (front.length + 1)) := by
  unfold cellAt
  rw [getElem?_front]
  rfl

theorem top_bits_of_label {n : Nat} (short : n ≤ 63) : n &&& 0xc0 = 0 := by
  have table : ∀ n < 64, n &&& 0xc0 = 0 := by decide
  exact table n (by omega)

theorem top_bits_of_pointer {n : Nat} (small : n < 64) :
    (0xc0 + n) &&& 0xc0 = 0xc0 := by
  have table : ∀ n < 64, (0xc0 + n) &&& 0xc0 = 0xc0 := by decide
  exact table n small

theorem cellAt_label (front : Bytes) {label : Bytes} (nonempty : label ≠ [])
    (short : label.length ≤ 63) :
    cellAt (front ++ UInt8.ofNat label.length :: label) front.length =
      some (.item label (front.length + 1 + label.length)) := by
  have positive := List.length_pos_iff.mpr nonempty
  have size : (UInt8.ofNat label.length).toNat = label.length := by
    rw [UInt8.toNat_ofNat']
    omega
  have bits := top_bits_of_label short
  unfold cellAt
  rw [getElem?_front]
  simp only [size]
  have content : cut (front ++ UInt8.ofNat label.length :: label)
      (front.length + 1) (front.length + 1 + label.length) = label := by
    have placed := cut_append (front ++ [UInt8.ofNat label.length]) label []
    rw [List.append_nil, List.append_assoc, List.singleton_append,
      List.length_append, List.length_singleton] at placed
    exact placed
  rw [if_neg (by omega), if_neg (by rw [bits]; omega), if_pos, content]
  refine ⟨bits, ?_⟩
  rw [List.length_append, List.length_cons]
  omega

/-- Fourteen bits of a pointer survive. -/
theorem cellAt_pointer (front : Bytes) {ptr : Nat} (low : ptr < 0x4000) :
    cellAt (front ++ beBytes 2 (0xc000 ||| ptr)) front.length =
      some (.jump ptr (front.length + 2)) := by
  have sum : 0xc000 ||| ptr = 0xc000 + ptr :=
    (Nat.two_pow_add_eq_or_of_lt (i := 14) low 3).symm
  rw [sum]
  have target : (0xc000 + ptr) &&& 0x3fff = ptr := by
    rw [show 0x3fff = 2 ^ 14 - 1 from rfl, Nat.and_two_pow_sub_one_eq_mod]
    omega
  have bytes : beBytes 2 (0xc000 + ptr) =
      [UInt8.ofNat ((0xc000 + ptr) / 256), UInt8.ofNat (0xc000 + ptr)] := rfl
  have first : (UInt8.ofNat ((0xc000 + ptr) / 256)).toNat =
      0xc0 + ptr / 256 := by
    rw [UInt8.toNat_ofNat']
    omega
  have bits : (0xc0 + ptr / 256) &&& 0xc0 = 0xc0 :=
    top_bits_of_pointer (by omega)
  have content := cut_append front (beBytes 2 (0xc000 + ptr)) []
  rw [List.append_nil, beBytes_length] at content
  have length : (front ++ beBytes 2 (0xc000 + ptr)).length =
      front.length + 2 := by
    rw [List.length_append, beBytes_length]
  unfold cellAt
  rw [content, length, beNat_beBytes (by omega), target, bytes, getElem?_front]
  simp only [first]
  rw [if_neg (by omega), if_pos ⟨bits, Nat.le_refl _⟩]

variable {buf : Bytes} {off startOff savedOff nameLength next target : Nat}
  {name : List Bytes} {label : Bytes}

theorem unpackLabels_stop (at_cell : cellAt buf off = some (.stop next)) :
    unpackLabels buf off startOff savedOff nameLength name =
      .ok (name, if savedOff = 0 then next else savedOff) := by
  unfold cellAt at at_cell
  cases here : buf[off]? with
  | none =>
      rw [here] at at_cell
      cases at_cell
  | some byte =>
      rw [here] at at_cell
      obtain ⟨inside, value⟩ := List.getElem?_eq_some_iff.mp here
      unfold unpackLabels
      simp only [dif_pos inside, value] at at_cell ⊢
      split at at_cell
      · rename_i zero
        rw [Option.some.injEq, Cell.stop.injEq] at at_cell
        rw [if_pos zero, at_cell]
      · split at at_cell
        · cases at_cell
        · split at at_cell <;> cases at_cell

theorem unpackLabels_item (at_cell : cellAt buf off = some (.item label next))
    (fits : nameLength + (label.length + 1) ≤ 255) :
    unpackLabels buf off startOff savedOff nameLength name =
      unpackLabels buf next startOff savedOff
        (nameLength + (label.length + 1)) (name ++ [label]) := by
  unfold cellAt at at_cell
  cases here : buf[off]? with
  | none =>
      rw [here] at at_cell
      cases at_cell
  | some byte =>
      rw [here] at at_cell
      obtain ⟨inside, value⟩ := List.getElem?_eq_some_iff.mp here
      rw [unpackLabels]
      simp only [dif_pos inside, value] at at_cell ⊢
      split at at_cell
      · cases at_cell
      · rename_i nonzero
        split at at_cell
        · cases at_cell
        · rename_i noPointer
          split at at_cell
          · rename_i found
            rw [Option.some.injEq, Cell.item.injEq] at at_cell
            have size : label.length = byte.toNat := by
              rw [← at_cell.1, cut, List.length_take, List.length_drop]
              omega
            have notBoth : ¬(byte.toNat &&& 0xc0 = 0xc0) := by
              rw [found.1]
              decide
            rw [if_neg nonzero, if_neg notBoth, if_pos found.1,
              if_neg (by omega), at_cell.1, at_cell.2, size]
          · cases at_cell

theorem unpackLabels_jump (at_cell : cellAt buf off = some (.jump target next))
    (below : target < startOff) :
    0 < next ∧ unpackLabels buf off startOff savedOff nameLength name =
      unpackLabels buf target target
        (if savedOff = 0 then next else savedOff) nameLength name := by
  unfold cellAt at at_cell
  cases here : buf[off]? with
  | none =>
      rw [here] at at_cell
      cases at_cell
  | some byte =>
      rw [here] at at_cell
      obtain ⟨inside, value⟩ := List.getElem?_eq_some_iff.mp here
      rw [unpackLabels]
      simp only [dif_pos inside, value] at at_cell ⊢
      split at at_cell
      · cases at_cell
      · rename_i nonzero
        split at at_cell
        · rename_i found
          rw [Option.some.injEq, Cell.jump.injEq] at at_cell
          have two : (cut buf off (off + 2)).length = 2 := by
            rw [cut, List.length_take, List.length_drop]
            omega
          have forward : ¬(beNat (cut buf off (off + 2)) &&& 0x3fff) ≥
              startOff := by
            rw [at_cell.1]
            omega
          refine ⟨by omega, ?_⟩
          rw [if_neg nonzero, if_pos found.1, unpackBe, if_pos two, ok_bind,
            dif_neg forward, at_cell.1, at_cell.2]
        · split at at_cell <;> cases at_cell

/-- The reader follows the cells: it appends their labels and ends where the
sequence in place ends. -/
theorem unpackLabels_of_spells {labels : List Bytes} {behind : Nat}
    (spelled : Spells (cellAt buf) startOff off labels behind)
    (fits : nameLength + wireLength labels ≤ 255) :
    unpackLabels buf off startOff savedOff nameLength name =
      .ok (name ++ labels, if savedOff = 0 then behind else savedOff) := by
  induction spelled generalizing savedOff nameLength name with
  | stop at_cell => rw [unpackLabels_stop at_cell, List.append_nil]
  | item at_cell _rest ih =>
      rw [wireLength_cons] at fits
      rw [unpackLabels_item at_cell (by omega), ih (by omega),
        List.append_assoc, List.singleton_append]
  | jump at_cell below _rest ih =>
      obtain ⟨positive, read⟩ := unpackLabels_jump at_cell below
      rw [read, ih fits]
      by_cases unset : savedOff = 0
      · rw [if_pos unset, if_neg (by omega)]
      · rw [if_neg unset, if_neg unset]

end DpktNg.Dns
