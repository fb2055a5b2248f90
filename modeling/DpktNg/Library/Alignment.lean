/-
Parts that are laid out one behind the other, each at the next place that its
alignment divides, and reading them back.  What stands in between does not
matter.
-/

import Mathlib

namespace DpktNg.Library

/-- How far it is to the next multiple of the alignment. -/
def padding (align offset : Nat) : Nat :=
  if offset % align = 0 then 0 else align - offset % align

theorem dvd_add_padding {align : Nat} (positive : 0 < align) (offset : Nat) :
    align ∣ offset + padding align offset := by
  have less := Nat.mod_lt offset positive
  unfold padding
  split
  · rename_i aligned
    exact Nat.dvd_of_mod_eq_zero aligned
  · have split := Nat.div_add_mod offset align
    refine ⟨offset / align + 1, ?_⟩
    rw [Nat.mul_add]
    omega

theorem padding_lt {align : Nat} (positive : 0 < align) (offset : Nat) :
    padding align offset < align := by
  unfold padding
  split
  · exact positive
  · omega

theorem eq_padding {align offset pad : Nat} (less : pad < align)
    (aligned : align ∣ offset + pad) : pad = padding align offset := by
  have positive : 0 < align := Nat.zero_lt_of_lt less
  have bound := padding_lt positive offset
  have congruent : offset + pad ≡ offset + padding align offset [MOD align] :=
    (Nat.modEq_zero_iff_dvd.mpr aligned).trans
      (Nat.modEq_zero_iff_dvd.mpr (dvd_add_padding positive offset)).symm
  have same := Nat.ModEq.add_left_cancel' offset congruent
  rwa [Nat.ModEq, Nat.mod_eq_of_lt less, Nat.mod_eq_of_lt bound] at same

variable {ε α β Field : Type}

/-- Fields with their alignments and chunks are laid out from an offset on, each
at the next place that its alignment divides. -/
inductive LaidOut (align : Field → Nat) (chunk : Field → List α) :
    Nat → List Field → List α → Prop
  | nil {offset : Nat} : LaidOut align chunk offset [] []
  | cons {offset : Nat} {field : Field} {rest : List Field}
      {pad behind : List α} (less : pad.length < align field)
      (aligned : align field ∣ offset + pad.length)
      (others : LaidOut align chunk
        (offset + pad.length + (chunk field).length) rest behind) :
      LaidOut align chunk offset (field :: rest)
        (pad ++ (chunk field ++ behind))

/-- Fields one behind the other, with `filler` in between. -/
def layOut (align : Field → Nat) (chunk : Field → List α) (filler : α) :
    Nat → List Field → List α
  | _, [] => []
  | offset, field :: rest =>
      let pad := List.replicate (padding (align field) offset) filler
      pad ++ (chunk field ++
        layOut align chunk filler (offset + pad.length + (chunk field).length)
          rest)

theorem layOut_laidOut {align : Field → Nat} {fields : List Field}
    (positive : ∀ field ∈ fields, 0 < align field) (chunk : Field → List α)
    (filler : α) (offset : Nat) :
    LaidOut align chunk offset fields
      (layOut align chunk filler offset fields) := by
  induction fields generalizing offset with
  | nil => exact .nil
  | cons field rest ih =>
      rw [List.forall_mem_cons] at positive
      have length : (List.replicate (padding (align field) offset)
          filler).length = padding (align field) offset :=
        List.length_replicate
      refine .cons ?_ ?_ (ih positive.2 _)
      · rw [length]
        exact padding_lt positive.1 offset
      · rw [length]
        exact dvd_add_padding positive.1 offset

/-- What reads one item from the front of a list, with the number of elements
that it takes, where the item is aligned. -/
structure AlignedReader (ε α β : Type) where
  align : Nat
  read : List α → Except ε (β × Nat)

def readAligned : List (AlignedReader ε α β) → List α → Nat →
    Except ε (List β)
  | [], _, _ => .ok []
  | reader :: rest, buf, offset => do
      let pad := padding reader.align offset
      let item ← reader.read (buf.drop pad)
      let items ← readAligned rest (buf.drop (pad + item.2))
        (offset + pad + item.2)
      .ok (item.1 :: items)

theorem readAligned_laidOut {align : Field → Nat} {chunk : Field → List α}
    (read : Field → List α → Except ε (β × Nat)) (item : Field → β)
    {offset : Nat} {fields : List Field} {buf : List α}
    (laid : LaidOut align chunk offset fields buf)
    (reads : ∀ field ∈ fields, ∀ behind,
      read field (chunk field ++ behind) =
        .ok (item field, (chunk field).length))
    (behind : List α) :
    readAligned (fields.map fun field => ⟨align field, read field⟩)
      (buf ++ behind) offset = .ok (fields.map item) := by
  induction laid with
  | nil => rfl
  | @cons offset field others pad rest less aligned _laid ih =>
      rw [List.forall_mem_cons] at reads
      have skipped : padding (align field) offset = pad.length :=
        (eq_padding less aligned).symm
      have atChunk :
          (pad ++ (chunk field ++ rest) ++ behind).drop pad.length =
            chunk field ++ (rest ++ behind) := by
        rw [List.append_assoc, List.append_assoc, List.drop_left]
      have atRest :
          (pad ++ (chunk field ++ rest) ++ behind).drop
            (pad.length + (chunk field).length) = rest ++ behind := by
        rw [← List.drop_drop, atChunk, List.drop_left]
      have first := reads.1 (rest ++ behind)
      have further := ih reads.2
      rw [List.map_cons, readAligned]
      dsimp only
      rw [skipped, atChunk, first]
      change (readAligned _ (List.drop _ _) _ >>= _) = _
      rw [atRest, further]
      rfl

end DpktNg.Library
