/-
Lists that are taken apart chunk by chunk.  How long the chunk in front is, if
a whole one stands there, is read off the list; where none stands, the rest is
left.
-/

import Mathlib

namespace DpktNg.Library

variable {α : Type}

/-- How long the chunk in front is.  It is within the list, has elements, and
does not depend on what stands behind it. -/
structure Cutter (α : Type) where
  next : List α → Option Nat
  positive : ∀ {xs size}, next xs = some size → 0 < size
  within : ∀ {xs size}, next xs = some size → size ≤ xs.length
  behind : ∀ {xs : List α} (rest : List α), next xs = some xs.length →
    next (xs ++ rest) = some xs.length
  alone : ∀ {xs size}, next xs = some size → next (xs.take size) = some size

namespace Cutter

variable (cutter : Cutter α)

/-- The chunks of a list, up to where none is whole. -/
def chunks (xs : List α) : List (List α) :=
  match _here : cutter.next xs with
  | none => []
  | some size => xs.take size :: chunks (xs.drop size)
termination_by xs.length
decreasing_by
  have positive := cutter.positive _here
  have within := cutter.within _here
  rw [List.length_drop]
  omega

/-- The list is one chunk. -/
def Whole (chunk : List α) : Prop := cutter.next chunk = some chunk.length

variable {cutter} {xs rest chunk : List α} {found : List (List α)}

theorem chunks_none (stops : cutter.next xs = none) : cutter.chunks xs = [] := by
  rw [chunks]
  split
  · rfl
  · rename_i size here
    rw [stops] at here
    cases here

theorem chunks_some {size : Nat} (here : cutter.next xs = some size) :
    cutter.chunks xs = xs.take size :: cutter.chunks (xs.drop size) := by
  rw [chunks]
  split
  · rename_i stops
    rw [stops] at here
    cases here
  · rename_i other same
    rw [here, Option.some.injEq] at same
    rw [same]

theorem chunks_append (whole : cutter.Whole chunk) (rest : List α) :
    cutter.chunks (chunk ++ rest) = chunk :: cutter.chunks rest := by
  rw [chunks_some (cutter.behind rest whole), List.take_left, List.drop_left]

theorem chunks_flatten_append (whole : ∀ chunk ∈ found, cutter.Whole chunk)
    (rest : List α) :
    cutter.chunks (found.flatten ++ rest) = found ++ cutter.chunks rest := by
  induction found with
  | nil => rfl
  | cons chunk others ih =>
      rw [List.forall_mem_cons] at whole
      rw [List.flatten_cons, List.append_assoc, chunks_append whole.1,
        ih whole.2, List.cons_append]

/-- Behind the last whole chunk the cutter stops. -/
theorem chunks_whole (whole : ∀ chunk ∈ found, cutter.Whole chunk)
    (stops : cutter.next rest = none) :
    cutter.chunks (found.flatten ++ rest) = found := by
  rw [chunks_flatten_append whole, chunks_none stops, List.append_nil]

/-- The chunks are whole, and stand in front of a rest where the cutter
stops. -/
theorem chunks_spec (cutter : Cutter α) (xs : List α) :
    (∀ chunk ∈ cutter.chunks xs, cutter.Whole chunk) ∧
      ∃ rest, xs = (cutter.chunks xs).flatten ++ rest ∧
        cutter.next rest = none := by
  induction length : xs.length using Nat.strong_induction_on
    generalizing xs with
  | h length' ih =>
      cases here : cutter.next xs with
      | none =>
          rw [chunks_none here]
          exact ⟨List.forall_mem_nil _, xs, rfl, here⟩
      | some size =>
          have positive := cutter.positive here
          have within := cutter.within here
          have whole : cutter.Whole (xs.take size) := by
            unfold Whole
            rw [List.length_take_of_le within]
            exact cutter.alone here
          obtain ⟨others, rest, split, stops⟩ :=
            ih (xs.drop size).length (by rw [List.length_drop]; omega) _ rfl
          rw [chunks_some here]
          refine ⟨List.forall_mem_cons.mpr ⟨whole, others⟩, rest, ?_, stops⟩
          rw [List.flatten_cons, List.append_assoc, ← split,
            List.take_append_drop]

/-- A list has these chunks where they stand in front of it and the cutter stops
behind them. -/
theorem chunks_eq_iff (whole : ∀ chunk ∈ found, cutter.Whole chunk) :
    cutter.chunks xs = found ↔
      found.flatten <+: xs ∧
        cutter.next (xs.drop found.flatten.length) = none := by
  constructor
  · rintro rfl
    obtain ⟨_whole, rest, split, stops⟩ := chunks_spec cutter xs
    have behind : ((cutter.chunks xs).flatten ++ rest).drop
        (cutter.chunks xs).flatten.length = rest := List.drop_left
    rw [← split] at behind
    rw [behind]
    exact ⟨⟨rest, split.symm⟩, stops⟩
  · rintro ⟨⟨rest, rfl⟩, stops⟩
    rw [List.drop_left] at stops
    exact chunks_whole whole stops

section Header

variable (header : Nat) (length : List α → Nat)

/-- A chunk begins with a header of a fixed size, from which its length is read;
the length counts the header. -/
def headerNext (xs : List α) : Option Nat :=
  if header ≤ xs.length ∧ header ≤ length xs ∧ length xs ≤ xs.length then
    some (length xs)
  else none

variable {header} {length}

theorem headerNext_eq_some {size : Nat} :
    headerNext header length xs = some size ↔
      header ≤ xs.length ∧ header ≤ size ∧ size ≤ xs.length ∧
        length xs = size := by
  unfold headerNext
  split
  · rename_i whole
    rw [Option.some.injEq]
    constructor
    · rintro rfl
      exact ⟨whole.1, whole.2.1, whole.2.2, rfl⟩
    · exact fun same => same.2.2.2
  · rename_i partly
    constructor
    · intro impossible
      cases impossible
    · rintro ⟨enough, least, within, rfl⟩
      exact absurd ⟨enough, least, within⟩ partly

theorem headerNext_eq_none :
    headerNext header length xs = none ↔
      xs.length < header ∨ length xs < header ∨ xs.length < length xs := by
  unfold headerNext
  split
  · rename_i whole
    refine iff_of_false (Option.some_ne_none _) ?_
    omega
  · rename_i partly
    refine iff_of_true rfl ?_
    omega

variable (header) (length) in
/-- The length is read from the header alone. -/
def ofHeader (positive : 0 < header)
    (reads : ∀ xs, header ≤ xs.length →
      length (xs.take header) = length xs) : Cutter α where
  next := headerNext header length
  positive := by
    intro xs size here
    have least := (headerNext_eq_some.mp here).2.1
    omega
  within here := (headerNext_eq_some.mp here).2.2.1
  behind := by
    intro xs rest here
    obtain ⟨enough, least, within, same⟩ := headerNext_eq_some.mp here
    have more : header ≤ (xs ++ rest).length := by
      rw [List.length_append]
      omega
    refine headerNext_eq_some.mpr ⟨more, least, ?_, ?_⟩
    · rw [List.length_append]
      omega
    · rw [← reads _ more, List.take_append_of_le_length enough, reads _ enough]
      exact same
  alone := by
    intro xs size here
    obtain ⟨enough, least, within, same⟩ := headerNext_eq_some.mp here
    have sized : (xs.take size).length = size := List.length_take_of_le within
    refine headerNext_eq_some.mpr ⟨by omega, least, by omega, ?_⟩
    rw [← reads _ (by omega), List.take_take, Nat.min_eq_left least,
      reads _ enough]
    exact same

variable {positive : 0 < header}
  {reads : ∀ xs : List α, header ≤ xs.length →
    length (xs.take header) = length xs}

theorem ofHeader_eq_some {size : Nat} :
    (ofHeader header length positive reads).next xs = some size ↔
      header ≤ xs.length ∧ header ≤ size ∧ size ≤ xs.length ∧
        length xs = size :=
  headerNext_eq_some

theorem ofHeader_eq_none :
    (ofHeader header length positive reads).next xs = none ↔
      xs.length < header ∨ length xs < header ∨ xs.length < length xs :=
  headerNext_eq_none

end Header

end Cutter

end DpktNg.Library
