/-
Reading a buffer at fixed places, a byte by its index or an integer from a
slice.  Whether such a reader gets to its end depends on the length of the buffer
only; a missing byte is an `IndexError`, and a slice that is cut short a
`struct.error`.
-/

import DpktNg.Python.Struct

namespace DpktNg

open Library

/-- A byte by its index, or an unsigned integer from a slice. -/
inductive FixedRead where
  | byte (index : Nat)
  | number (start stop : Nat)

def FixedRead.failure (buf : Bytes) : FixedRead → Option PyError
  | .byte index => if index < buf.length then none else some .indexError
  | .number _ stop => if stop ≤ buf.length then none else some .structError

/-- What goes wrong first, if anything does. -/
def firstFailure (buf : Bytes) (reads : List FixedRead) : Option PyError :=
  reads.findSome? (FixedRead.failure buf)

/-- A computation that fails with the first of these reads, and otherwise yields
one of the good results. -/
def Follows {α : Type} (buf : Bytes) (reads : List FixedRead)
    (good : α → Prop) (result : Except PyError α) : Prop :=
  match firstFailure buf reads with
  | some problem => result = .error problem
  | none => ∃ value, result = .ok value ∧ good value

section Reads

variable {α : Type} {buf : Bytes} {reads : List FixedRead} {good : α → Prop}

theorem firstFailure_cons (buf : Bytes) (read : FixedRead)
    (reads : List FixedRead) :
    firstFailure buf (read :: reads) =
      (read.failure buf).or (firstFailure buf reads) := by
  unfold firstFailure
  rw [List.findSome?_cons]
  cases read.failure buf with
  | none => rfl
  | some problem => rfl

@[simp] theorem firstFailure_nil (buf : Bytes) : firstFailure buf [] = none :=
  rfl

theorem firstFailure_eq_some {problem : PyError}
    (failed : firstFailure buf reads = some problem) :
    problem = .indexError ∨ problem = .structError := by
  obtain ⟨read, _member, here⟩ := List.exists_of_findSome?_eq_some failed
  cases read with
  | byte index =>
      rw [FixedRead.failure] at here
      split at here
      · cases here
      · exact Or.inl (Option.some.inj here).symm
  | number start stop =>
      rw [FixedRead.failure] at here
      split at here
      · cases here
      · exact Or.inr (Option.some.inj here).symm

@[simp] theorem indexError_byte (index : Nat) :
    firstFailure buf (.byte index :: reads) = some .indexError ↔
      index < buf.length → firstFailure buf reads = some .indexError := by
  rw [firstFailure_cons, FixedRead.failure]
  by_cases inside : index < buf.length
  · rw [if_pos inside, Option.none_or]
    exact ⟨fun later _inside => later, fun later => later inside⟩
  · rw [if_neg inside]
    exact iff_of_true rfl fun impossible => absurd impossible inside

@[simp] theorem indexError_number (start stop : Nat) :
    firstFailure buf (.number start stop :: reads) = some .indexError ↔
      stop ≤ buf.length ∧ firstFailure buf reads = some .indexError := by
  rw [firstFailure_cons, FixedRead.failure]
  by_cases inside : stop ≤ buf.length
  · rw [if_pos inside, Option.none_or]
    exact ⟨fun later => ⟨inside, later⟩, And.right⟩
  · rw [if_neg inside]
    refine iff_of_false ?_ fun both => inside both.1
    intro impossible
    cases impossible

theorem Follows.byte (index : Nat) {rest : Nat → Except PyError α}
    (follows : ∀ value, Follows buf reads good (rest value)) :
    Follows buf (.byte index :: reads) good (byteAt buf index >>= rest) := by
  unfold Follows
  rw [firstFailure_cons, FixedRead.failure]
  by_cases inside : index < buf.length
  · rw [if_pos inside, byteAt_inside inside, ok_bind, Option.none_or]
    exact follows _
  · rw [if_neg inside, byteAt_outside (Nat.le_of_not_lt inside)]
    rfl

theorem Follows.inside {width start stop : Nat} (sized : start + width = stop)
    (inside : stop ≤ buf.length) {rest : Nat → Except PyError α}
    (follows : ∀ value, Follows buf reads good (rest value)) :
    Follows buf reads good (unpackBe width (cut buf start stop) >>= rest) := by
  have length := @cut_length_of_le buf start stop inside
  have unpacked : unpackBe width (cut buf start stop) =
      .ok (beNat (cut buf start stop)) :=
    unpackBe_eq_ok.mpr ⟨by omega, rfl⟩
  rw [unpacked, ok_bind]
  exact follows _

theorem Follows.number {width start stop : Nat} (sized : start + width = stop)
    (positive : 0 < width) {rest : Nat → Except PyError α}
    (follows : ∀ value, Follows buf reads good (rest value)) :
    Follows buf (.number start stop :: reads) good
      (unpackBe width (cut buf start stop) >>= rest) := by
  unfold Follows
  rw [firstFailure_cons, FixedRead.failure]
  by_cases inside : stop ≤ buf.length
  · rw [if_pos inside, Option.none_or]
    exact Follows.inside sized inside follows
  · have short : (cut buf start stop).length ≠ width := by
      unfold cut
      rw [List.length_take, List.length_drop]
      omega
    have refused : unpackBe width (cut buf start stop) = .error .structError :=
      if_neg short
    rw [if_neg inside, refused]
    rfl

theorem Follows.done {value : α} (kept : good value) :
    Follows buf [] good (.ok value) :=
  ⟨value, rfl, kept⟩

end Reads

end DpktNg
