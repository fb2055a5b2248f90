/-
Slices of a list, the overwriting of a slice, and the longest prefix of a
stream whose positions all lie in a given set.  A piece of a stream is
described by the prefix relation: a list `xs` sits in `stream` at `position`
when `xs` is a prefix of `stream.drop position`.

Where one list occurs in another: an element that the one does not have keeps its
occurrences on one side of it.
-/

import Mathlib

namespace DpktNg.Library

variable {α : Type}

/-- The elements at positions `start`, ..., `stop - 1` that exist. -/
def slice (xs : List α) (start stop : Nat) : List α :=
  (xs.drop start).take (stop - start)

theorem slice_length (xs : List α) (start stop : Nat) :
    (slice xs start stop).length = min stop xs.length - start := by
  simp only [slice, List.length_take, List.length_drop]
  omega

theorem slice_isPrefix (xs : List α) (start stop : Nat) :
    slice xs start stop <+: xs.drop start :=
  List.take_prefix _ _

/-- Overwrite the elements from `position` on by `ys`, growing the list when
`ys` reaches beyond its end. -/
def splice (xs : List α) (position : Nat) (ys : List α) : List α :=
  xs.take position ++ ys ++ xs.drop (position + ys.length)

theorem splice_length (xs ys : List α) (position : Nat)
    (inside : position ≤ xs.length) :
    (splice xs position ys).length = max xs.length (position + ys.length) := by
  simp only [splice, List.length_append, List.length_take, List.length_drop]
  omega

theorem splice_isPrefix {xs ys stream : List α} {position : Nat}
    (left : xs <+: stream) (right : ys <+: stream.drop position)
    (inside : position ≤ xs.length) :
    splice xs position ys <+: stream := by
  have leftAt := List.prefix_iff_getElem?.mp left
  have rightAt := List.prefix_iff_getElem?.mp right
  rw [List.prefix_iff_getElem?]
  intro index within
  rw [splice_length xs ys position inside] at within
  simp only [splice, List.getElem_append, List.length_append, List.length_take]
  split
  · rename_i early
    split
    · rename_i first
      rw [List.getElem_take]
      exact leftAt index (by omega)
    · -- the position lies in the overwriting piece
      have found := rightAt (index - min position xs.length) (by omega)
      rw [List.getElem?_drop] at found
      rw [← found]
      congr 1
      omega
  · -- the position lies behind the overwriting piece
    rw [List.getElem_drop]
    have found := leftAt
      (position + ys.length + (index - (min position xs.length + ys.length)))
      (by omega)
    rw [← found]
    congr 1
    omega

theorem append_isPrefix {xs ys stream : List α} (left : xs <+: stream)
    (right : ys <+: stream.drop xs.length) : xs ++ ys <+: stream := by
  obtain ⟨rest, rfl⟩ := left
  rw [List.drop_left] at right
  exact (List.prefix_append_right_inj xs).mpr right

/-- Two pieces of a stream, one behind the other. -/
theorem append_isPrefix_drop {xs ys stream : List α} {position : Nat}
    (together : xs ++ ys <+: stream.drop position) :
    xs <+: stream.drop position ∧ ys <+: stream.drop (position + xs.length) := by
  obtain ⟨rest, same⟩ := together
  constructor
  · exact ⟨ys ++ rest, by rw [← List.append_assoc, same]⟩
  · refine ⟨rest, ?_⟩
    rw [← List.drop_drop, ← same, List.append_assoc, List.drop_left]

theorem prefix_eq_take {xs stream : List α} (isPrefix : xs <+: stream) :
    xs = stream.take xs.length :=
  List.prefix_iff_eq_take.mp isPrefix

theorem intercalate_append (sep : List α) {pieces : List (List α)}
    (present : pieces ≠ []) :
    sep.intercalate pieces ++ sep = (pieces.map (· ++ sep)).flatten := by
  induction pieces with
  | nil => exact absurd rfl present
  | cons piece rest ih =>
      cases rest with
      | nil => simp
      | cons next rest =>
          rw [List.intercalate_cons_cons, List.append_assoc,
            ih (List.cons_ne_nil next rest)]
          rfl

theorem splitOn_terminated [DecidableEq α] {sep : α} {pieces : List (List α)}
    (free : ∀ piece ∈ pieces, sep ∉ piece) :
    (pieces.map (· ++ [sep])).flatten.splitOn sep = pieces ++ [[]] := by
  induction pieces with
  | nil => rfl
  | cons piece rest ih =>
      rw [List.forall_mem_cons] at free
      rw [List.map_cons, List.flatten_cons, List.append_assoc,
        List.singleton_append,
        List.splitOn_append_cons_self_of_not_mem free.1, ih free.2]
      rfl

theorem takeWhile_of_all {p : α → Bool} {front : List α}
    (all : front.all p = true) (rest : List α) :
    (front ++ rest).takeWhile p = front ++ rest.takeWhile p :=
  List.takeWhile_append_of_pos (List.all_eq_true.mp all)

theorem take_all_length {p : α → Bool} {xs : List α} {count : Nat}
    (all : (xs.take count).all p = true) :
    (xs.take count).length ≤ (xs.takeWhile p).length := by
  have front := takeWhile_of_all all (xs.drop count)
  rw [List.take_append_drop] at front
  rw [front, List.length_append]
  exact Nat.le_add_right _ _

/-- `count` is the length of the longest prefix of the positions below
`bound` that lies in `covered`. -/
def LongestPrefix (covered : Set Nat) (bound count : Nat) : Prop :=
  IsGreatest {n | n ≤ bound ∧ ∀ position < n, position ∈ covered} count

/-- A prefix that stops at a missing position is the longest one. -/
theorem longestPrefix_of_missing {covered : Set Nat} {bound count : Nat}
    (within : count ≤ bound)
    (present : ∀ position < count, position ∈ covered)
    (missing : count ∉ covered) : LongestPrefix covered bound count := by
  refine ⟨⟨within, present⟩, ?_⟩
  rintro n ⟨_bounded, all⟩
  by_contra longer
  exact missing (all count (by omega))

theorem LongestPrefix.complete_iff {covered : Set Nat} {bound count : Nat}
    (longest : LongestPrefix covered bound count) :
    count = bound ↔ ∀ position < bound, position ∈ covered := by
  constructor
  · intro reached
    rw [← reached]
    exact longest.1.2
  · intro all
    exact Nat.le_antisymm longest.1.1 (longest.2 ⟨Nat.le_refl bound, all⟩)

variable {α : Type} {needle xs ys : List α} {barrier : α}

theorem prefix_barrier (absent : barrier ∉ needle) :
    needle <+: xs ++ barrier :: ys ↔ needle <+: xs := by
  induction xs generalizing needle with
  | nil =>
      cases needle with
      | nil => exact iff_of_true List.nil_prefix List.nil_prefix
      | cons x rest =>
          rw [List.mem_cons, not_or] at absent
          rw [List.nil_append, List.cons_prefix_cons]
          exact iff_of_false (fun both => absent.1 both.1.symm)
            (fun impossible => List.cons_ne_nil x rest
              (List.prefix_nil.mp impossible))
  | cons y xs ih =>
      cases needle with
      | nil => exact iff_of_true List.nil_prefix List.nil_prefix
      | cons x rest =>
          rw [List.mem_cons, not_or] at absent
          rw [List.cons_append, List.cons_prefix_cons, List.cons_prefix_cons,
            ih absent.2]

theorem infix_barrier (absent : barrier ∉ needle) :
    needle <:+: xs ++ barrier :: ys ↔ needle <:+: xs ∨ needle <:+: ys := by
  induction xs with
  | nil =>
      have front := @prefix_barrier α needle [] ys barrier absent
      rw [List.nil_append] at front
      rw [List.nil_append, List.infix_cons_iff, front, List.prefix_nil,
        List.infix_nil]
  | cons x xs ih =>
      have front := @prefix_barrier α needle (x :: xs) ys barrier absent
      rw [List.cons_append] at front
      rw [List.cons_append, List.infix_cons_iff, ih, front,
        List.infix_cons_iff, or_assoc]

end DpktNg.Library
