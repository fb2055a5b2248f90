/-
`in` and `split` of byte strings with a separator of several bytes, and patterns
that search for a literal.
-/

import DpktNg.Library.Slices
import DpktNg.Python.Lines

namespace DpktNg

open Library

/-- `needle in buf` -/
def containsBytes (needle buf : Bytes) : Bool := (findBytes needle buf).isSome

/-- `buf.split(sep)`, of a separator that is not empty. -/
def splitBytes (sep buf : Bytes) : List Bytes :=
  if sep = [] then [buf]
  else
    match _found : findBytes sep buf with
    | none => [buf]
    | some index =>
        buf.take index :: splitBytes sep (buf.drop (index + sep.length))
termination_by buf.length
decreasing_by
  rename_i some_sep
  have bound := (findBytes_bound _found).resolve_left some_sep
  have positive := List.length_pos_iff.mpr some_sep
  rw [List.length_drop]
  omega

/-- A literal, as it stands, followed by a pattern. -/
def exactThen {α : Type} (literal : Bytes) (matchAt : Pattern α) : Pattern α :=
  fun bytes =>
    if bytes.take literal.length = literal then
      matchAt (bytes.drop literal.length)
    else none

theorem findBytes_eq_none {needle buf : Bytes} :
    findBytes needle buf = none ↔ ¬needle <:+: buf := by
  induction buf with
  | nil =>
      unfold findBytes
      rw [List.infix_nil]
      split
      · rename_i empty
        exact iff_of_false (Option.some_ne_none 0) (not_not_intro empty)
      · rename_i some_needle
        exact iff_of_true rfl some_needle
  | cons byte rest ih =>
      unfold findBytes
      rw [List.infix_cons_iff, not_or, ← ih]
      split
      · rename_i here
        exact iff_of_false (Option.some_ne_none 0)
          (fun both => both.1 (List.isPrefixOf_iff_prefix.mp here))
      · rename_i elsewhere
        rw [Option.map_eq_none_iff]
        exact ⟨fun none => ⟨fun here =>
          elsewhere (List.isPrefixOf_iff_prefix.mpr here), none⟩, And.right⟩

theorem containsBytes_iff {needle buf : Bytes} :
    containsBytes needle buf = true ↔ needle <:+: buf := by
  unfold containsBytes
  rw [← not_iff_not, Bool.not_eq_true, Option.isSome_eq_false_iff,
    Option.isNone_iff_eq_none, findBytes_eq_none]

/-- The needle behind the front is its first occurrence. -/
def FirstIn (needle front : Bytes) : Prop :=
  findBytes needle (front ++ needle) = some front.length

instance (needle front : Bytes) : Decidable (FirstIn needle front) :=
  inferInstanceAs
    (Decidable (findBytes needle (front ++ needle) = some front.length))

section

variable {needle front rest : Bytes}

theorem firstIn_iff : FirstIn needle front ↔
    ∀ j < front.length, ¬needle <+: (front ++ needle).drop j := by
  unfold FirstIn
  rw [findBytes_eq_some, List.drop_left]
  exact and_iff_right (List.prefix_refl needle)

theorem FirstIn.find (first : FirstIn needle front) (rest : Bytes) :
    findBytes needle (front ++ (needle ++ rest)) = some front.length := by
  refine findBytes_congr first ?_
  rw [← List.append_assoc, ← List.length_append, List.take_left,
    List.take_length]

theorem firstIn_nil : FirstIn needle [] :=
  firstIn_iff.mpr fun _j impossible => absurd impossible (Nat.not_lt_zero _)

theorem FirstIn.behind {barrier : UInt8} (absent : barrier ∉ needle)
    (free : ¬needle <:+: front) (first : FirstIn needle rest) :
    FirstIn needle (front ++ barrier :: rest) := by
  rw [firstIn_iff] at first ⊢
  intro j earlier here
  rw [List.length_append, List.length_cons] at earlier
  rw [List.append_assoc, List.cons_append] at here
  by_cases inFront : j ≤ front.length
  · rw [List.drop_append_of_le_length inFront, prefix_barrier absent] at here
    exact free (here.isInfix.trans (List.drop_suffix j front).isInfix)
  · have moved : (front ++ barrier :: (rest ++ needle)).drop j =
        (rest ++ needle).drop (j - (front.length + 1)) := by
      obtain ⟨more, same⟩ := Nat.exists_eq_add_of_lt (Nat.not_le.mp inFront)
      have split : front ++ barrier :: (rest ++ needle) =
          (front ++ [barrier]) ++ (rest ++ needle) := by
        rw [List.append_assoc]
        rfl
      have length : (front ++ [barrier]).length = front.length + 1 :=
        List.length_append
      rw [split, ← length, List.drop_append,
        List.drop_eq_nil_of_le (by omega), List.nil_append]
    rw [moved] at here
    exact first _ (by omega) here

theorem exists_firstIn {buf : Bytes} (occurs : needle <:+: buf) :
    ∃ front behind, buf = front ++ (needle ++ behind) ∧
      FirstIn needle front := by
  obtain ⟨index, found⟩ := Option.ne_none_iff_exists'.mp
    (mt findBytes_eq_none.mp (not_not_intro occurs))
  obtain ⟨⟨behind, here⟩, first⟩ := findBytes_eq_some.mp found
  have whole : buf = buf.take index ++ (needle ++ behind) := by
    rw [here, List.take_append_drop]
  refine ⟨buf.take index, behind, whole, firstIn_iff.mpr ?_⟩
  intro j earlier inside
  rw [List.length_take] at earlier
  have isPrefix : buf.take index ++ needle <+: buf :=
    ⟨behind, (List.append_assoc _ _ _).trans whole.symm⟩
  exact first j (by omega) (inside.trans (isPrefix.drop j))

theorem FirstIn.tail {byte : UInt8} (first : FirstIn needle (byte :: front)) :
    ¬needle <+: byte :: (front ++ needle) ∧ FirstIn needle front := by
  rw [firstIn_iff] at first
  refine ⟨first 0 (Nat.zero_lt_succ _), firstIn_iff.mpr fun j earlier => ?_⟩
  exact first (j + 1) (Nat.succ_lt_succ earlier)

end

section

variable {sep buf front piece : Bytes}

theorem splitBytes_alone (free : ¬sep <:+: buf) : splitBytes sep buf = [buf] := by
  rw [splitBytes]
  split
  · rfl
  · split
    · rfl
    · rename_i index found
      rw [findBytes_eq_none.mpr free] at found
      cases found

theorem splitBytes_find (some_sep : sep ≠ []) {index : Nat}
    (found : findBytes sep buf = some index) :
    splitBytes sep buf =
      buf.take index :: splitBytes sep (buf.drop (index + sep.length)) := by
  rw [splitBytes, if_neg some_sep]
  split
  · rename_i none
    rw [found] at none
    cases none
  · rename_i other same
    rw [found, Option.some.injEq] at same
    rw [same]

theorem splitBytes_first (some_sep : sep ≠ []) (first : FirstIn sep front)
    (rest : Bytes) :
    splitBytes sep (front ++ (sep ++ rest)) = front :: splitBytes sep rest := by
  rw [splitBytes_find some_sep (first.find rest), List.take_left,
    ← List.drop_drop, List.drop_left, List.drop_left]

/-- No piece holds the separator. -/
theorem splitBytes_free (some_sep : sep ≠ [])
    (member : piece ∈ splitBytes sep buf) : ¬sep <:+: piece := by
  fun_induction splitBytes sep buf with
  | case1 buf empty => exact absurd empty some_sep
  | case2 buf present found =>
      rw [List.mem_singleton.mp member]
      exact findBytes_eq_none.mp found
  | case3 buf present index found ih =>
      rcases List.mem_cons.mp member with rfl | later
      · rw [← findBytes_eq_none]
        by_contra occurs
        obtain ⟨j, here⟩ := Option.ne_none_iff_exists'.mp occurs
        have bound := (findBytes_bound here).resolve_left some_sep
        have positive := List.length_pos_iff.mpr some_sep
        rw [List.length_take] at bound
        have isPrefix := (findBytes_eq_some.mp here).1
        rw [List.drop_take] at isPrefix
        exact (findBytes_eq_some.mp found).2 j (by omega)
          (isPrefix.trans (List.take_prefix _ _))
      · exact ih later

end

section

variable {α : Type} {literal front : Bytes} {matchAt : Pattern α} {value : α}

theorem searchBytes_first (first : FirstIn literal front) {rest : Bytes}
    (matched : matchAt rest = some value) :
    searchBytes (exactThen literal matchAt) (front ++ (literal ++ rest)) =
      some value := by
  have here : exactThen literal matchAt (literal ++ rest) = some value := by
    unfold exactThen
    rw [List.take_left, if_pos rfl, List.drop_left, matched]
  induction front with
  | nil =>
      rw [List.nil_append]
      cases whole : literal ++ rest with
      | nil =>
          rw [whole] at here
          exact here
      | cons byte others =>
          rw [whole] at here
          rw [searchBytes, here]
  | cons byte front ih =>
      obtain ⟨elsewhere, later⟩ := first.tail
      have none : exactThen literal matchAt
          (byte :: (front ++ (literal ++ rest))) = none := by
        refine if_neg fun same => elsewhere ?_
        have whole : byte :: (front ++ literal) <+:
            byte :: (front ++ (literal ++ rest)) := by
          rw [← List.append_assoc]
          exact List.prefix_append (byte :: (front ++ literal)) rest
        refine List.prefix_of_prefix_length_le
          (List.prefix_iff_eq_take.mpr same.symm) whole ?_
        rw [List.length_cons, List.length_append]
        omega
      rw [List.cons_append, searchBytes, none]
      exact ih later

theorem searchBytes_behind {buf : Bytes}
    (found : searchBytes (exactThen literal matchAt) buf = some value) :
    ∃ rest, literal ++ rest <:+ buf ∧ matchAt rest = some value := by
  have here {buf : Bytes} (found : exactThen literal matchAt buf = some value) :
      ∃ rest, literal ++ rest <:+ buf ∧ matchAt rest = some value := by
    unfold exactThen at found
    split at found
    · rename_i same
      refine ⟨buf.drop literal.length, ?_, found⟩
      have whole := List.take_append_drop literal.length buf
      rw [same] at whole
      rw [whole]
    · cases found
  induction buf with
  | nil => exact here found
  | cons byte rest ih =>
      rw [searchBytes] at found
      split at found
      · rename_i captured atFront
        cases found
        exact here atFront
      · obtain ⟨behind, inside, matched⟩ := ih found
        exact ⟨behind, inside.trans (List.suffix_cons byte rest), matched⟩

end

end DpktNg
