/-
Texts cut at white space.  Which characters are white space is a parameter.  A
text is solid at an end when it is empty or ends there with another character.
-/

import Mathlib

namespace DpktNg.Library

variable {α β : Type} (space : α → Bool)

/-- A text without the white space at both ends. -/
def trim (xs : List α) : List α := (xs.dropWhile space).rdropWhile space

/-- The first so many words, and what follows from the next word on. -/
def wordsUpTo : Nat → List α → List (List α)
  | 0, xs =>
      if (xs.dropWhile space).isEmpty then [] else [xs.dropWhile space]
  | count + 1, xs =>
      if (xs.dropWhile space).isEmpty then []
      else
        (xs.dropWhile space).takeWhile (fun c => !space c) ::
          wordsUpTo count
            ((xs.dropWhile space).dropWhile fun c => !space c)

/-- All words; a text has no more of them than characters. -/
def words (xs : List α) : List (List α) := wordsUpTo space xs.length xs

def SolidFront (xs : List α) : Prop := ∀ c ∈ xs.head?, space c = false

def SolidBack (xs : List α) : Prop := ∀ c ∈ xs.getLast?, space c = false

/-- A word: some characters, and no white space among them. -/
structure IsWord (xs : List α) : Prop where
  present : xs ≠ []
  free : ∀ c ∈ xs, space c = false

variable {space}

theorem IsWord.solidFront {xs : List α} (word : IsWord space xs) :
    SolidFront space xs := by
  intro c first
  exact word.free c (List.mem_of_mem_head? first)

theorem IsWord.solidBack {xs : List α} (word : IsWord space xs) :
    SolidBack space xs := by
  intro c last
  exact word.free c (List.mem_of_mem_getLast? last)

theorem SolidFront.append {xs : List α} (solid : SolidFront space xs)
    (present : xs ≠ []) (ys : List α) : SolidFront space (xs ++ ys) := by
  unfold SolidFront
  rw [List.head?_append_of_ne_nil _ present]
  exact solid

theorem SolidBack.append {ys : List α} (solid : SolidBack space ys)
    (present : ys ≠ []) (xs : List α) : SolidBack space (xs ++ ys) := by
  unfold SolidBack
  rw [List.getLast?_append_of_ne_nil _ present]
  exact solid

theorem SolidBack.suffix {xs ys : List α} (solid : SolidBack space ys)
    (suffix : xs <:+ ys) : SolidBack space xs := by
  obtain ⟨front, rfl⟩ := suffix
  intro c last
  apply solid c
  rw [List.getLast?_append, Option.mem_def.mp last]
  rfl

theorem SolidFront.prefix_ {xs ys : List α} (solid : SolidFront space ys)
    (isPrefix : xs <+: ys) : SolidFront space xs := by
  obtain ⟨behind, rfl⟩ := isPrefix
  intro c first
  apply solid c
  rw [List.head?_append, Option.mem_def.mp first]
  rfl

theorem solidFront_map {f : β → α} {xs : List β} :
    SolidFront space (xs.map f) ↔ SolidFront (space ∘ f) xs := by
  unfold SolidFront
  cases xs with
  | nil => simp
  | cons head tail =>
      simp only [List.map_cons, List.head?_cons, Option.mem_some_iff,
        forall_eq', Function.comp_apply]

theorem solidBack_map {f : β → α} {xs : List β} :
    SolidBack space (xs.map f) ↔ SolidBack (space ∘ f) xs := by
  unfold SolidBack
  rw [List.getLast?_map]
  cases xs.getLast? with
  | none => simp
  | some last =>
      simp only [Option.map_some, Option.mem_some_iff, forall_eq',
        Function.comp_apply]

theorem dropWhile_solidFront (xs : List α) :
    SolidFront space (xs.dropWhile space) := by
  intro c first
  cases rest : xs.dropWhile space with
  | nil =>
      rw [rest] at first
      cases first
  | cons head tail =>
      have stopped := List.head_dropWhile_not space
        (show xs.dropWhile space ≠ [] by rw [rest]; exact List.cons_ne_nil _ _)
      rw [rest, List.head?_cons, Option.mem_some_iff] at first
      simp only [rest, List.head_cons] at stopped
      rw [← first]
      exact stopped

theorem dropWhile_eq_self {xs : List α} (solid : SolidFront space xs) :
    xs.dropWhile space = xs := by
  cases xs with
  | nil => rfl
  | cons head tail =>
      have free := solid head rfl
      rw [List.dropWhile_cons_of_neg (by rw [free]; decide)]

theorem trim_solidFront (xs : List α) : SolidFront space (trim space xs) :=
  (dropWhile_solidFront xs).prefix_ (List.rdropWhile_prefix space _)

theorem trim_solidBack (xs : List α) : SolidBack space (trim space xs) := by
  unfold trim List.rdropWhile SolidBack
  rw [List.getLast?_reverse]
  exact dropWhile_solidFront _

theorem trim_isInfix (xs : List α) : trim space xs <:+: xs :=
  (List.rdropWhile_prefix space _).isInfix.trans
    (List.dropWhile_suffix space).isInfix

theorem trim_append {xs behind : List α} (front : SolidFront space xs)
    (back : SolidBack space xs) (present : xs ≠ [])
    (blank : ∀ c ∈ behind, space c = true) :
    trim space (xs ++ behind) = xs := by
  have reversed : SolidFront space xs.reverse := by
    unfold SolidFront
    rw [List.head?_reverse]
    exact back
  unfold trim List.rdropWhile
  rw [dropWhile_eq_self (front.append present behind), List.reverse_append,
    List.dropWhile_append_of_pos, dropWhile_eq_self reversed,
    List.reverse_reverse]
  intro c member
  exact blank c (List.mem_reverse.mp member)

theorem trim_map (f : β → α) (xs : List β) :
    trim space (xs.map f) = (trim (space ∘ f) xs).map f := by
  unfold trim List.rdropWhile
  rw [List.dropWhile_map, ← List.map_reverse, List.dropWhile_map,
    ← List.map_reverse]

@[simp] theorem wordsUpTo_nil (count : Nat) :
    wordsUpTo space count ([] : List α) = [] := by
  cases count with
  | zero => rfl
  | succ count => rfl

theorem wordsUpTo_blank {c : α} (blank : space c = true) (count : Nat)
    (xs : List α) :
    wordsUpTo space count (c :: xs) = wordsUpTo space count xs := by
  cases count with
  | zero =>
      unfold wordsUpTo
      rw [List.dropWhile_cons_of_pos blank]
  | succ count =>
      rw [wordsUpTo, wordsUpTo, List.dropWhile_cons_of_pos blank]

theorem wordsUpTo_word {w : List α} (word : IsWord space w) {c : α}
    (blank : space c = true) (count : Nat) (xs : List α) :
    wordsUpTo space (count + 1) (w ++ c :: xs) =
      w :: wordsUpTo space count xs := by
  have solid := word.solidFront.append word.present (c :: xs)
  have free : ∀ d ∈ w, (!space d) = true := by
    intro d member
    rw [word.free d member]
    rfl
  have stops : ¬(!space c) = true := by
    rw [blank]
    decide
  rw [wordsUpTo, dropWhile_eq_self solid, if_neg,
    List.takeWhile_append_of_pos free, List.dropWhile_append_of_pos free,
    @List.takeWhile_cons_of_neg _ (fun d => !space d) _ _ stops,
    @List.dropWhile_cons_of_neg _ (fun d => !space d) _ _ stops,
    wordsUpTo_blank blank, List.append_nil]
  rw [List.isEmpty_iff]
  exact List.append_ne_nil_of_left_ne_nil word.present _

theorem wordsUpTo_single {w : List α} (word : IsWord space w) (count : Nat) :
    wordsUpTo space count w = [w] := by
  have solid := word.solidFront
  have present : ¬w.isEmpty = true := by
    rw [List.isEmpty_iff]
    exact word.present
  cases count with
  | zero => rw [wordsUpTo, dropWhile_eq_self solid, if_neg present]
  | succ count =>
      have free : ∀ d ∈ w, (!space d) = true := by
        intro d member
        rw [word.free d member]
        rfl
      rw [wordsUpTo, dropWhile_eq_self solid, if_neg present,
        List.takeWhile_eq_self_iff.mpr free,
        List.dropWhile_eq_nil_iff.mpr free, wordsUpTo_nil]

theorem wordsUpTo_zero {xs : List α} (solid : SolidFront space xs)
    (present : xs ≠ []) : wordsUpTo space 0 xs = [xs] := by
  unfold wordsUpTo
  rw [dropWhile_eq_self solid, if_neg]
  rw [List.isEmpty_iff]
  exact present

theorem wordsUpTo_cons {count : Nat} {xs w : List α} {ws : List (List α)}
    (found : wordsUpTo space (count + 1) xs = w :: ws) :
    IsWord space w ∧ ∃ rest, rest <:+ xs ∧ rest.length < xs.length ∧
      ws = wordsUpTo space count rest := by
  rw [wordsUpTo] at found
  split at found
  · cases found
  · rename_i present
    rw [List.isEmpty_iff] at present
    obtain ⟨isFirst, others⟩ := List.cons_eq_cons.mp found
    have solid := @dropWhile_solidFront _ space xs
    have wordPresent : w ≠ [] := by
      cases whole : xs.dropWhile space with
      | nil => exact absurd whole present
      | cons head tail =>
          rw [whole] at isFirst solid
          have free := solid head rfl
          rw [← isFirst, List.takeWhile_cons_of_pos (by rw [free]; rfl)]
          exact List.cons_ne_nil _ _
    have split : w ++ ((xs.dropWhile space).dropWhile fun c => !space c) =
        xs.dropWhile space := by
      rw [← isFirst]
      exact List.takeWhile_append_dropWhile
    have shorter := congrArg List.length split
    have whole := (List.dropWhile_suffix space (l := xs)).length_le
    have positive := List.length_pos_iff.mpr wordPresent
    rw [List.length_append] at shorter
    refine ⟨⟨wordPresent, ?_⟩, _, ?_, ?_, others.symm⟩
    · intro c member
      rw [← isFirst] at member
      have kept := List.mem_takeWhile_imp member
      rw [Bool.not_eq_true'] at kept
      exact kept
    · exact (List.dropWhile_suffix _).trans (List.dropWhile_suffix space)
    · omega

theorem wordsUpTo_zero_cons {xs w : List α} {ws : List (List α)}
    (found : wordsUpTo space 0 xs = w :: ws) :
    w ≠ [] ∧ SolidFront space w ∧ w <:+ xs ∧ ws = [] := by
  unfold wordsUpTo at found
  split at found
  · cases found
  · rename_i present
    rw [List.isEmpty_iff] at present
    obtain ⟨isFirst, others⟩ := List.cons_eq_cons.mp found
    rw [← isFirst]
    exact ⟨present, dropWhile_solidFront xs, List.dropWhile_suffix space,
      others.symm⟩

theorem wordsUpTo_isWord {count : Nat} {xs w : List α}
    (enough : xs.length ≤ count) (member : w ∈ wordsUpTo space count xs) :
    IsWord space w := by
  induction count generalizing xs with
  | zero =>
      rw [List.eq_nil_of_length_eq_zero (Nat.le_zero.mp enough),
        wordsUpTo_nil] at member
      cases member
  | succ count ih =>
      cases found : wordsUpTo space (count + 1) xs with
      | nil =>
          rw [found] at member
          cases member
      | cons first others =>
          obtain ⟨isWord, rest, -, shorter, same⟩ := wordsUpTo_cons found
          rw [found, List.mem_cons] at member
          rcases member with here | later
          · rw [here]
            exact isWord
          · rw [same] at later
            exact ih (by omega) later

theorem words_isWord {xs w : List α} (member : w ∈ words space xs) :
    IsWord space w :=
  wordsUpTo_isWord (le_refl _) member

theorem words_subset {count : Nat} {xs w : List α}
    (member : w ∈ wordsUpTo space count xs) : w ⊆ xs := by
  induction count generalizing xs with
  | zero =>
      cases found : wordsUpTo space 0 xs with
      | nil =>
          rw [found] at member
          cases member
      | cons first others =>
          obtain ⟨-, -, suffix, none⟩ := wordsUpTo_zero_cons found
          rw [found, none, List.mem_singleton] at member
          rw [member]
          exact suffix.subset
  | succ count ih =>
      rw [wordsUpTo] at member
      split at member
      · cases member
      · rcases List.mem_cons.mp member with here | later
        · rw [here]
          exact List.Subset.trans (List.takeWhile_subset _)
            (List.dropWhile_subset space)
        · exact List.Subset.trans (ih later)
            (List.Subset.trans (List.dropWhile_subset _)
              (List.dropWhile_subset space))

theorem wordsUpTo_map (f : β → α) (count : Nat) (xs : List β) :
    wordsUpTo space count (xs.map f) =
      (wordsUpTo (space ∘ f) count xs).map (List.map f) := by
  induction count generalizing xs with
  | zero =>
      unfold wordsUpTo
      rw [List.dropWhile_map, List.isEmpty_map]
      split
      · rfl
      · rfl
  | succ count ih =>
      have inner : (fun c => !space c) ∘ f = fun c => !(space ∘ f) c := rfl
      rw [wordsUpTo, wordsUpTo, List.dropWhile_map, List.isEmpty_map]
      split
      · rfl
      · rw [List.map_cons, List.takeWhile_map, List.dropWhile_map, inner, ih]

end DpktNg.Library
