/-
Dictionaries that keep the order in which keys were first inserted.  No key
occurs twice, so a lookup and the list of entries say the same.
-/

import Mathlib

namespace DpktNg.Library

structure Dict (Key Value : Type) where
  entries : List (Key × Value)
  distinct : (entries.map Prod.fst).Nodup
deriving DecidableEq

namespace Dict

variable {Key Value : Type}

def empty : Dict Key Value := ⟨[], List.nodup_nil⟩

def size (dict : Dict Key Value) : Nat := dict.entries.length

theorem eq_of_entries {dict dict' : Dict Key Value}
    (same : dict.entries = dict'.entries) : dict = dict' := by
  cases dict
  cases dict'
  cases same
  rfl

theorem eq_of_mem {dict : Dict Key Value} {key : Key} {value value' : Value}
    (first : (key, value) ∈ dict.entries)
    (second : (key, value') ∈ dict.entries) : value = value' := by
  have same := List.inj_on_of_nodup_map dict.distinct first second rfl
  exact congrArg Prod.snd same

variable [DecidableEq Key]

def get? (dict : Dict Key Value) (key : Key) : Option Value :=
  (dict.entries.find? fun entry => entry.1 = key).map Prod.snd

def contains (dict : Dict Key Value) (key : Key) : Bool :=
  (dict.get? key).isSome

/-- Replace the value of a present key in its place; a new key goes to the
end. -/
def setEntries (key : Key) (value : Value) :
    List (Key × Value) → List (Key × Value)
  | [] => [(key, value)]
  | entry :: rest =>
      if entry.1 = key then (key, value) :: rest
      else entry :: setEntries key value rest

theorem mem_keys_setEntries (key other : Key) (value : Value)
    (entries : List (Key × Value)) :
    other ∈ (setEntries key value entries).map Prod.fst ↔
      other = key ∨ other ∈ entries.map Prod.fst := by
  induction entries with
  | nil => simp [setEntries]
  | cons entry rest ih =>
      unfold setEntries
      split
      · rename_i same
        simp [same]
      · rw [List.map_cons, List.mem_cons, ih, List.map_cons, List.mem_cons]
        tauto

theorem setEntries_distinct (key : Key) (value : Value)
    (entries : List (Key × Value)) (distinct : (entries.map Prod.fst).Nodup) :
    ((setEntries key value entries).map Prod.fst).Nodup := by
  induction entries with
  | nil => simp [setEntries]
  | cons entry rest ih =>
      have parts := List.nodup_cons.mp distinct
      unfold setEntries
      split
      · rename_i same
        rw [List.map_cons, ← same]
        exact List.nodup_cons.mpr parts
      · rename_i different
        rw [List.map_cons, List.nodup_cons, mem_keys_setEntries]
        refine ⟨?_, ih parts.2⟩
        intro present
        rcases present with same | member
        · exact different same
        · exact parts.1 member

def set (dict : Dict Key Value) (key : Key) (value : Value) :
    Dict Key Value :=
  ⟨setEntries key value dict.entries,
    setEntries_distinct key value dict.entries dict.distinct⟩

def erase (dict : Dict Key Value) (key : Key) : Dict Key Value :=
  ⟨dict.entries.filter fun entry => entry.1 ≠ key,
    dict.distinct.sublist (List.filter_sublist.map Prod.fst)⟩

theorem get?_eq_some {dict : Dict Key Value} {key : Key} {value : Value} :
    dict.get? key = some value ↔ (key, value) ∈ dict.entries := by
  unfold get?
  constructor
  · intro found
    obtain ⟨entry, at_entry, same⟩ := Option.map_eq_some_iff.mp found
    have member := List.mem_of_find?_eq_some at_entry
    have keyed : entry.1 = key := by simpa using List.find?_some at_entry
    rw [← same, ← keyed]
    exact member
  · intro member
    cases found : dict.entries.find? fun entry => entry.1 = key with
    | none =>
        have absent := List.find?_eq_none.mp found _ member
        simp at absent
    | some entry =>
        have entryMember := List.mem_of_find?_eq_some found
        have keyed : entry.1 = key := by simpa using List.find?_some found
        rw [Option.map_some]
        have same : (key, entry.2) ∈ dict.entries := by
          rw [← keyed]
          exact entryMember
        rw [eq_of_mem same member]

theorem get?_eq_none {dict : Dict Key Value} {key : Key} :
    dict.get? key = none ↔ key ∉ dict.entries.map Prod.fst := by
  unfold get?
  rw [Option.map_eq_none_iff, List.find?_eq_none, List.mem_map]
  constructor
  · intro absent present
    obtain ⟨entry, member, same⟩ := present
    have different := absent entry member
    simp [same] at different
  · intro absent entry member
    have different : entry.1 ≠ key := fun same =>
      absent ⟨entry, member, same⟩
    simpa using different

theorem mem_set (dict : Dict Key Value) (key : Key) (value : Value)
    (entry : Key × Value) :
    entry ∈ (dict.set key value).entries ↔
      entry = (key, value) ∨ (entry ∈ dict.entries ∧ entry.1 ≠ key) := by
  have distinct := dict.distinct
  change entry ∈ setEntries key value dict.entries ↔ _
  generalize dict.entries = entries at distinct ⊢
  induction entries with
  | nil => simp [setEntries]
  | cons first rest ih =>
      have parts := List.nodup_cons.mp distinct
      unfold setEntries
      split
      · rename_i same
        rw [List.mem_cons, List.mem_cons]
        have others : entry ∈ rest → entry.1 ≠ key := by
          intro member sameKey
          rw [← same] at sameKey
          exact parts.1 (sameKey ▸ List.mem_map_of_mem member)
        constructor
        · intro present
          rcases present with here | member
          · exact Or.inl here
          · exact Or.inr ⟨Or.inr member, others member⟩
        · intro present
          rcases present with here | ⟨member, different⟩
          · exact Or.inl here
          · rcases member with here | member
            · rw [here] at different
              exact absurd same different
            · exact Or.inr member
      · rename_i different
        rw [List.mem_cons, ih parts.2, List.mem_cons]
        constructor
        · intro present
          rcases present with here | updated | ⟨member, other⟩
          · rw [here]
            exact Or.inr ⟨Or.inl rfl, different⟩
          · exact Or.inl updated
          · exact Or.inr ⟨Or.inr member, other⟩
        · intro present
          rcases present with updated | ⟨here | member, other⟩
          · exact Or.inr (Or.inl updated)
          · exact Or.inl here
          · exact Or.inr (Or.inr ⟨member, other⟩)

theorem entries_set_of_absent {dict : Dict Key Value} {key : Key}
    (absent : dict.get? key = none) (value : Value) :
    (dict.set key value).entries = dict.entries ++ [(key, value)] := by
  rw [get?_eq_none] at absent
  change setEntries key value dict.entries = _
  generalize dict.entries = entries at absent ⊢
  induction entries with
  | nil => rfl
  | cons entry rest ih =>
      rw [List.map_cons, List.mem_cons, not_or] at absent
      rw [setEntries, if_neg (fun same => absent.1 same.symm), ih absent.2,
        List.cons_append]

theorem get?_set_same (dict : Dict Key Value) (key : Key) (value : Value) :
    (dict.set key value).get? key = some value := by
  rw [get?_eq_some, mem_set]
  exact Or.inl rfl

theorem get?_set_other (dict : Dict Key Value) {key other : Key}
    (value : Value) (different : other ≠ key) :
    (dict.set key value).get? other = dict.get? other := by
  apply Option.ext
  intro found
  rw [get?_eq_some, get?_eq_some, mem_set]
  constructor
  · intro present
    rcases present with same | ⟨member, _⟩
    · exact absurd (congrArg Prod.fst same) different
    · exact member
  · intro member
    exact Or.inr ⟨member, different⟩

theorem get?_set_absent {Other : Type} {dict : Dict Key Value} {key : Key}
    {rest : List (Key × Other)} (other : key ∉ rest.map Prod.fst)
    (absent : ∀ entry ∈ rest, dict.get? entry.1 = none) (value : Value) :
    ∀ entry ∈ rest, (dict.set key value).get? entry.1 = none := by
  intro entry member
  have different : entry.1 ≠ key := by
    intro same
    rw [← same] at other
    exact other (List.mem_map_of_mem member)
  rw [get?_set_other dict value different]
  exact absent entry member

theorem size_set_of_present {dict : Dict Key Value} {key : Key}
    {value : Value} (new : Value) (present : dict.get? key = some value) :
    (dict.set key new).size = dict.size := by
  rw [get?_eq_some] at present
  change (setEntries key new dict.entries).length = dict.entries.length
  generalize dict.entries = entries at present ⊢
  induction entries with
  | nil => cases present
  | cons first rest ih =>
      unfold setEntries
      split
      · rfl
      · rename_i different
        cases present with
        | head => exact absurd rfl different
        | tail _ member => rw [List.length_cons, ih member, List.length_cons]

theorem size_set_of_absent {dict : Dict Key Value} {key : Key}
    (new : Value) (absent : dict.get? key = none) :
    (dict.set key new).size = dict.size + 1 := by
  rw [get?_eq_none] at absent
  change (setEntries key new dict.entries).length = dict.entries.length + 1
  generalize dict.entries = entries at absent ⊢
  induction entries with
  | nil => rfl
  | cons first rest ih =>
      rw [List.map_cons, List.mem_cons, not_or] at absent
      unfold setEntries
      rw [if_neg (fun same => absent.1 same.symm), List.length_cons,
        ih absent.2, List.length_cons]

theorem mem_erase (dict : Dict Key Value) (key : Key)
    (entry : Key × Value) :
    entry ∈ (dict.erase key).entries ↔
      entry ∈ dict.entries ∧ entry.1 ≠ key := by
  simp [erase]

theorem entries_erase {dict : Dict Key Value} {entry : Key × Value}
    (member : entry ∈ dict.entries) :
    ∃ before after, dict.entries = before ++ entry :: after ∧
      (dict.erase entry.1).entries = before ++ after := by
  obtain ⟨before, after, split⟩ := List.append_of_mem member
  have distinct := dict.distinct
  rw [split, List.map_append, List.map_cons, List.nodup_append] at distinct
  obtain ⟨_before, others, apart⟩ := distinct
  have absent := (List.nodup_cons.mp others).1
  have keptBefore : ∀ other ∈ before, other.1 ≠ entry.1 := fun other here =>
    apart _ (List.mem_map_of_mem here) _ List.mem_cons_self
  have keptAfter : ∀ other ∈ after, other.1 ≠ entry.1 := by
    intro other here same
    rw [← same] at absent
    exact absent (List.mem_map_of_mem here)
  refine ⟨before, after, split, ?_⟩
  unfold erase
  dsimp only
  rw [split, List.filter_append, List.filter_cons_of_neg (by simp),
    List.filter_eq_self.mpr fun other here =>
      decide_eq_true (keptBefore other here),
    List.filter_eq_self.mpr fun other here =>
      decide_eq_true (keptAfter other here)]

theorem size_erase_lt {dict : Dict Key Value} {entry : Key × Value}
    (member : entry ∈ dict.entries) :
    (dict.erase entry.1).size < dict.size := by
  apply List.length_filter_lt_length_iff_exists.mpr
  exact ⟨entry, member, by simp⟩

section Many

variable {dict : Dict Key Value} {pairs : List (Key × Value)}

/-- One key after the other; what is set later replaces what was set before. -/
def setAll (dict : Dict Key Value) (pairs : List (Key × Value)) :
    Dict Key Value :=
  pairs.foldl (fun dict pair => dict.set pair.1 pair.2) dict

theorem setAll_cons (dict : Dict Key Value) (pair : Key × Value)
    (rest : List (Key × Value)) :
    dict.setAll (pair :: rest) = (dict.set pair.1 pair.2).setAll rest :=
  rfl

theorem entries_setAll (distinct : (pairs.map Prod.fst).Nodup)
    (absent : ∀ pair ∈ pairs, dict.get? pair.1 = none) :
    (dict.setAll pairs).entries = dict.entries ++ pairs := by
  induction pairs generalizing dict with
  | nil => exact (List.append_nil _).symm
  | cons pair rest ih =>
      rw [List.map_cons, List.nodup_cons] at distinct
      rw [List.forall_mem_cons] at absent
      rw [setAll_cons, ih distinct.2
        (get?_set_absent distinct.1 absent.2 pair.2),
        entries_set_of_absent absent.1, List.append_assoc,
        List.singleton_append]

theorem size_setAll_le (dict : Dict Key Value) (pairs : List (Key × Value)) :
    (dict.setAll pairs).size ≤ dict.size + pairs.length := by
  induction pairs generalizing dict with
  | nil => exact Nat.le_refl _
  | cons pair rest ih =>
      have behind := ih (dict.set pair.1 pair.2)
      have first : (dict.set pair.1 pair.2).size ≤ dict.size + 1 := by
        cases here : dict.get? pair.1 with
        | some value =>
            rw [size_set_of_present pair.2 here]
            exact Nat.le_succ _
        | none => exact Nat.le_of_eq (size_set_of_absent pair.2 here)
      rw [setAll_cons, List.length_cons]
      omega

/-- Where every pair adds an entry, the keys are new and distinct. -/
theorem distinct_of_size_setAll
    (all : (dict.setAll pairs).size = dict.size + pairs.length) :
    (pairs.map Prod.fst).Nodup ∧
      ∀ pair ∈ pairs, dict.get? pair.1 = none := by
  induction pairs generalizing dict with
  | nil => exact ⟨List.nodup_nil, List.forall_mem_nil _⟩
  | cons pair rest ih =>
      have behind := size_setAll_le (dict.set pair.1 pair.2) rest
      rw [setAll_cons, List.length_cons] at all
      cases here : dict.get? pair.1 with
      | some value =>
          rw [size_set_of_present pair.2 here] at behind
          omega
      | none =>
          have grown := size_set_of_absent pair.2 here
          have restAdds : ((dict.set pair.1 pair.2).setAll rest).size =
              (dict.set pair.1 pair.2).size + rest.length := by
            omega
          obtain ⟨distinct, absent⟩ := ih restAdds
          have different : ∀ other ∈ rest, other.1 ≠ pair.1 := by
            intro other among same
            have missing := absent other among
            rw [same, get?_set_same] at missing
            cases missing
          rw [List.map_cons, List.nodup_cons, List.forall_mem_cons]
          refine ⟨⟨?_, distinct⟩, here, ?_⟩
          · intro among
            obtain ⟨other, member, same⟩ := List.mem_map.mp among
            exact different other member same
          · intro other among
            rw [← get?_set_other dict pair.2 (different other among)]
            exact absent other among

end Many

end Dict

end DpktNg.Library
