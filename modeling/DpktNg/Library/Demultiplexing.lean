/-
Interleavings of two lists: every element of either list exactly once, the
elements of each list in their order.

Machines that keep a local state for each key and give every input to the local
state of its own key.  A key may be dropped at any step for another key; an
input for a key without a state starts it afresh.  Seen through one key, a run is
a run of the local machine on the inputs for that key, so the inputs for other
keys, and how they are interleaved, do not matter.
-/

import Mathlib
import DpktNg.Library.Machine

namespace DpktNg.Library

variable {α : Type}

inductive Interleaving : List α → List α → List α → Prop
  | nil : Interleaving [] [] []
  | fromFirst (x : α) {xs ys zs : List α} :
      Interleaving xs ys zs → Interleaving (x :: xs) ys (x :: zs)
  | fromSecond (y : α) {xs ys zs : List α} :
      Interleaving xs ys zs → Interleaving xs (y :: ys) (y :: zs)

namespace Interleaving

theorem append {xs ys zs xs' ys' zs' : List α}
    (merged : Interleaving xs ys zs) (more : Interleaving xs' ys' zs') :
    Interleaving (xs ++ xs') (ys ++ ys') (zs ++ zs') := by
  induction merged with
  | nil => exact more
  | fromFirst x _ ih => exact fromFirst x ih
  | fromSecond y _ ih => exact fromSecond y ih

theorem first_only (xs : List α) : Interleaving xs [] xs := by
  induction xs with
  | nil => exact nil
  | cons x rest ih => exact fromFirst x ih

theorem second_only (ys : List α) : Interleaving [] ys ys := by
  induction ys with
  | nil => exact nil
  | cons y rest ih => exact fromSecond y ih

/-- The pieces of a list of tagged items interleave the pieces of the items
with either tag. -/
theorem of_tagged {ι : Type} (isFirst : ι → Bool) (piece : ι → List α)
    (items : List ι) :
    Interleaving ((items.filter isFirst).flatMap piece)
      ((items.filter fun item => !isFirst item).flatMap piece)
      (items.flatMap piece) := by
  induction items with
  | nil => exact nil
  | cons item rest ih =>
      cases tag : isFirst item with
      | true =>
          have head := (first_only (piece item)).append ih
          simpa [List.filter_cons, tag] using head
      | false =>
          have head := (second_only (piece item)).append ih
          simpa [List.filter_cons, tag] using head

theorem length_eq {xs ys zs : List α} (merged : Interleaving xs ys zs) :
    zs.length = xs.length + ys.length := by
  induction merged with
  | nil => rfl
  | fromFirst x _ ih =>
      rw [List.length_cons, List.length_cons, ih]
      omega
  | fromSecond y _ ih =>
      rw [List.length_cons, List.length_cons, ih]
      omega

end Interleaving

variable {State Input Output Key Local : Type}

/-- The local states of a machine: how to look one up, and the machine that each
of them follows from its fresh state on. -/
structure Lanes (State Input Output Key Local : Type) where
  lane : Machine Local Input Output
  key : Input → Key
  fresh : Key → Local
  lookup : State → Key → Option Local

namespace Lanes

variable (lanes : Lanes State Input Output Key Local)
  (machine : Machine State Input Output)

section Selection

variable [DecidableEq Key]

def inputsFor (k : Key) (inputs : List Input) : List Input :=
  inputs.filter fun input => lanes.key input = k

/-- The outputs of a run at the inputs for a key. -/
def outputsFor (k : Key) : State → List Input → List Output
  | _, [] => []
  | state, input :: rest =>
      let (next, output) := machine.step state input
      if lanes.key input = k then output :: outputsFor k next rest
      else outputsFor k next rest

end Selection

/-- The local state of a key, the fresh one where there is none. -/
def current (state : State) (k : Key) : Local :=
  (lanes.lookup state k).getD (lanes.fresh k)

/-- No step of a run drops the key. -/
def Keeps (k : Key) (start : State) (inputs : List Input) : Prop :=
  ∀ before input after, inputs = before ++ input :: after →
    lanes.lookup (machine.run start before) k ≠ none →
      lanes.lookup (machine.run start (before ++ [input])) k ≠ none

/-- What a step does, in the states that a run goes through. -/
structure Separates (Valid : State → Prop) : Prop where
  valid_step : ∀ state input, Valid state → Valid (machine.step state input).1
  own : ∀ state input, Valid state →
    lanes.lookup (machine.step state input).1 (lanes.key input) =
        some (lanes.lane.step
          (lanes.current state (lanes.key input)) input).1 ∧
      (machine.step state input).2 =
        (lanes.lane.step (lanes.current state (lanes.key input)) input).2
  others : ∀ state input k, Valid state → k ≠ lanes.key input →
    lanes.lookup (machine.step state input).1 k = lanes.lookup state k ∨
      lanes.lookup (machine.step state input).1 k = none

section Selection

variable [DecidableEq Key]

theorem inputsFor_append (k : Key) (first second : List Input) :
    lanes.inputsFor k (first ++ second) =
      lanes.inputsFor k first ++ lanes.inputsFor k second :=
  List.filter_append first second

theorem inputsFor_cons (k : Key) (input : Input) (rest : List Input) :
    lanes.inputsFor k (input :: rest) =
      if lanes.key input = k then input :: lanes.inputsFor k rest
      else lanes.inputsFor k rest := by
  unfold inputsFor
  rw [List.filter_cons]
  simp only [decide_eq_true_eq]

theorem outputsFor_cons (k : Key) (state : State) (input : Input)
    (rest : List Input) :
    lanes.outputsFor machine k state (input :: rest) =
      if lanes.key input = k then
        (machine.step state input).2 ::
          lanes.outputsFor machine k (machine.step state input).1 rest
      else lanes.outputsFor machine k (machine.step state input).1 rest := rfl

theorem inputsFor_own (input : Input) :
    lanes.inputsFor (lanes.key input) [input] = [input] := by
  rw [inputsFor_cons, if_pos rfl]
  rfl

theorem inputsFor_other {k : Key} {input : Input}
    (other : k ≠ lanes.key input) : lanes.inputsFor k [input] = [] := by
  rw [inputsFor_cons, if_neg fun same => other same.symm]
  rfl

theorem outputsFor_snoc (k : Key) (state : State) (before : List Input)
    (input : Input) :
    lanes.outputsFor machine k state (before ++ [input]) =
      lanes.outputsFor machine k state before ++
        if lanes.key input = k then
          [(machine.step (machine.run state before) input).2]
        else [] := by
  induction before generalizing state with
  | nil => rfl
  | cons earlier rest ih =>
      rw [List.cons_append, outputsFor_cons, outputsFor_cons, ih,
        Machine.run_cons]
      split
      · rfl
      · rfl

end Selection

variable {lanes machine}

namespace Separates

variable {Valid : State → Prop} (separates : lanes.Separates machine Valid)

include separates

theorem valid_run {start : State} (valid : Valid start)
    (inputs : List Input) : Valid (machine.run start inputs) :=
  machine.invariant (fun _input => True) Valid
    (fun state input _allowed holds =>
      separates.valid_step state input holds)
    start valid inputs (fun _input _member => trivial)

variable [DecidableEq Key]

/-- What is known of a key after `inputs`, relative to the state `opened` that
its lane started from. -/
theorem extend {start : State} (valid : Valid start)
    (before after : List Input) (input : Input) {k : Key} {opened : Local}
    (ends : lanes.current (machine.run start (before ++ after)) k =
      lanes.lane.run opened (lanes.inputsFor k after))
    (said : lanes.outputsFor machine k (machine.run start before) after =
      lanes.lane.trace opened (lanes.inputsFor k after))
    (kept : lanes.lookup (machine.run start (before ++ after)) k ≠ none →
      lanes.lookup (machine.run start (before ++ after ++ [input])) k ≠ none) :
    lanes.current (machine.run start (before ++ after ++ [input])) k =
        lanes.lane.run opened (lanes.inputsFor k (after ++ [input])) ∧
      lanes.outputsFor machine k (machine.run start before)
          (after ++ [input]) =
        lanes.lane.trace opened (lanes.inputsFor k (after ++ [input])) := by
  have here := separates.valid_run valid (before ++ after)
  rw [machine.run_snoc] at kept ⊢
  rw [outputsFor_snoc, inputsFor_append, said, ← machine.run_append]
  by_cases same : lanes.key input = k
  · obtain ⟨found, output⟩ := separates.own _ input here
    rw [same, ends] at found output
    have own := lanes.inputsFor_own input
    rw [same] at own
    rw [if_pos same, own, Machine.run_snoc, Machine.trace_snoc, output]
    exact ⟨by rw [current, found, Option.getD_some], rfl⟩
  · have other : k ≠ lanes.key input := fun equal => same equal.symm
    rw [if_neg same, lanes.inputsFor_other other, List.append_nil,
      List.append_nil, ← ends]
    refine ⟨?_, rfl⟩
    unfold current
    rcases separates.others _ input k here other with unchanged | dropped
    · rw [unchanged]
    · cases present : lanes.lookup (machine.run start (before ++ after)) k with
      | none => rw [dropped]
      | some local_ =>
          rw [present] at kept
          exact absurd dropped (kept (Option.some_ne_none local_))

/-- A key that has a state follows its lane since it was last without one. -/
theorem since_opened {start : State} (valid : Valid start)
    (inputs : List Input) {k : Key} (empty : lanes.lookup start k = none)
    {reached : Local}
    (found : lanes.lookup (machine.run start inputs) k = some reached) :
    ∃ before after, inputs = before ++ after ∧
      lanes.lookup (machine.run start before) k = none ∧
      (∀ middle, middle <+: after → middle ≠ [] →
        lanes.lookup (machine.run start (before ++ middle)) k ≠ none) ∧
      reached = lanes.lane.run (lanes.fresh k) (lanes.inputsFor k after) ∧
      lanes.outputsFor machine k (machine.run start before) after =
        lanes.lane.trace (lanes.fresh k) (lanes.inputsFor k after) := by
  induction inputs using List.reverseRecOn generalizing reached with
  | nil =>
      rw [machine.run_nil, empty] at found
      cases found
  | append_singleton earlier input ih =>
      have here := separates.valid_run valid earlier
      cases present : lanes.lookup (machine.run start earlier) k with
      | none =>
          refine ⟨earlier, [input], rfl, present, ?_, ?_⟩
          · intro middle front nonempty
            rw [← List.nil_append [input], List.prefix_concat_iff] at front
            rcases front with all | nothing
            · rw [all, List.nil_append, found]
              exact Option.some_ne_none reached
            · exact absurd (List.prefix_nil.mp nothing) nonempty
          · have opens : lanes.current (machine.run start (earlier ++ [])) k =
                lanes.lane.run (lanes.fresh k) (lanes.inputsFor k []) := by
              rw [List.append_nil, current, present]
              rfl
            rw [← List.append_nil earlier] at present
            have extended := separates.extend valid earlier [] input opens rfl
              fun absent => absurd present absent
            rw [List.append_nil, current, found] at extended
            exact extended
      | some middle =>
          obtain ⟨before, after, split, absent, tracked, ends, said⟩ :=
            ih present
          have extended := separates.extend valid before after input
            (by rw [← split, current, present, ← ends]; rfl) said
            (fun _present => by
              rw [← split, found]
              exact Option.some_ne_none reached)
          rw [← split, current, found] at extended
          refine ⟨before, after ++ [input], ?_, absent, ?_, extended⟩
          · rw [split, List.append_assoc]
          · intro middle front nonempty
            rw [List.prefix_concat_iff] at front
            rcases front with all | earlier
            · rw [all, ← List.append_assoc, ← split, found]
              exact Option.some_ne_none reached
            · exact tracked middle earlier nonempty

/-- Where no step drops a key, every key follows its lane from the start. -/
theorem never_dropped {start : State} (valid : Valid start)
    (inputs : List Input) {k : Key}
    (kept : lanes.Keeps machine k start inputs) :
    lanes.current (machine.run start inputs) k =
        lanes.lane.run (lanes.current start k) (lanes.inputsFor k inputs) ∧
      lanes.outputsFor machine k start inputs =
        lanes.lane.trace (lanes.current start k)
          (lanes.inputsFor k inputs) := by
  have prefixes : ∀ before after, inputs = before ++ after →
      lanes.current (machine.run start before) k =
          lanes.lane.run (lanes.current start k) (lanes.inputsFor k before) ∧
        lanes.outputsFor machine k start before =
          lanes.lane.trace (lanes.current start k)
            (lanes.inputsFor k before) := by
    intro before
    induction before using List.reverseRecOn with
    | nil => exact fun _after _split => ⟨rfl, rfl⟩
    | append_singleton before input ih =>
        intro after split
        have rearranged : inputs = before ++ input :: after := by
          rw [split, List.append_assoc, List.singleton_append]
        obtain ⟨ends, said⟩ := ih _ rearranged
        exact separates.extend valid [] before input ends said
          (kept before input after rearranged)
  exact prefixes inputs [] (List.append_nil inputs).symm

/-- Where no step drops a key, it has a state from its first input on. -/
theorem absent_iff {start : State} (valid : Valid start) {inputs : List Input}
    {k : Key} (kept : lanes.Keeps machine k start inputs) :
    lanes.lookup (machine.run start inputs) k = none ↔
      lanes.lookup start k = none ∧ lanes.inputsFor k inputs = [] := by
  induction inputs using List.reverseRecOn with
  | nil => exact ⟨fun absent => ⟨absent, rfl⟩, And.left⟩
  | append_singleton before input ih =>
      have earlier := ih fun first other rest split =>
        kept first other (rest ++ [input]) (by rw [split, List.append_assoc]; rfl)
      have last := kept before input [] rfl
      have here := separates.valid_run valid before
      rw [machine.run_snoc] at last ⊢
      rw [inputsFor_append, List.append_eq_nil_iff]
      by_cases same : lanes.key input = k
      · have found := (separates.own _ input here).1
        have own := lanes.inputsFor_own input
        rw [same] at found own
        rw [found, own]
        constructor
        · intro impossible
          cases impossible
        · rintro ⟨_start, _before, impossible⟩
          cases impossible
      · have other : k ≠ lanes.key input := fun equal => same equal.symm
        rw [lanes.inputsFor_other other, and_iff_left rfl, ← earlier]
        constructor
        · intro absent
          by_contra present
          exact last present absent
        · intro absent
          rcases separates.others _ input k here other with
            unchanged | dropped
          · rw [unchanged]
            exact absent
          · exact dropped

theorem lookup_eq {start : State} (valid : Valid start)
    {inputs inputs' : List Input} {k : Key}
    (same : lanes.inputsFor k inputs = lanes.inputsFor k inputs')
    (kept : lanes.Keeps machine k start inputs)
    (kept' : lanes.Keeps machine k start inputs') :
    lanes.lookup (machine.run start inputs) k =
        lanes.lookup (machine.run start inputs') k ∧
      lanes.outputsFor machine k start inputs =
        lanes.outputsFor machine k start inputs' := by
  obtain ⟨ends, said⟩ := separates.never_dropped valid inputs kept
  obtain ⟨ends', said'⟩ := separates.never_dropped valid inputs' kept'
  rw [same] at ends said
  refine ⟨?_, said.trans said'.symm⟩
  have absent := separates.absent_iff valid kept
  have absent' := separates.absent_iff valid kept'
  rw [same, ← absent'] at absent
  have both := ends.trans ends'.symm
  unfold current at both
  cases found : lanes.lookup (machine.run start inputs) k with
  | none => exact (absent.mp found).symm
  | some reached =>
      cases found' : lanes.lookup (machine.run start inputs') k with
      | none =>
          rw [absent.mpr found'] at found
          cases found
      | some reached' =>
          rw [found, found', Option.getD_some, Option.getD_some] at both
          rw [both]

end Separates

end Lanes

end DpktNg.Library
