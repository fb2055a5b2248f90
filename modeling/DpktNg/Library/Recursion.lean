/-
Recursion on inputs that get smaller.  A function is given by its body, which
takes the calls it makes as an argument.  Where the body calls the function on
smaller inputs only, the equation of the function has a solution.

Loops that go round until they are left: what such a loop returns, and that it
does return when every round makes a measure smaller.
-/

import Mathlib

namespace DpktNg.Library

variable {Input Output : Type}

/-- The function that a body describes.  Calls on inputs that are not smaller
are cut off, which `CallsSmaller` says do not happen. -/
def tie (size : Input → Nat) (cutOff : Output)
    (body : (Input → Output) → Input → Output) (input : Input) : Output :=
  body (fun smaller =>
    if size smaller < size input then tie size cutOff body smaller
    else cutOff) input
termination_by size input

/-- The result of the body depends on calls on smaller inputs only. -/
def CallsSmaller (size : Input → Nat)
    (body : (Input → Output) → Input → Output) : Prop :=
  ∀ first second input,
    (∀ smaller, size smaller < size input → first smaller = second smaller) →
      body first input = body second input

/-- The recursive equation, without the cut. -/
theorem tie_eq {size : Input → Nat} {cutOff : Output}
    {body : (Input → Output) → Input → Output}
    (calls : CallsSmaller size body) (input : Input) :
    tie size cutOff body input = body (tie size cutOff body) input := by
  rw [tie]
  apply calls
  intro smaller less
  exact if_pos less

/-- A property that the body keeps, whatever it is of the results of its
calls, holds of every result. -/
theorem tie_induction {size : Input → Nat} {cutOff : Output}
    {body : (Input → Output) → Input → Output}
    (Holds : Input → Output → Prop) (atCut : ∀ input, Holds input cutOff)
    (kept : ∀ calls, (∀ input, Holds input (calls input)) →
      ∀ input, Holds input (body calls input)) (input : Input) :
    Holds input (tie size cutOff body input) := by
  induction less : size input using Nat.strongRecOn generalizing input with
  | ind bound ih =>
      rw [tie]
      apply kept
      intro smaller
      split
      · rename_i shorter
        exact ih _ (by omega) smaller rfl
      · exact atCut smaller

variable {State Result : Type}

/-- A loop in at most `fuel` rounds.  A round either leaves with a result or
goes on from another state. -/
def loop (round : State → Result ⊕ State) : Nat → State → Option Result
  | 0, _ => none
  | fuel + 1, state =>
      match round state with
      | .inl result => some result
      | .inr next => loop round fuel next

/-- Enough rounds lead to the result. -/
def LoopReturns (round : State → Result ⊕ State) (state : State)
    (result : Result) : Prop :=
  ∃ fuel, loop round fuel state = some result

variable {round : State → Result ⊕ State} {state next : State}
  {result : Result}

theorem loop_done (fuel : Nat) (leaves : round state = .inl result) :
    loop round (fuel + 1) state = some result := by
  unfold loop
  rw [leaves]

theorem loop_next (fuel : Nat) (goes : round state = .inr next) :
    loop round (fuel + 1) state = loop round fuel next := by
  rw [loop, goes]

theorem loopReturns_done (leaves : round state = .inl result)
    {other : Result} :
    LoopReturns round state other ↔ other = result := by
  constructor
  · rintro ⟨fuel, returned⟩
    cases fuel with
    | zero => cases returned
    | succ fuel =>
        rw [loop_done fuel leaves, Option.some.injEq] at returned
        exact returned.symm
  · rintro rfl
    exact ⟨1, loop_done 0 leaves⟩

theorem loopReturns_next (goes : round state = .inr next) :
    LoopReturns round state result ↔ LoopReturns round next result := by
  constructor
  · rintro ⟨fuel, returned⟩
    cases fuel with
    | zero => cases returned
    | succ fuel =>
        rw [loop_next fuel goes] at returned
        exact ⟨fuel, returned⟩
  · rintro ⟨fuel, returned⟩
    exact ⟨fuel + 1, (loop_next fuel goes).trans returned⟩

/-- What holds of a state is kept by every round, and of a result follows from
the round that leaves with it. -/
theorem LoopReturns.invariant {Holds : State → Prop} {Found : Result → Prop}
    (leaving : ∀ {state result}, Holds state → round state = .inl result →
      Found result)
    (going : ∀ {state next}, Holds state → round state = .inr next →
      Holds next)
    (returned : LoopReturns round state result) (initially : Holds state) :
    Found result := by
  obtain ⟨fuel, returned⟩ := returned
  induction fuel generalizing state with
  | zero => cases returned
  | succ fuel ih =>
      cases outcome : round state with
      | inl left =>
          rw [loop_done fuel outcome, Option.some.injEq] at returned
          rw [← returned]
          exact leaving initially outcome
      | inr next =>
          rw [loop_next fuel outcome] at returned
          exact ih (going initially outcome) returned

/-- The states that rounds lead to. -/
def Reaches (round : State → Result ⊕ State) : State → State → Prop :=
  Relation.ReflTransGen fun state next => round state = .inr next

theorem Reaches.invariant {Holds : State → Prop}
    (going : ∀ {state next}, Holds state → round state = .inr next →
      Holds next)
    (reached : Reaches round state next) (initially : Holds state) :
    Holds next := by
  induction reached with
  | refl => exact initially
  | tail _before goes ih => exact going ih goes

/-- A measure that every round makes smaller bounds the rounds. -/
theorem loop_of_decreasing {measure : State → Nat}
    (smaller : ∀ {state next}, round state = .inr next →
      measure next < measure state) (state : State) :
    ∃ result, loop round (measure state + 1) state = some result := by
  have bounded (fuel : Nat) : ∀ state, measure state < fuel →
      ∃ result, loop round fuel state = some result := by
    induction fuel with
    | zero =>
        intro state impossible
        omega
    | succ fuel ih =>
        intro state enough
        cases outcome : round state with
        | inl result => exact ⟨result, loop_done fuel outcome⟩
        | inr next =>
            have less := smaller outcome
            rw [loop_next fuel outcome]
            exact ih next (by omega)
  exact bounded _ state (Nat.lt_succ_self _)

end DpktNg.Library
