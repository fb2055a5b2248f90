/-
Deterministic machines that consume one input at a time and yield one output,
with the rules by which a fact about a single step becomes a fact about every
run.  The history rule lets an invariant mention the inputs consumed and the
outputs produced so far; the simulation rule compares two runs step by step.
-/

import Mathlib

namespace DpktNg.Library

structure Machine (State Input Output : Type) where
  step : State → Input → State × Output

namespace Machine

variable {State Input Output : Type}

def run (machine : Machine State Input Output) :
    State → List Input → State
  | state, [] => state
  | state, input :: rest => machine.run (machine.step state input).1 rest

/-- The outputs of a run, one for each input. -/
def trace (machine : Machine State Input Output) :
    State → List Input → List Output
  | _, [] => []
  | state, input :: rest =>
      (machine.step state input).2 ::
        machine.trace (machine.step state input).1 rest

variable (machine : Machine State Input Output)

@[simp] theorem run_nil (state : State) : machine.run state [] = state := rfl

@[simp] theorem trace_nil (state : State) : machine.trace state [] = [] := rfl

@[simp] theorem run_cons (state : State) (input : Input)
    (rest : List Input) :
    machine.run state (input :: rest) =
      machine.run (machine.step state input).1 rest := rfl

@[simp] theorem trace_cons (state : State) (input : Input)
    (rest : List Input) :
    machine.trace state (input :: rest) =
      (machine.step state input).2 ::
        machine.trace (machine.step state input).1 rest := rfl

theorem run_append (state : State) (first second : List Input) :
    machine.run state (first ++ second) =
      machine.run (machine.run state first) second := by
  induction first generalizing state with
  | nil => rfl
  | cons input rest ih => exact ih (machine.step state input).1

theorem trace_append (state : State) (first second : List Input) :
    machine.trace state (first ++ second) =
      machine.trace state first ++
        machine.trace (machine.run state first) second := by
  induction first generalizing state with
  | nil => rfl
  | cons input rest ih =>
      simp only [List.cons_append, trace_cons, run_cons]
      rw [ih]

theorem run_snoc (state : State) (before : List Input) (input : Input) :
    machine.run state (before ++ [input]) =
      (machine.step (machine.run state before) input).1 :=
  machine.run_append state before [input]

theorem trace_snoc (state : State) (before : List Input) (input : Input) :
    machine.trace state (before ++ [input]) =
      machine.trace state before ++
        [(machine.step (machine.run state before) input).2] :=
  machine.trace_append state before [input]

/-- The history rule.  `Holds` may speak about the inputs consumed and the
outputs produced, and the step it has to survive is known to be a step of the
run in question. -/
theorem history_invariant (start : State) (inputs : List Input)
    (Holds : List Input → List Output → State → Prop)
    (initially : Holds [] [] start)
    (preserved : ∀ before input after, inputs = before ++ input :: after →
      Holds before (machine.trace start before) (machine.run start before) →
      Holds (before ++ [input]) (machine.trace start (before ++ [input]))
        (machine.run start (before ++ [input]))) :
    Holds inputs (machine.trace start inputs) (machine.run start inputs) := by
  have prefixes : ∀ before after, inputs = before ++ after →
      Holds before (machine.trace start before)
        (machine.run start before) := by
    intro before
    induction before using List.reverseRecOn with
    | nil => intro _after _split; exact initially
    | append_singleton before input ih =>
        intro after split
        have rearranged : inputs = before ++ input :: after := by
          rw [split, List.append_assoc, List.singleton_append]
        exact preserved before input after rearranged (ih _ rearranged)
  exact prefixes inputs [] (List.append_nil inputs).symm

/-- The invariant rule for a property of the state alone, when every input of
the run is one that the step lemma covers. -/
theorem invariant (Allowed : Input → Prop) (Holds : State → Prop)
    (preserved : ∀ state input, Allowed input → Holds state →
      Holds (machine.step state input).1)
    (start : State) (initially : Holds start)
    (inputs : List Input) (allowed : ∀ input ∈ inputs, Allowed input) :
    Holds (machine.run start inputs) := by
  induction inputs generalizing start with
  | nil => exact initially
  | cons input rest ih =>
      have first : Holds (machine.step start input).1 :=
        preserved start input (allowed input List.mem_cons_self) initially
      exact ih _ first
        (fun other member => allowed other (List.mem_cons_of_mem input member))

/-- The simulation rule: matching inputs keep the states related and produce
equal outputs, so the two runs end related and their traces are equal. -/
theorem simulation {State' Input' : Type}
    (machine' : Machine State' Input' Output)
    (Related : State → State' → Prop) (Matches : Input → Input' → Prop)
    (preserved : ∀ state state' input input',
      Related state state' → Matches input input' →
        Related (machine.step state input).1
            (machine'.step state' input').1 ∧
          (machine.step state input).2 = (machine'.step state' input').2)
    (inputs : List Input) (inputs' : List Input')
    (matched : List.Forall₂ Matches inputs inputs')
    (state : State) (state' : State') (related : Related state state') :
    Related (machine.run state inputs) (machine'.run state' inputs') ∧
      machine.trace state inputs = machine'.trace state' inputs' := by
  induction matched generalizing state state' with
  | nil => exact ⟨related, rfl⟩
  | cons first _rest ih =>
      obtain ⟨next, sameOutput⟩ :=
        preserved state state' _ _ related first
      obtain ⟨final, sameTrace⟩ := ih _ _ next
      refine ⟨final, ?_⟩
      rw [trace_cons, trace_cons, sameOutput, sameTrace]

end Machine

end DpktNg.Library
