/-
Computations that examine pieces of their input one after another.  What such a
computation examines is a list of texts; when it stops early for a reason that
is expected, the list ends there.  It escapes with an unexpected error exactly
when one of the texts is bad.
-/

import DpktNg.Library.Codec

namespace DpktNg.Library

/-- The texts that a computation comes across, and what it passes on, `none`
where it stops early. -/
structure Shown (Text β : Type) where
  texts : List Text
  next : Option β

namespace Shown

variable {Text β γ : Type}

def stop : Shown Text β := ⟨[], none⟩

def pass (seen : β) : Shown Text β := ⟨[], some seen⟩

/-- Stops where the condition does not hold. -/
def require (condition : Prop) [Decidable condition] : Shown Text Unit :=
  if condition then pass () else stop

def andThen (first : Shown Text β) (rest : β → Shown Text γ) : Shown Text γ :=
  match first.next with
  | none => ⟨first.texts, none⟩
  | some seen => ⟨first.texts ++ (rest seen).texts, (rest seen).next⟩

/-- The same computation several times, each time from where the last one
ended. -/
def many (shown : β → Shown Text β) : Nat → β → Shown Text β
  | 0, seen => pass seen
  | count + 1, seen => (shown seen).andThen (many shown count)

@[simp] theorem andThen_pass (shown : Shown Text β) :
    shown.andThen pass = shown := by
  obtain ⟨texts, next⟩ := shown
  cases next with
  | none => rfl
  | some seen =>
      change (⟨texts ++ [], some seen⟩ : Shown Text β) = _
      rw [List.append_nil]

end Shown

variable {Text Error α β : Type} (Allowed : Error → Prop) (Bad : Text → Prop)

/-- The result of a computation, of which `view` is what it passes on. -/
structure Checks (view : α → β) (shown : Shown Text β)
    (result : Except Error α) : Prop where
  refused : (∃ text ∈ shown.texts, Bad text) → Escapes Allowed result
  stopped : (∀ text ∈ shown.texts, ¬Bad text) → shown.next = none →
    ∃ problem, result = .error problem ∧ Allowed problem
  passed : (∀ text ∈ shown.texts, ¬Bad text) →
    ∀ seen, shown.next = some seen →
      ∃ value, result = .ok value ∧ view value = seen

namespace Checks

variable {Allowed Bad} {view : α → β} {shown : Shown Text β}
  {result : Except Error α}

theorem ok {value : α} {seen : β} (same : view value = seen) :
    Checks Allowed Bad view (.pass seen) (.ok value) where
  refused := by
    intro bad
    obtain ⟨text, impossible, _bad⟩ := bad
    cases impossible
  stopped := by
    intro _fine impossible
    cases impossible
  passed := by
    intro _fine other found
    exact ⟨value, rfl, same.trans (Option.some.inj found)⟩

theorem error {problem : Error} (allowed : Allowed problem) :
    Checks Allowed Bad view .stop (.error problem) where
  refused := by
    intro bad
    obtain ⟨text, impossible, _bad⟩ := bad
    cases impossible
  stopped := by
    intro _fine _stop
    exact ⟨problem, rfl, allowed⟩
  passed := by
    intro _fine seen impossible
    cases impossible

theorem one {text : Text} {seen : β} (bad : Bad text → Escapes Allowed result)
    (fine : ¬Bad text → ∃ value, result = .ok value ∧ view value = seen) :
    Checks Allowed Bad view ⟨[text], some seen⟩ result where
  refused := by
    intro some_bad
    obtain ⟨other, member, isBad⟩ := some_bad
    rw [List.mem_singleton.mp member] at isBad
    exact bad isBad
  stopped := by
    intro _fine impossible
    cases impossible
  passed := by
    intro allFine other same
    rw [← Option.some.inj same]
    exact fine (allFine text (List.mem_singleton.mpr rfl))

/-- One text after another: what the second computation comes across may depend
on what the first one passes on. -/
theorem bind {α' γ : Type} {view' : α' → γ} {rest : β → Shown Text γ}
    {next : α → Except Error α'}
    (first : Checks Allowed Bad view shown result)
    (second : ∀ value, result = .ok value →
      Checks Allowed Bad view' (rest (view value)) (next value)) :
    Checks Allowed Bad view' (shown.andThen rest) (result >>= next) := by
  cases passedOn : shown.next with
  | none =>
      have same : shown.andThen rest = ⟨shown.texts, none⟩ := by
        unfold Shown.andThen
        rw [passedOn]
      rw [same]
      refine ⟨?_, ?_, ?_⟩
      · intro bad
        exact escapes_bind.mpr (Or.inl (first.refused bad))
      · intro fine _stop
        obtain ⟨problem, raised, allowed⟩ := first.stopped fine passedOn
        refine ⟨problem, ?_, allowed⟩
        rw [raised]
        rfl
      · intro _fine seen impossible
        cases impossible
  | some seen =>
      have same : shown.andThen rest =
          ⟨shown.texts ++ (rest seen).texts, (rest seen).next⟩ := by
        unfold Shown.andThen
        rw [passedOn]
      rw [same]
      by_cases fineFirst : ∀ text ∈ shown.texts, ¬Bad text
      · obtain ⟨value, returned, viewed⟩ :=
          first.passed fineFirst seen passedOn
        have behind := second value returned
        rw [viewed] at behind
        rw [returned, ok_bind]
        refine ⟨?_, ?_, ?_⟩
        · intro bad
          obtain ⟨text, member, bad⟩ := bad
          rcases List.mem_append.mp member with early | late
          · exact absurd bad (fineFirst text early)
          · exact behind.refused ⟨text, late, bad⟩
        · intro fine
          exact behind.stopped fun text late =>
            fine text (List.mem_append_right _ late)
        · intro fine
          exact behind.passed fun text late =>
            fine text (List.mem_append_right _ late)
      · have early : ∃ text ∈ shown.texts, Bad text := by
          by_contra none
          exact fineFirst fun text member bad => none ⟨text, member, bad⟩
        refine ⟨?_, ?_, ?_⟩
        · intro _bad
          exact escapes_bind.mpr (Or.inl (first.refused early))
        · intro fine
          exact absurd (fun text member =>
            fine text (List.mem_append_left _ member)) fineFirst
        · intro fine
          exact absurd (fun text member =>
            fine text (List.mem_append_left _ member)) fineFirst

theorem escapes_iff (checks : Checks Allowed Bad view shown result) :
    Escapes Allowed result ↔ ∃ text ∈ shown.texts, Bad text := by
  constructor
  · intro escapes
    by_contra none
    have fine : ∀ text ∈ shown.texts, ¬Bad text :=
      fun text member bad => none ⟨text, member, bad⟩
    cases passedOn : shown.next with
    | none =>
        obtain ⟨problem, raised, allowed⟩ := checks.stopped fine passedOn
        rw [raised] at escapes
        exact not_escapes_error allowed escapes
    | some seen =>
        obtain ⟨value, returned, _viewed⟩ := checks.passed fine seen passedOn
        rw [returned] at escapes
        exact not_escapes_ok value escapes
  · exact checks.refused

theorem require {condition : Prop} [Decidable condition]
    (holds : condition → Checks Allowed Bad view shown result)
    (fails : ¬condition → ∃ problem, result = .error problem ∧
      Allowed problem) :
    Checks Allowed Bad view
      ((Shown.require condition).andThen fun _ => shown) result := by
  unfold Shown.require
  by_cases true_here : condition
  · rw [if_pos true_here]
    exact holds true_here
  · rw [if_neg true_here]
    obtain ⟨problem, raised, allowed⟩ := fails true_here
    rw [raised]
    exact error allowed

/-- A choice that the list of texts makes as well. -/
theorem branch {condition : Prop} [Decidable condition]
    {shown' : Shown Text β} {result' : Except Error α}
    (yes : condition → Checks Allowed Bad view shown result)
    (no : ¬condition → Checks Allowed Bad view shown' result') :
    Checks Allowed Bad view (if condition then shown else shown')
      (if condition then result else result') := by
  split
  · rename_i holds
    exact yes holds
  · rename_i fails
    exact no fails

theorem map {α' : Type} {view' : α' → β} {wrap : α → α'}
    (first : Checks Allowed Bad view shown result)
    (kept : ∀ value, view' (wrap value) = view value) :
    Checks Allowed Bad view' shown
      (result >>= fun value => .ok (wrap value)) := by
  rw [← shown.andThen_pass]
  refine first.bind fun value _returned => ?_
  exact ok (kept value)

theorem void (first : Checks Allowed Bad view shown result) :
    Checks Allowed Bad (fun _value => ())
      (shown.andThen fun _seen => .pass ()) result := by
  have kept : result >>= Except.ok = result := by
    cases result with
    | error problem => rfl
    | ok value => rfl
  rw [← kept]
  exact first.bind fun _value _returned => ok rfl

theorem readMany {Symbol Item : Type} {read : Reader Symbol Item Error}
    {out : List Symbol} {shown : Nat → Shown Text Nat}
    (each : ∀ off, Checks Allowed Bad Prod.snd (shown off) (read out off))
    (off count : Nat) :
    Checks Allowed Bad Prod.snd (.many shown count off)
      (Library.readMany read out off count) := by
  induction count generalizing off with
  | zero => exact ok rfl
  | succ count ih =>
      rw [Library.readMany, Shown.many]
      refine (each off).bind fun value _returned => ?_
      exact (ih value.2).map fun _rest => rfl

end Checks

end DpktNg.Library
