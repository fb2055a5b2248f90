/-
Machines that are fed a stream piece by piece.  What is not yet taken waits in
a buffer, and a step takes something off its front.  Where a step does not
depend on what comes later, only the joined stream matters, not the pieces.
-/

import Mathlib

namespace DpktNg.Library

variable {σ α : Type}

/-- A state, and what was fed and not yet taken. -/
structure Fed (σ α : Type) where
  state : σ
  buffer : List α

/-- One step yields the next state and what it leaves of the buffer; `none` is
a buffer that has to grow first. -/
structure Feeder (σ α : Type) where
  step : σ → List α → Option (σ × List α)
  shorter : ∀ {s t xs ys}, step s xs = some (t, ys) → ys.length < xs.length
  stable : ∀ {s t xs ys}, step s xs = some (t, ys) →
    ∀ more, step s (xs ++ more) = some (t, ys ++ more)

/-- A way of cutting a stream into consecutive pieces. -/
structure Cutting (stream : List α) where
  pieces : List (List α)
  joined : pieces.flatten = stream

namespace Feeder

variable (feeder : Feeder σ α)

/-- Steps as long as there are any. -/
def drain (s : σ) (xs : List α) : Fed σ α :=
  match _taken : feeder.step s xs with
  | none => { state := s, buffer := xs }
  | some (t, ys) => drain t ys
termination_by xs.length
decreasing_by exact feeder.shorter (by assumption)

def feed (fed : Fed σ α) (piece : List α) : Fed σ α :=
  feeder.drain fed.state (fed.buffer ++ piece)

def feedAll (fed : Fed σ α) (pieces : List (List α)) : Fed σ α :=
  pieces.foldl feeder.feed fed

variable {feeder}

theorem drain_none {s : σ} {xs : List α} (stuck : feeder.step s xs = none) :
    feeder.drain s xs = { state := s, buffer := xs } := by
  rw [drain]
  split
  · rfl
  · rename_i t ys taken
    rw [stuck] at taken
    cases taken

theorem drain_some {s t : σ} {xs ys : List α}
    (taken : feeder.step s xs = some (t, ys)) :
    feeder.drain s xs = feeder.drain t ys := by
  rw [drain]
  split
  · rename_i stuck
    rw [taken] at stuck
    cases stuck
  · rename_i t' ys' taken'
    rw [taken, Option.some.injEq, Prod.mk.injEq] at taken'
    rw [taken'.1, taken'.2]

theorem step_nil (s : σ) : feeder.step s [] = none := by
  cases taken : feeder.step s [] with
  | none => rfl
  | some result =>
      obtain ⟨t, ys⟩ := result
      exact absurd (feeder.shorter taken) (Nat.not_lt_zero _)

/-- The induction over the steps: at the end nothing is left to take. -/
theorem drain_induction {P : σ → List α → Fed σ α → Prop}
    (stuck : ∀ s xs, feeder.step s xs = none →
      P s xs { state := s, buffer := xs })
    (taken : ∀ s xs t ys, feeder.step s xs = some (t, ys) →
      P t ys (feeder.drain t ys) → P s xs (feeder.drain t ys))
    (s : σ) (xs : List α) : P s xs (feeder.drain s xs) := by
  induction size : xs.length using Nat.strong_induction_on
    generalizing s xs with
  | _ bound ih =>
      cases next : feeder.step s xs with
      | none =>
          rw [drain_none next]
          exact stuck s xs next
      | some result =>
          obtain ⟨t, ys⟩ := result
          have shorter := feeder.shorter next
          rw [drain_some next]
          exact taken s xs t ys next (ih _ (by omega) t ys rfl)

/-- What comes later can be fed later. -/
theorem drain_append (s : σ) (xs more : List α) :
    feeder.drain s (xs ++ more) = feeder.feed (feeder.drain s xs) more := by
  refine drain_induction (P := fun s xs fed =>
    feeder.drain s (xs ++ more) = feeder.feed fed more) ?_ ?_ s xs
  · intro s xs _stuck
    rfl
  · intro s xs t ys taken ih
    rw [drain_some (feeder.stable taken more)]
    exact ih

theorem feed_feed (fed : Fed σ α) (first second : List α) :
    feeder.feed (feeder.feed fed first) second =
      feeder.feed fed (first ++ second) := by
  have later := @drain_append _ _ feeder fed.state
    (fed.buffer ++ first) second
  rw [List.append_assoc] at later
  exact later.symm

theorem feed_nothing (s : σ) :
    feeder.feed { state := s, buffer := [] } [] =
      { state := s, buffer := [] } :=
  drain_none (step_nil s)

theorem feedAll_flatten (s : σ) (pieces : List (List α)) :
    feeder.feedAll { state := s, buffer := [] } pieces =
      feeder.feed { state := s, buffer := [] } pieces.flatten := by
  have joined : ∀ (fed : Fed σ α) (first : List α),
      feeder.feedAll (feeder.feed fed first) pieces =
        feeder.feed fed (first ++ pieces.flatten) := by
    induction pieces with
    | nil =>
        intro fed first
        rw [List.flatten_nil, List.append_nil]
        rfl
    | cons piece rest ih =>
        intro fed first
        change feeder.feedAll (feeder.feed (feeder.feed fed first) piece) rest
          = _
        rw [feed_feed, ih, List.flatten_cons, List.append_assoc]
  have start := joined { state := s, buffer := [] } []
  rw [feed_nothing, List.nil_append] at start
  exact start

/-- A stream fed in pieces is the stream fed at once. -/
theorem feedAll_eq_feed (s : σ) {stream : List α} (cutting : Cutting stream) :
    feeder.feedAll { state := s, buffer := [] } cutting.pieces =
      feeder.feed { state := s, buffer := [] } stream := by
  rw [feedAll_flatten, cutting.joined]

/-- The steps over whole records, and an unfinished one behind them. -/
theorem drain_records {f : σ → List α → σ} {records : List (List α)}
    {rest : List α}
    (whole : ∀ record ∈ records, ∀ s behind,
      feeder.step s (record ++ behind) = some (f s record, behind))
    (unfinished : ∀ s, feeder.step s rest = none) (s : σ) :
    feeder.drain s (records.flatten ++ rest) =
      { state := records.foldl f s, buffer := rest } := by
  induction records generalizing s with
  | nil => exact drain_none (unfinished s)
  | cons record later ih =>
      rw [List.flatten_cons, List.append_assoc,
        drain_some (whole record List.mem_cons_self s _)]
      exact ih (fun r member => whole r (List.mem_cons_of_mem _ member)) _

/-- Records are taken one by one, in whatever pieces they come. -/
theorem feedAll_records {f : σ → List α → σ} {records : List (List α)}
    (cutting : Cutting records.flatten)
    (whole : ∀ record ∈ records, ∀ s behind,
      feeder.step s (record ++ behind) = some (f s record, behind)) (s : σ) :
    feeder.feedAll { state := s, buffer := [] } cutting.pieces =
      { state := records.foldl f s, buffer := [] } := by
  have drained := drain_records whole step_nil s
  rw [List.append_nil] at drained
  rw [feedAll_eq_feed]
  exact drained

end Feeder

end DpktNg.Library
