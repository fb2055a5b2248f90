/-
The IMAP parser that is fed the stream, dpkt/imap.py.
-/

import DpktNg.Imap.Response

namespace DpktNg.Imap

open Library

/-- The attributes of `IMAPStreamParser` besides its buffer.  There is no
pending line before the first literal. -/
structure IMAPState where
  commands : List IMAPCommand
  responses : List IMAPResponse
  litPending : Nat
  pendingLine : Option Bytes

namespace IMAPStreamParser

/-- A line that `_dispatch_line` takes for a response. -/
def isResponse (stripped : Bytes) : Bool :=
  let parts := splitUpTo 0x20 1 stripped
  (asciiBytes "*").isPrefixOf stripped || (asciiBytes "+").isPrefixOf stripped ||
    (parts.length ≥ 2 && (["OK", "NO", "BAD"].map asciiBytes).contains
      ((splitUpTo 0x20 1 (parts.getD 1 [])).getD 0 []))

def dispatchLine (state : IMAPState) (line : Bytes) : IMAPState :=
  if isResponse (rstripLine line) then
    { state with responses := state.responses ++ [IMAPResponse.parse line] }
  else { state with commands := state.commands ++ [IMAPCommand.parse line] }

/-- The size of a literal that follows a line, where it ends in one. -/
def literalSize (stripped : Bytes) : Option Nat :=
  if 0x7b ∈ stripped ∧ 0x7d ∈ stripped ∧ stripped.getLast? = some 0x7d then
    let s := cut stripped (stripped.idxOf 0x7b + 1) (stripped.length - 1)
    if isDigits s then some (intOfDigits s) else none
  else none

def processLine (state : IMAPState) (line : Bytes) : IMAPState :=
  let stripped := rstripLine line
  if stripped = [] then state
  else
    match literalSize stripped with
    | some size => { state with litPending := size, pendingLine := some line }
    | none => dispatchLine state line

/-- The pending line with its literal, which has come. -/
def endLiteral (state : IMAPState) (litData : Bytes) : IMAPState :=
  let state := { state with litPending := 0 }
  match state.pendingLine with
  | some line =>
      { dispatchLine state (line ++ litData) with pendingLine := none }
  | none => state

/-- What the loop of `_process` does next.  A literal that has come is done
with before the line behind it, which takes another turn here. -/
def step (state : IMAPState) (buffer : Bytes) : Option (IMAPState × Bytes) :=
  if state.litPending ≠ 0 then
    if buffer.length ≥ state.litPending then
      some (endLiteral state (buffer.take state.litPending),
        buffer.drop state.litPending)
    else none
  else
    (takeLine buffer).map fun taken => (processLine state taken.1, taken.2)

theorem step_literal {state : IMAPState} {buffer : Bytes}
    (pending : state.litPending ≠ 0)
    (whole : state.litPending ≤ buffer.length) :
    step state buffer = some
      (endLiteral state (buffer.take state.litPending),
        buffer.drop state.litPending) := by
  unfold step
  rw [if_pos pending, if_pos whole]

theorem step_line {state : IMAPState} {buffer : Bytes}
    (none : state.litPending = 0) :
    step state buffer = (takeLine buffer).map fun taken =>
      (processLine state taken.1, taken.2) :=
  if_neg (not_not.mpr none)

theorem step_cases {state next : IMAPState} {buffer rest : Bytes}
    (stepped : step state buffer = some (next, rest)) :
    (state.litPending ≠ 0 ∧ state.litPending ≤ buffer.length ∧
      next = endLiteral state (buffer.take state.litPending) ∧
      rest = buffer.drop state.litPending) ∨
    (state.litPending = 0 ∧ ∃ line, takeLine buffer = some (line, rest) ∧
      next = processLine state line) := by
  by_cases pending : state.litPending = 0
  · rw [step_line pending] at stepped
    obtain ⟨⟨line, behind⟩, taken, same⟩ := Option.map_eq_some_iff.mp stepped
    rw [Prod.mk.injEq] at same
    rw [← same.2]
    exact Or.inr ⟨pending, line, taken, same.1.symm⟩
  · by_cases whole : state.litPending ≤ buffer.length
    · rw [step_literal pending whole, Option.some.injEq, Prod.mk.injEq]
        at stepped
      exact Or.inl ⟨pending, whole, stepped.1.symm, stepped.2.symm⟩
    · unfold step at stepped
      rw [if_pos pending, if_neg whole] at stepped
      cases stepped

end IMAPStreamParser

/-- The loop of `_process`. -/
def imapFeeder : Feeder IMAPState UInt8 where
  step := IMAPStreamParser.step
  shorter := by
    intro s t xs ys stepped
    rcases IMAPStreamParser.step_cases stepped with
      ⟨pending, whole, _next, rfl⟩ | ⟨_none, line, taken, _next⟩
    · rw [List.length_drop]
      omega
    · exact takeLine_shorter taken
  stable := by
    intro s t xs ys stepped more
    rcases IMAPStreamParser.step_cases stepped with
      ⟨pending, whole, rfl, rfl⟩ | ⟨none, line, taken, rfl⟩
    · have wholeToo : s.litPending ≤ (xs ++ more).length := by
        rw [List.length_append]
        omega
      rw [IMAPStreamParser.step_literal pending wholeToo,
        List.take_append_of_le_length whole,
        List.drop_append_of_le_length whole]
    · rw [IMAPStreamParser.step_line none, takeLine_more taken more]
      rfl

abbrev IMAPStreamParser := Fed IMAPState UInt8

namespace IMAPStreamParser

def fresh : IMAPStreamParser :=
  { state :=
      { commands := [], responses := [], litPending := 0, pendingLine := none }
    buffer := [] }

def feed (parser : IMAPStreamParser) (data : Bytes) : IMAPStreamParser :=
  imapFeeder.feed parser data

def feedAll (parser : IMAPStreamParser) (chunks : List Bytes) :
    IMAPStreamParser :=
  chunks.foldl feed parser

theorem feedAll_eq_feed {stream : Bytes} (chunks : Cutting stream) :
    fresh.feedAll chunks.pieces = fresh.feed stream :=
  Feeder.feedAll_eq_feed _ chunks

end IMAPStreamParser

end DpktNg.Imap
