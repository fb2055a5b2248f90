/-
Retransmitted SYNs.  Every SYN sets `next_seq` back to 1 and leaves what was
delivered or buffered alone, so a repeated one is harmless exactly as long as
the first byte of the stream has not arrived.
-/

import DpktNg.Stream.Reassembly

namespace DpktNg.Stream

open Library DirectionBuffer

/-- A step of a stream, or the opening SYN once more: the same sequence
number, no payload, and any acknowledgement number and further flags. -/
inductive SynStep where
  | synAgain (ack : Int) (flags : Nat) (syn : flags &&& thSyn ≠ 0)
  | other (step : StreamStep)

def SynStep.toCall (stream : Bytes) (isn : Int) : SynStep → Call
  | .synAgain ack flags _ => .feed isn ack [] flags
  | .other step =>
      step.toCall stream (fun position => isn + 1 + position) false

def SynStep.other? : SynStep → Option StreamStep
  | .synAgain _ _ _ => none
  | .other step => some step

/-- The run with the repeated SYNs removed. -/
def withoutRepeats (steps : List SynStep) : List StreamStep :=
  steps.filterMap SynStep.other?

section TwoRuns

variable (stream : Bytes) (isn ack : Int) (steps : List SynStep)

def repeatedCalls : List Call := steps.map (SynStep.toCall stream isn)

def plainCalls : List Call :=
  (withoutRepeats steps).map
    (StreamStep.toCall stream (fun position => isn + 1 + position) false)

def repeatedBuffer : DirectionBuffer :=
  machine.run (opened isn ack) (repeatedCalls stream isn steps)

def plainBuffer : DirectionBuffer :=
  machine.run (opened isn ack) (plainCalls stream isn steps)

/-- What `get_data` has returned, call by call. -/
def repeatedResults : List Bytes :=
  (machine.trace (opened isn ack) (repeatedCalls stream isn steps)).reduceOption

def plainResults : List Bytes :=
  (machine.trace (opened isn ack) (plainCalls stream isn steps)).reduceOption

/-- After these steps the two runs look the same, and what was delivered is a
prefix of the stream. -/
structure SameView : Prop where
  results : repeatedResults stream isn ack steps =
    plainResults stream isn ack steps
  nextSeq : (repeatedBuffer stream isn ack steps).nextSeq =
    (plainBuffer stream isn ack steps).nextSeq
  segments : (repeatedBuffer stream isn ack steps).segments =
    (plainBuffer stream isn ack steps).segments
  totalBuffered : (repeatedBuffer stream isn ack steps).totalBuffered =
    (plainBuffer stream isn ack steps).totalBuffered
  once : (repeatedResults stream isn ack steps).flatten <+: stream

/-- The two runs look the same after every step. -/
def SynsHarmless : Prop :=
  ∀ before, before <+: steps → SameView stream isn ack before

/-- No repeated SYN comes after a slice with the first byte of the stream. -/
def SynsBeforeData : Prop :=
  ∀ before synAck flags syn after,
    steps = before ++ SynStep.synAgain synAck flags syn :: after →
    0 ∉ fedPositions stream (withoutRepeats before)

end TwoRuns

theorem feed_syn_empty (buf : DirectionBuffer) (seq ack : Int) (flags : Nat)
    (syn : flags &&& thSyn ≠ 0) :
    buf.feed seq ack [] flags =
      { buf with isn := some seq, synReceived := true, nextSeq := 1 } := by
  unfold DirectionBuffer.feed feedSyn
  rw [if_pos syn]
  rfl

theorem call_synReceived (buf : DirectionBuffer) (call : Call)
    (received : buf.synReceived = true) :
    (buf.call call).1.synReceived = true := by
  cases call with
  | getData fill => cases fill <;> exact received
  | feed seq ack payload flags =>
      change (buf.feed seq ack payload flags).synReceived = true
      unfold DirectionBuffer.feed feedSyn noteFin feedPayload
      repeat' split
      all_goals first | rfl | exact received

theorem run_synReceived (isn ack : Int) (calls : List Call) :
    (machine.run (opened isn ack) calls).synReceived = true :=
  machine.invariant (fun _ => True) (fun buf => buf.synReceived = true)
    (fun buf call _ received => call_synReceived buf call received)
    (opened isn ack) rfl calls (fun _ _ => trivial)

/-- The first byte of the stream has arrived exactly when `next_seq` has moved
on: nothing buffered starts as early as position 1. -/
theorem Reassembled.first_received {stream : Bytes} {isn : Int}
    {received : Set Nat} {output : Bytes} {buf : DirectionBuffer}
    (reassembled : Reassembled stream isn received output buf) :
    0 ∈ received ↔ buf.nextSeq ≠ 1 := by
  have started := reassembled.wellFormed.started reassembled.isn_ne_none
  rw [reassembled.covered]
  constructor
  · intro present
    rcases present with early | inside
    · omega
    · obtain ⟨seg, member, covers⟩ := inside
      have ahead := reassembled.wellFormed.ahead seg member
      have start := covers.1
      omega
  · intro moved
    exact Or.inl (by omega)

theorem plain_first_received (stream : Bytes) (isn ack : Int)
    (steps : List SynStep) :
    0 ∈ fedPositions stream (withoutRepeats steps) ↔
      (plainBuffer stream isn ack steps).nextSeq ≠ 1 :=
  (run_reassembled stream isn ack (withoutRepeats steps)).first_received

section Snoc

variable (stream : Bytes) (isn ack : Int) (before : List SynStep)

theorem repeatedBuffer_snoc (step : SynStep) :
    repeatedBuffer stream isn ack (before ++ [step]) =
      ((repeatedBuffer stream isn ack before).call
        (step.toCall stream isn)).1 := by
  unfold repeatedBuffer repeatedCalls
  rw [List.map_append, List.map_singleton, machine.run_snoc]
  rfl

theorem repeatedResults_snoc (step : SynStep) :
    repeatedResults stream isn ack (before ++ [step]) =
      repeatedResults stream isn ack before ++
        [((repeatedBuffer stream isn ack before).call
          (step.toCall stream isn)).2].reduceOption := by
  unfold repeatedResults repeatedBuffer repeatedCalls
  rw [List.map_append, List.map_singleton, machine.trace_snoc,
    List.reduceOption_append]
  rfl

theorem withoutRepeats_synAgain (synAck : Int) (flags : Nat)
    (syn : flags &&& thSyn ≠ 0) :
    withoutRepeats (before ++ [.synAgain synAck flags syn]) =
      withoutRepeats before := by
  unfold withoutRepeats
  rw [List.filterMap_append]
  exact List.append_nil _

theorem plainCalls_other (step : StreamStep) :
    plainCalls stream isn (before ++ [.other step]) =
      plainCalls stream isn before ++
        [(SynStep.other step).toCall stream isn] := by
  unfold plainCalls withoutRepeats
  rw [List.filterMap_append, List.map_append]
  rfl

theorem plainBuffer_synAgain (synAck : Int) (flags : Nat)
    (syn : flags &&& thSyn ≠ 0) :
    plainBuffer stream isn ack (before ++ [.synAgain synAck flags syn]) =
      plainBuffer stream isn ack before := by
  unfold plainBuffer plainCalls
  rw [withoutRepeats_synAgain]

theorem plainResults_synAgain (synAck : Int) (flags : Nat)
    (syn : flags &&& thSyn ≠ 0) :
    plainResults stream isn ack (before ++ [.synAgain synAck flags syn]) =
      plainResults stream isn ack before := by
  unfold plainResults plainCalls
  rw [withoutRepeats_synAgain]

theorem plainBuffer_other (step : StreamStep) :
    plainBuffer stream isn ack (before ++ [.other step]) =
      ((plainBuffer stream isn ack before).call
        ((SynStep.other step).toCall stream isn)).1 := by
  unfold plainBuffer
  rw [plainCalls_other, machine.run_snoc]
  rfl

theorem plainResults_other (step : StreamStep) :
    plainResults stream isn ack (before ++ [.other step]) =
      plainResults stream isn ack before ++
        [((plainBuffer stream isn ack before).call
          ((SynStep.other step).toCall stream isn)).2].reduceOption := by
  unfold plainResults plainBuffer
  rw [plainCalls_other, machine.trace_snoc, List.reduceOption_append]
  rfl

end Snoc

/-- While `next_seq` is 1 a repeated SYN changes nothing at all. -/
theorem synAgain_idle {buf : DirectionBuffer} {isn : Int}
    (isn_eq : buf.isn = some isn) (received : buf.synReceived = true)
    (nothing : buf.nextSeq = 1) (ack : Int) (flags : Nat)
    (syn : flags &&& thSyn ≠ 0) : buf.feed isn ack [] flags = buf := by
  rw [feed_syn_empty buf isn ack flags syn]
  cases buf
  simp only at isn_eq received nothing
  rw [isn_eq, received, nothing]

/-- The step lemma of the two runs: they stay in the same state as long as
every repeated SYN comes before the data. -/
theorem runs_agree (stream : Bytes) (isn ack : Int) (steps : List SynStep)
    (early : SynsBeforeData stream steps) :
    repeatedBuffer stream isn ack steps = plainBuffer stream isn ack steps ∧
      repeatedResults stream isn ack steps =
        plainResults stream isn ack steps := by
  induction steps using List.reverseRecOn with
  | nil => exact ⟨rfl, rfl⟩
  | append_singleton before step ih =>
      have earlyBefore : SynsBeforeData stream before := by
        intro first synAck flags syn after split
        apply early first synAck flags syn (after ++ [step])
        rw [split, List.append_assoc, List.cons_append]
      obtain ⟨sameBuffer, sameResults⟩ := ih earlyBefore
      rw [repeatedBuffer_snoc, repeatedResults_snoc, sameBuffer, sameResults]
      cases step with
      | synAgain synAck flags syn =>
          have notYet := early before synAck flags syn [] rfl
          rw [plain_first_received stream isn ack before, not_not] at notYet
          have reassembled :=
            run_reassembled stream isn ack (withoutRepeats before)
          have idle := synAgain_idle reassembled.isn_eq
            (run_synReceived isn ack (plainCalls stream isn before)) notYet
            synAck flags syn
          rw [plainBuffer_synAgain, plainResults_synAgain]
          exact ⟨idle, List.append_nil _⟩
      | other step =>
          rw [plainBuffer_other, plainResults_other]
          exact ⟨rfl, rfl⟩

theorem plainResults_isPrefix (stream : Bytes) (isn ack : Int)
    (steps : List SynStep) :
    (plainResults stream isn ack steps).flatten <+: stream := by
  have reassembled := run_reassembled stream isn ack (withoutRepeats steps)
  exact (List.prefix_append _ _).trans reassembled.content

theorem SynsBeforeData.of_prefix {stream : Bytes} {before steps : List SynStep}
    (early : SynsBeforeData stream steps) (inside : before <+: steps) :
    SynsBeforeData stream before := by
  obtain ⟨rest, whole⟩ := inside
  intro first synAck flags syn after split
  apply early first synAck flags syn (after ++ rest)
  rw [← whole, split, List.append_assoc, List.cons_append]

/-- Repeated SYNs go unnoticed, step by step, if and only if none of them comes
after the first byte of the stream. -/
theorem synsHarmless_iff (stream : Bytes) (isn ack : Int)
    (steps : List SynStep) :
    SynsHarmless stream isn ack steps ↔ SynsBeforeData stream steps := by
  constructor
  · intro harmless before synAck flags syn after split present
    rw [plain_first_received stream isn ack before] at present
    have view := harmless (before ++ [.synAgain synAck flags syn])
      ⟨after, by rw [split, List.append_assoc, List.singleton_append]⟩
    apply present
    rw [← plainBuffer_synAgain stream isn ack before synAck flags syn,
      ← view.nextSeq, repeatedBuffer_snoc]
    change ((repeatedBuffer stream isn ack before).feed isn synAck []
      flags).nextSeq = 1
    rw [feed_syn_empty _ isn synAck flags syn]
  · intro early before inside
    obtain ⟨sameBuffer, sameResults⟩ :=
      runs_agree stream isn ack before (early.of_prefix inside)
    exact
      { results := sameResults
        nextSeq := by rw [sameBuffer]
        segments := by rw [sameBuffer]
        totalBuffered := by rw [sameBuffer]
        once := by
          rw [sameResults]
          exact plainResults_isPrefix stream isn ack before }

/-- A byte, a repeated SYN and the byte again: it is delivered twice. -/
theorem syn_retransmission_noticed :
    ¬∀ (stream : Bytes) (isn ack : Int) (steps : List SynStep),
      SynsHarmless stream isn ack steps := by
  intro harmless
  have view := harmless [65] 100 0
    [.other (.segment 0 1 0 thAck (by decide)), .other .pull,
      .synAgain 0 thSyn (by decide),
      .other (.segment 0 1 0 thAck (by decide)), .other .pull] _
    (List.prefix_refl _)
  exact absurd view.once (by decide)

end DpktNg.Stream
