/-
Flushing a `DirectionBuffer` with `get_data(fill_gaps=True)`.

The flush returns the contiguous bytes, zero filler for the gaps and the
out-of-order segments, and empties the buffer, but `next_seq` stays where it
was.  What arrives afterwards is placed behind the bytes already returned, so a
stream position can come out twice once a flush has gone over a gap.
-/

import DpktNg.Stream.Reassembly

namespace DpktNg.Stream

open Library DirectionBuffer

/-- No more bytes than the stream has, and each of them is the stream's byte
at its own position or filler. -/
def FilledFrom (stream output : Bytes) : Prop :=
  output.length ≤ stream.length ∧
    ∀ position < output.length,
      output[position]? = stream[position]? ∨ output[position]? = some 0

theorem filledFrom_of_isPrefix {stream output : Bytes}
    (isPrefix : output <+: stream) : FilledFrom stream output := by
  refine ⟨isPrefix.length_le, ?_⟩
  intro position within
  refine Or.inl ?_
  rw [List.prefix_iff_getElem?.mp isPrefix position within,
    List.getElem?_eq_getElem within]

theorem FilledFrom.append {stream output data : Bytes} {gap : Nat}
    (filled : FilledFrom stream output)
    (continues : data <+: stream.drop (output.length + gap))
    (nonempty : data ≠ []) :
    FilledFrom stream (output ++ zeros gap ++ data) := by
  have bound := continues.length_le
  have positive := List.length_pos_iff.mpr nonempty
  rw [List.length_drop] at bound
  refine ⟨by simp only [List.length_append, zeros_length]; omega, ?_⟩
  intro position within
  simp only [List.length_append, zeros_length] at within
  rw [List.append_assoc]
  by_cases old : position < output.length
  · rw [List.getElem?_append_left old]
    exact filled.2 position old
  · rw [List.getElem?_append_right (by omega)]
    by_cases filler : position - output.length < gap
    · refine Or.inr ?_
      rw [List.getElem?_append_left (by rw [zeros_length]; exact filler)]
      exact List.getElem?_replicate_of_lt filler
    · refine Or.inl ?_
      rw [List.getElem?_append_right (by rw [zeros_length]; omega),
        zeros_length]
      have found := List.prefix_iff_getElem?.mp continues
        (position - output.length - gap) (by omega)
      rw [List.getElem?_drop] at found
      have place : output.length + gap +
          (position - output.length - gap) = position := by omega
      rw [place] at found
      rw [found]
      exact List.getElem?_eq_getElem _

theorem fillGaps_append (output result : Bytes) (pos : Int)
    (segments : List Segment) :
    fillGaps (output ++ result) pos segments =
      output ++ fillGaps result pos segments := by
  induction segments generalizing result pos with
  | nil => rfl
  | cons seg rest ih =>
      simp only [fillGaps]
      split
      · rw [List.append_assoc output, List.append_assoc output, ih]
      · rw [List.append_assoc output, ih]

theorem fillGaps_filled (stream output : Bytes) (segments : List Segment)
    (filled : FilledFrom stream output)
    (nonempty : ∀ seg ∈ segments, seg.data ≠ [])
    (separated : Separated segments)
    (agrees : ∀ seg ∈ segments, seg.AgreesWith stream)
    (ahead : ∀ seg ∈ segments, (output.length : Int) + 1 < seg.relSeq) :
    FilledFrom stream (fillGaps output (output.length + 1) segments) := by
  induction segments generalizing output with
  | nil => exact filled
  | cons seg rest ih =>
      have start := ahead seg List.mem_cons_self
      have parts := List.pairwise_cons.mp separated
      have gapPositive : seg.relSeq - (output.length + 1) > 0 := by omega
      have continues := (agrees seg List.mem_cons_self).2
      have place : (seg.relSeq - 1).toNat = output.length +
          (seg.relSeq - (output.length + 1)).toNat := by omega
      rw [place] at continues
      have extended := filled.append continues (nonempty seg List.mem_cons_self)
      have position : seg.relSeq + seg.data.length =
          ((output ++ zeros (seg.relSeq - (output.length + 1)).toNat ++
            seg.data).length : Int) + 1 := by
        simp only [List.length_append, zeros_length]
        omega
      rw [fillGaps, if_pos gapPositive, position]
      apply ih _ extended
        (fun other member => nonempty other (List.mem_cons_of_mem seg member))
        parts.2
        (fun other member => agrees other (List.mem_cons_of_mem seg member))
      intro other member
      have gap := parts.1 other member
      unfold Segment.stop at gap
      omega

theorem Reassembled.filled_of_flush {stream : Bytes} {isn : Int}
    {received : Set Nat} {output : Bytes} {buf : DirectionBuffer}
    (reassembled : Reassembled stream isn received output buf) :
    FilledFrom stream (output ++ (buf.getData true).2) := by
  have reached := reassembled.reached
  change FilledFrom stream
    (output ++ fillGaps buf.contiguous buf.nextSeq buf.segments)
  rw [← fillGaps_append, reached]
  apply fillGaps_filled _ _ _ (filledFrom_of_isPrefix reassembled.content)
    reassembled.wellFormed.nonempty reassembled.wellFormed.separated
    reassembled.agrees
  intro seg member
  rw [← reached]
  exact reassembled.wellFormed.ahead seg member

/-- A flush with nothing buffered out of order is an ordinary read. -/
theorem Reassembled.flush {stream : Bytes} {isn : Int}
    {received : Set Nat} {output : Bytes} {buf : DirectionBuffer}
    (reassembled : Reassembled stream isn received output buf)
    (inOrder : buf.segments = []) :
    Reassembled stream isn received (output ++ (buf.getData true).2)
      (buf.getData true).1 := by
  have read := reassembled.getData
  have sameData : (buf.getData true).2 = buf.contiguous := by
    change fillGaps buf.contiguous buf.nextSeq buf.segments = _
    rw [inOrder]
    rfl
  have accounted := reassembled.wellFormed.accounted
  have sameBuffer : (buf.getData true).1 = (buf.getData false).1 := by
    simp [DirectionBuffer.getData, inOrder, accounted, segmentBytes]
  rw [sameData, sameBuffer]
  exact read

def flushCalls (stream : Bytes) (isn : Int) (steps : List StreamStep) :
    List Call :=
  steps.map
    (StreamStep.toCall stream (fun position => isn + 1 + position) true)

/-- The buffer after the SYN and the given steps, every pull a flush. -/
def flushedBuffer (stream : Bytes) (isn ack : Int)
    (steps : List StreamStep) : DirectionBuffer :=
  machine.run (opened isn ack) (flushCalls stream isn steps)

def flushedOutput (stream : Bytes) (isn ack : Int)
    (steps : List StreamStep) : Bytes :=
  delivered (machine.trace (opened isn ack) (flushCalls stream isn steps))

/-- Once a flush has gone over a gap, later flushes find nothing. -/
def GapFlushIsLast (stream : Bytes) (isn ack : Int)
    (steps : List StreamStep) : Prop :=
  ∀ before between after,
    steps = before ++ .pull :: (between ++ .pull :: after) →
    (flushedBuffer stream isn ack before).segments ≠ [] →
    let later := flushedBuffer stream isn ack (before ++ .pull :: between)
    later.contiguous = [] ∧ later.segments = []

theorem flushedBuffer_snoc (stream : Bytes) (isn ack : Int)
    (before : List StreamStep) (step : StreamStep) :
    flushedBuffer stream isn ack (before ++ [step]) =
      ((flushedBuffer stream isn ack before).call
        (step.toCall stream (fun position => isn + 1 + position) true)).1 := by
  unfold flushedBuffer flushCalls
  rw [List.map_append, List.map_singleton, machine.run_snoc]
  rfl

theorem flushedOutput_snoc (stream : Bytes) (isn ack : Int)
    (before : List StreamStep) (step : StreamStep) :
    flushedOutput stream isn ack (before ++ [step]) =
      flushedOutput stream isn ack before ++
        (((flushedBuffer stream isn ack before).call
          (step.toCall stream (fun position => isn + 1 + position)
            true)).2).getD [] := by
  unfold flushedOutput flushedBuffer flushCalls
  rw [List.map_append, List.map_singleton, machine.trace_snoc, delivered_snoc]
  rfl

/-- A flush over a gap lies behind in the run. -/
def GapFlushed (stream : Bytes) (isn ack : Int)
    (steps : List StreamStep) : Prop :=
  ∃ before between, steps = before ++ .pull :: between ∧
    (flushedBuffer stream isn ack before).segments ≠ []

theorem GapFlushed.snoc {stream : Bytes} {isn ack : Int}
    {steps : List StreamStep} (flushed : GapFlushed stream isn ack steps)
    (step : StreamStep) : GapFlushed stream isn ack (steps ++ [step]) := by
  obtain ⟨before, between, split, gap⟩ := flushed
  refine ⟨before, between ++ [step], ?_, gap⟩
  rw [split, List.append_assoc, List.cons_append]

/-- Before the first flush over a gap the run is an ordinary reassembly;
afterwards only the bytes already returned matter. -/
theorem flush_run (stream : Bytes) (isn ack : Int) (steps : List StreamStep)
    (gapFlushIsLast : GapFlushIsLast stream isn ack steps) :
    (∃ received, Reassembled stream isn received
        (flushedOutput stream isn ack steps)
        (flushedBuffer stream isn ack steps)) ∨
      (GapFlushed stream isn ack steps ∧
        FilledFrom stream (flushedOutput stream isn ack steps)) := by
  induction steps using List.reverseRecOn with
  | nil => exact Or.inl ⟨∅, reassembled_opened stream isn ack⟩
  | append_singleton before step ih =>
      have earlier : GapFlushIsLast stream isn ack before := by
        intro first between after split gap
        exact gapFlushIsLast first between (after ++ [step])
          (by rw [split]; simp) gap
      rw [flushedBuffer_snoc, flushedOutput_snoc]
      cases step with
      | segment start stop segAck flags noSyn =>
          change (∃ received, Reassembled stream isn received (_ ++ []) _) ∨
            (_ ∧ FilledFrom stream (_ ++ []))
          rw [List.append_nil]
          rcases ih earlier with ⟨received, reassembled⟩ | ⟨flushed, filled⟩
          · exact Or.inl ⟨_, reassembled.feed start stop _ segAck flags noSyn
              rfl⟩
          · exact Or.inr ⟨flushed.snoc _, filled⟩
      | pull =>
          rcases ih earlier with ⟨received, reassembled⟩ | ⟨flushed, filled⟩
          · by_cases inOrder :
              (flushedBuffer stream isn ack before).segments = []
            · exact Or.inl ⟨received, reassembled.flush inOrder⟩
            · exact Or.inr ⟨⟨before, [], rfl, inOrder⟩,
                reassembled.filled_of_flush⟩
          · refine Or.inr ⟨flushed.snoc _, ?_⟩
            obtain ⟨first, between, split, gap⟩ := flushed
            have nothing := gapFlushIsLast first between []
              (by rw [split, List.append_assoc, List.cons_append]) gap
            rw [← split] at nothing
            have noData :
                ((flushedBuffer stream isn ack before).getData true).2 =
                  [] := by
              change fillGaps _ _ _ = []
              rw [nothing.1, nothing.2]
              rfl
            change FilledFrom stream (_ ++
              ((flushedBuffer stream isn ack before).getData true).2)
            rw [noData, List.append_nil]
            exact filled

/-- When no flush returns data after a flush over a gap, no stream position
comes out twice. -/
theorem flush_filled (stream : Bytes) (isn ack : Int)
    (steps : List StreamStep)
    (gapFlushIsLast : GapFlushIsLast stream isn ack steps) :
    FilledFrom stream (flushedOutput stream isn ack steps) := by
  rcases flush_run stream isn ack steps gapFlushIsLast with
    ⟨_received, reassembled⟩ | ⟨_flushed, filled⟩
  · exact filledFrom_of_isPrefix
      ((List.prefix_append _ _).trans reassembled.content)
  · exact filled

/-- A contiguous byte, then a segment behind a gap, then one flush. -/
theorem flush_filled_run :
    FilledFrom [1, 2, 3] (flushedOutput [1, 2, 3] 100 0
      [.segment 0 1 0 thAck rfl, .segment 2 3 0 thAck rfl, .pull]) := by
  apply flush_filled
  intro before between after split
  have lengths := congrArg List.length split
  simp only [List.length_append, List.length_cons, List.length_nil] at lengths
  cases before with
  | nil => simp at split
  | cons first rest =>
      cases rest with
      | nil => simp at split
      | cons second rest => simp at lengths; omega

/-- The third byte, a flush, then the first two bytes and another flush: five
bytes come out of a stream of three. -/
theorem flush_repeats_position :
    ¬∀ (stream : Bytes) (isn ack : Int) (steps : List StreamStep),
      FilledFrom stream (flushedOutput stream isn ack steps) := by
  intro claimed
  have bound := (claimed [1, 2, 3] 100 0
    [.segment 2 3 0 thAck rfl, .pull, .segment 0 2 0 thAck rfl, .pull]).1
  revert bound
  decide

end DpktNg.Stream
