/-
The representation invariant of `DirectionBuffer` and its preservation by
every call, repeated SYNs and both flush modes included.
-/

import DpktNg.Stream.SegmentMerge

namespace DpktNg.Stream.DirectionBuffer

open Library

structure WellFormed (buf : DirectionBuffer) : Prop where
  nonempty : ∀ seg ∈ buf.segments, seg.data ≠ []
  separated : Separated buf.segments
  ahead : ∀ seg ∈ buf.segments, buf.nextSeq < seg.relSeq
  accounted : buf.totalBuffered =
    buf.contiguous.length + segmentBytes buf.segments
  started : buf.isn ≠ none → 1 ≤ buf.nextSeq
  idle : buf.isn = none → buf.segments = []

theorem wellFormed_fresh : WellFormed {} where
  nonempty := fun seg member => by cases member
  separated := List.Pairwise.nil
  ahead := fun seg member => by cases member
  accounted := rfl
  started := fun opened => absurd rfl opened
  idle := fun _ => rfl

/-- The three outcomes of `feedPayload`: the payload is dropped, what reaches
beyond `next_seq` is appended, or the payload is buffered behind a gap. -/
theorem feedPayload_cases (buf : DirectionBuffer) (relSeq ack : Int)
    (payload : Bytes) :
    (buf.feedPayload relSeq ack payload = buf ∧
        (payload = [] ∨ relSeq + payload.length ≤ buf.nextSeq)) ∨
      (relSeq ≤ buf.nextSeq ∧ buf.nextSeq < relSeq + payload.length ∧
        buf.feedPayload relSeq ack payload =
          buf.appendContiguous
            (payload.drop (buf.nextSeq - relSeq).toNat)) ∨
      (buf.nextSeq < relSeq ∧ payload ≠ [] ∧
        buf.feedPayload relSeq ack payload =
          buf.insertOutOfOrder { relSeq, ack, data := payload }) := by
  unfold feedPayload
  by_cases empty : payload = []
  · exact Or.inl ⟨if_pos empty, Or.inl empty⟩
  · rw [if_neg empty]
    by_cases old : relSeq + payload.length ≤ buf.nextSeq
    · exact Or.inl ⟨if_pos old, Or.inr old⟩
    · rw [if_neg old]
      refine Or.inr ?_
      by_cases overlaps : relSeq < buf.nextSeq
      · rw [if_pos overlaps]
        exact Or.inl ⟨by omega, by omega, rfl⟩
      · rw [if_neg overlaps]
        by_cases next : relSeq = buf.nextSeq
        · rw [if_pos next]
          have noTrim : (buf.nextSeq - relSeq).toNat = 0 := by omega
          rw [noTrim, List.drop_zero]
          exact Or.inl ⟨by omega, by omega, rfl⟩
        · rw [if_neg next]
          exact Or.inr ⟨by omega, empty, rfl⟩

/-- `appendContiguous` in terms of the data the cascade moves. -/
theorem appendContiguous_spec (buf : DirectionBuffer) (payload : Bytes)
    (separated : Separated buf.segments)
    (nonempty : ∀ seg ∈ buf.segments, seg.data ≠ []) :
    ∃ nextSeq contiguous segments,
      buf.appendContiguous payload =
        { buf with
          nextSeq := nextSeq
          contiguous := contiguous
          segments := segments
          totalBuffered := contiguous.length + segmentBytes segments } ∧
      CascadeResult (buf.nextSeq + payload.length)
        (buf.contiguous ++ payload) buf.segments
        (nextSeq, contiguous, segments) := by
  have result := cascade_result (buf.nextSeq + payload.length)
    (buf.contiguous ++ payload) buf.segments separated nonempty
  exact ⟨_, _, _, rfl, result⟩

section Preservation

variable {buf : DirectionBuffer} (wellFormed : WellFormed buf)

include wellFormed

theorem WellFormed.appendContiguous (payload : Bytes) :
    WellFormed (buf.appendContiguous payload) := by
  obtain ⟨nextSeq, contiguous, segments, same, result⟩ :=
    appendContiguous_spec buf payload wellFormed.separated wellFormed.nonempty
  have subset := result.suffix.subset
  have forward := result.forward
  rw [same]
  exact
    { nonempty := fun seg member => wellFormed.nonempty seg (subset member)
      separated := wellFormed.separated.sublist result.suffix.sublist
      ahead := result.ahead
      accounted := rfl
      started := fun opened => by
        have := wellFormed.started opened
        change 1 ≤ nextSeq
        change buf.nextSeq + payload.length ≤ nextSeq at forward
        omega
      idle := fun closed => by
        have none := wellFormed.idle closed
        rw [none] at subset
        exact List.subset_nil.mp subset }

theorem WellFormed.insertOutOfOrder {seg : Segment}
    (opened : buf.isn ≠ none) (dataNonempty : seg.data ≠ [])
    (later : buf.nextSeq < seg.relSeq) :
    WellFormed (buf.insertOutOfOrder seg) where
  nonempty := by
    apply insertMerge_all (fun other => other.data ≠ []) _ _ _ dataNonempty
      wellFormed.nonempty
    intro prev next after touches prevNonempty _
    exact Segment.merge_nonempty after touches prevNonempty
  separated := insertMerge_separated buf.segments seg
  ahead := insertMerge_all (fun other => buf.nextSeq < other.relSeq)
    (fun _ _ _ _ prevLater _ => prevLater) _ _ later wellFormed.ahead
  accounted := rfl
  started := wellFormed.started
  idle := fun closed => absurd closed opened

theorem WellFormed.feedPayload (opened : buf.isn ≠ none)
    (relSeq ack : Int) (payload : Bytes) :
    WellFormed (buf.feedPayload relSeq ack payload) := by
  rcases feedPayload_cases buf relSeq ack payload with
    ⟨same, _⟩ | ⟨_, _, same⟩ | ⟨later, payloadNonempty, same⟩
  · rw [same]
    exact wellFormed
  · rw [same]
    exact wellFormed.appendContiguous _
  · rw [same]
    exact wellFormed.insertOutOfOrder opened payloadNonempty later

theorem WellFormed.noteFin (seq : Int) (payload : Bytes) (flags : Nat) :
    WellFormed (buf.noteFin seq payload flags) := by
  unfold DirectionBuffer.noteFin
  split
  · exact
      { nonempty := wellFormed.nonempty
        separated := wellFormed.separated
        ahead := wellFormed.ahead
        accounted := wellFormed.accounted
        started := wellFormed.started
        idle := wellFormed.idle }
  · exact wellFormed

/-- A SYN may carry data only while nothing is buffered out of order; a later
empty one rebases the buffer without touching what it holds. -/
theorem WellFormed.feedSyn (seq : Int) (payload : Bytes)
    (allowed : buf.isn = none ∨ payload = []) :
    WellFormed (buf.feedSyn seq payload) := by
  unfold DirectionBuffer.feedSyn
  by_cases empty : payload = []
  · dsimp only
    rw [if_pos empty]
    refine
      { nonempty := wellFormed.nonempty
        separated := wellFormed.separated
        ahead := ?_
        accounted := wellFormed.accounted
        started := fun _ => Int.le_refl 1
        idle := fun closed => by cases closed }
    intro seg member
    have opened : buf.isn ≠ none := by
      intro closed
      have none := wellFormed.idle closed
      change seg ∈ buf.segments at member
      rw [none] at member
      cases member
    have first := wellFormed.started opened
    have later := wellFormed.ahead seg member
    change 1 < seg.relSeq
    omega
  · have none := wellFormed.idle (allowed.resolve_right empty)
    have accounted := wellFormed.accounted
    dsimp only
    rw [if_neg empty]
    refine
      { nonempty := wellFormed.nonempty
        separated := wellFormed.separated
        ahead := ?_
        accounted := ?_
        started := ?_
        idle := fun closed => by cases closed }
    · intro seg member
      change seg ∈ buf.segments at member
      rw [none] at member
      cases member
    · change buf.totalBuffered + payload.length =
        (buf.contiguous ++ payload).length + segmentBytes buf.segments
      rw [accounted, List.length_append]
      omega
    · intro _opened
      change (1 : Int) ≤ 1 + payload.length
      omega

theorem WellFormed.feed (seq ack : Int) (payload : Bytes) (flags : Nat)
    (allowed : flags &&& thSyn ≠ 0 → buf.isn = none ∨ payload = []) :
    WellFormed (buf.feed seq ack payload flags) := by
  unfold DirectionBuffer.feed
  by_cases syn : flags &&& thSyn ≠ 0
  · rw [if_pos syn]
    exact wellFormed.feedSyn seq payload (allowed syn)
  · rw [if_neg syn]
    cases isnAt : buf.isn with
    | none => exact wellFormed
    | some isn =>
        have opened : (buf.noteFin seq payload flags).isn ≠ none := by
          unfold DirectionBuffer.noteFin
          split <;> simp [isnAt]
        exact (wellFormed.noteFin seq payload flags).feedPayload opened
          (seq - isn) ack payload

theorem WellFormed.getData (fill : Bool) : WellFormed (buf.getData fill).1 := by
  have accounted := wellFormed.accounted
  cases fill with
  | true =>
      exact
        { nonempty := fun seg member => by cases member
          separated := List.Pairwise.nil
          ahead := fun seg member => by cases member
          accounted := rfl
          started := wellFormed.started
          idle := fun _ => rfl }
  | false =>
      exact
        { nonempty := wellFormed.nonempty
          separated := wellFormed.separated
          ahead := wellFormed.ahead
          accounted := by
            change buf.totalBuffered - buf.contiguous.length =
              (([] : Bytes).length : Int) + segmentBytes buf.segments
            rw [accounted, List.length_nil]
            omega
          started := wellFormed.started
          idle := wellFormed.idle }

end Preservation

/-- Every SYN after the first one carries an empty payload. -/
def RetransmittedSynsEmpty (calls : List Call) : Prop :=
  ∀ before call after, calls = before ++ call :: after →
    call.isSyn = true → (∃ earlier ∈ before, earlier.isSyn = true) →
    call.payload = []

theorem call_isn (buf : DirectionBuffer) (call : Call) :
    (buf.call call).1.isn ≠ none ↔
      buf.isn ≠ none ∨ call.isSyn = true := by
  cases call with
  | getData fill => cases fill <;> simp [DirectionBuffer.call, getData, Call.isSyn]
  | feed seq ack payload flags =>
      by_cases syn : flags &&& thSyn ≠ 0
      · have opened : (buf.feed seq ack payload flags).isn = some seq := by
          unfold feed feedSyn
          rw [if_pos syn]
          dsimp only
          split <;> rfl
        simp [DirectionBuffer.call, Call.isSyn, opened, syn]
      · have unchanged : (buf.feed seq ack payload flags).isn = buf.isn := by
          unfold feed
          rw [if_neg syn]
          cases isnAt : buf.isn with
          | none => exact isnAt
          | some isn =>
              dsimp only
              have noted : (buf.noteFin seq payload flags).isn = buf.isn := by
                unfold noteFin
                split <;> rfl
              rw [← isnAt, ← noted]
              unfold feedPayload appendContiguous insertOutOfOrder
              repeat' split
              all_goals rfl
        simp [DirectionBuffer.call, Call.isSyn, unchanged, syn]

theorem call_wellFormed {buf : DirectionBuffer} (wellFormed : WellFormed buf)
    (call : Call)
    (allowed : call.isSyn = true → buf.isn = none ∨ call.payload = []) :
    WellFormed (buf.call call).1 := by
  cases call with
  | getData fill => exact wellFormed.getData fill
  | feed seq ack payload flags =>
      apply wellFormed.feed
      intro syn
      exact allowed (decide_eq_true syn)

theorem run_wellFormed (calls : List Call)
    (synsEmpty : RetransmittedSynsEmpty calls) :
    WellFormed (machine.run {} calls) := by
  have invariant := machine.history_invariant {} calls
    (fun before _results buf => WellFormed buf ∧
      (buf.isn ≠ none ↔ ∃ call ∈ before, call.isSyn = true))
    ⟨wellFormed_fresh, by simp⟩
    (by
      intro before call after split holds
      obtain ⟨wellFormed, opened⟩ := holds
      rw [machine.run_snoc]
      refine ⟨call_wellFormed wellFormed call ?_, ?_⟩
      · intro syn
        by_cases first : (machine.run {} before).isn = none
        · exact Or.inl first
        · exact Or.inr (synsEmpty before call after split syn (opened.mp first))
      · change ((machine.run {} before).call call).1.isn ≠ none ↔ _
        rw [call_isn, opened]
        simp [or_and_right, exists_or])
  exact invariant.1

/-- In every reachable state the segments are non-empty, strictly sorted,
separated by gaps and ahead of `next_seq`, and the byte count is exact. -/
theorem representation_invariant (calls : List Call)
    (synsEmpty : RetransmittedSynsEmpty calls) :
    let buf := machine.run {} calls
    (∀ seg ∈ buf.segments, seg.data ≠ []) ∧
      buf.segments.Pairwise (fun a b => a.relSeq < b.relSeq) ∧
      buf.segments.IsChain (fun a b => a.stop + 1 ≤ b.relSeq) ∧
      (∀ seg ∈ buf.segments, buf.nextSeq < seg.relSeq) ∧
      buf.totalBuffered = buf.contiguous.length +
        (buf.segments.map fun seg => seg.data.length).sum := by
  have wellFormed := run_wellFormed calls synsEmpty
  refine ⟨wellFormed.nonempty, ?_, ?_, wellFormed.ahead, ?_⟩
  · apply wellFormed.separated.imp
    intro a b gap
    unfold Segment.stop at gap
    omega
  · apply List.Pairwise.isChain
    apply wellFormed.separated.imp
    intro a b gap
    omega
  · exact wellFormed.accounted

/-- Two segments behind a gap, and a repeated SYN. -/
theorem representation_invariant_run :
    let buf := machine.run {}
      [.feed 100 0 [] thSyn, .feed 103 0 [1] thAck, .feed 106 0 [2] thAck,
        .feed 100 0 [] thSyn]
    (∀ seg ∈ buf.segments, seg.data ≠ []) ∧
      buf.segments.Pairwise (fun a b => a.relSeq < b.relSeq) ∧
      buf.segments.IsChain (fun a b => a.stop + 1 ≤ b.relSeq) ∧
      (∀ seg ∈ buf.segments, buf.nextSeq < seg.relSeq) ∧
      buf.totalBuffered = buf.contiguous.length +
        (buf.segments.map fun seg => seg.data.length).sum := by
  apply representation_invariant
  intro before call after split syn _earlier
  have member : call ∈ ([.feed 100 0 [] thSyn, .feed 103 0 [1] thAck,
      .feed 106 0 [2] thAck, .feed 100 0 [] thSyn] : List Call) := by
    rw [split]
    simp
  simp only [List.mem_cons, List.not_mem_nil, or_false] at member
  rcases member with rfl | rfl | rfl | rfl
  · rfl
  · cases syn
  · cases syn
  · rfl

end DpktNg.Stream.DirectionBuffer
