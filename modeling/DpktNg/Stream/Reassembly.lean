/-
What a `DirectionBuffer` is for: after a SYN it rebuilds a byte stream from
slices of it that arrive in any order and any number of times.

The abstract state is the set of stream positions received so far and the bytes
delivered so far; `Reassembled` connects it to the buffer.  The stream byte at
position `p` has the relative sequence number `p + 1`.

A direction is complete by `next_seq`, the place of the FIN and the segments;
so `is_complete` finds out whether every byte has come.
-/

import DpktNg.Stream.BufferInvariant

namespace DpktNg.Stream

open Library DirectionBuffer

/-- One step of a sender and a reader: a slice of the stream arrives with any
acknowledgement number and any flags but SYN, or the reader pulls data. -/
inductive StreamStep where
  | segment (start stop : Nat) (ack : Int) (flags : Nat)
      (noSyn : flags &&& thSyn = 0)
  | pull

theorem thAck_noSyn : thAck &&& thSyn = 0 := rfl

/-- The call made at a step, where `number` gives the sequence number of a
stream position and `fill` is the flush mode of `get_data`. -/
def StreamStep.toCall (stream : Bytes) (number : Nat → Int) (fill : Bool) :
    StreamStep → Call
  | .segment start stop ack flags _ =>
      .feed (number start) ack (slice stream start stop) flags
  | .pull => .getData fill

def slicePositions (stream : Bytes) (start stop : Nat) : Set Nat :=
  {position | start ≤ position ∧ position < stop ∧ position < stream.length}

def StreamStep.positions (stream : Bytes) : StreamStep → Set Nat
  | .segment start stop _ _ _ => slicePositions stream start stop
  | .pull => ∅

def fedPositions (stream : Bytes) (steps : List StreamStep) : Set Nat :=
  {position | ∃ step ∈ steps, position ∈ step.positions stream}

theorem mem_slicePositions (stream : Bytes) (start stop position : Nat) :
    position ∈ slicePositions stream start stop ↔
      start ≤ position ∧
        position < start + (slice stream start stop).length := by
  rw [slice_length]
  simp only [slicePositions, Set.mem_ofPred_eq]
  omega

theorem fedPositions_snoc (stream : Bytes) (before : List StreamStep)
    (step : StreamStep) :
    fedPositions stream (before ++ [step]) =
      fedPositions stream before ∪ step.positions stream := by
  ext position
  simp only [fedPositions, Set.mem_ofPred_eq, Set.mem_union, List.mem_append,
    List.mem_singleton]
  constructor
  · intro present
    obtain ⟨other, member, inside⟩ := present
    rcases member with member | same
    · exact Or.inl ⟨other, member, inside⟩
    · rw [same] at inside
      exact Or.inr inside
  · intro present
    rcases present with earlier | now
    · obtain ⟨other, member, inside⟩ := earlier
      exact ⟨other, Or.inl member, inside⟩
    · exact ⟨step, Or.inr rfl, now⟩

def opened (isn ack : Int) : DirectionBuffer :=
  ({} : DirectionBuffer).feed isn ack [] thSyn

/-! ### The abstract state and its connection to the buffer -/

structure Reassembled (stream : Bytes) (isn : Int) (received : Set Nat)
    (output : Bytes) (buf : DirectionBuffer) : Prop where
  wellFormed : WellFormed buf
  isn_eq : buf.isn = some isn
  agrees : ∀ seg ∈ buf.segments, seg.AgreesWith stream
  content : output ++ buf.contiguous <+: stream
  reached : buf.nextSeq = (output ++ buf.contiguous).length + 1
  covered : ∀ position : Nat, position ∈ received ↔
    (position : Int) + 1 < buf.nextSeq ∨ Covers buf.segments (position + 1)

theorem reassembled_opened (stream : Bytes) (isn ack : Int) :
    Reassembled stream isn ∅ [] (opened isn ack) where
  wellFormed := wellFormed_fresh.feed isn ack [] thSyn fun _ => Or.inl rfl
  isn_eq := rfl
  agrees := fun seg member => by cases member
  content := List.nil_prefix
  reached := rfl
  covered := by
    intro position
    have segments : (opened isn ack).segments = [] := rfl
    have nextSeq : (opened isn ack).nextSeq = 1 := rfl
    rw [segments, nextSeq]
    constructor
    · intro impossible
      cases impossible
    · intro present
      rcases present with early | inside
      · omega
      · exact absurd inside (covers_nil _)

namespace Reassembled

variable {stream : Bytes} {isn : Int} {received : Set Nat} {output : Bytes}
  {buf : DirectionBuffer}
  (reassembled : Reassembled stream isn received output buf)

include reassembled

theorem isn_ne_none : buf.isn ≠ none := by
  rw [reassembled.isn_eq]
  exact Option.some_ne_none isn

theorem content_eq :
    output ++ buf.contiguous = stream.take (buf.nextSeq - 1).toNat := by
  have reached := reassembled.reached
  have same := prefix_eq_take reassembled.content
  have count : (buf.nextSeq - 1).toNat =
      (output ++ buf.contiguous).length := by omega
  rw [count]
  exact same

/-- `next_seq - 1` is the length of the longest received prefix: everything
before it is there, and a segment that covered it would start too early. -/
theorem longestPrefix :
    LongestPrefix received stream.length (buf.nextSeq - 1).toNat := by
  have reached := reassembled.reached
  have within := reassembled.content.length_le
  apply longestPrefix_of_missing
  · omega
  · intro position early
    rw [reassembled.covered]
    exact Or.inl (by omega)
  · rw [reassembled.covered]
    intro present
    rcases present with early | inside
    · omega
    · obtain ⟨seg, member, covers⟩ := inside
      have ahead := reassembled.wellFormed.ahead seg member
      have start := covers.1
      omega

theorem finished_iff :
    buf.nextSeq = stream.length + 1 ↔
      ∀ position < stream.length, position ∈ received := by
  have started := reassembled.wellFormed.started reassembled.isn_ne_none
  rw [← reassembled.longestPrefix.complete_iff]
  omega

theorem segments_of_finished (finished : buf.nextSeq = stream.length + 1) :
    buf.segments = [] := by
  rw [List.eq_nil_iff_forall_not_mem]
  intro seg member
  have nonempty := reassembled.wellFormed.nonempty seg member
  have ahead := reassembled.wellFormed.ahead seg member
  have within := (reassembled.agrees seg member).stop_le nonempty
  have bound := Segment.length_pos nonempty
  unfold Segment.stop at within
  omega

/-! ### The branches of `feed` -/

theorem noteFin (seq : Int) (payload : Bytes) (flags : Nat) :
    Reassembled stream isn received output (buf.noteFin seq payload flags) := by
  have wellFormed := reassembled.wellFormed.noteFin seq payload flags
  unfold DirectionBuffer.noteFin at wellFormed ⊢
  split
  · rename_i fin
    rw [if_pos fin] at wellFormed
    exact
      { wellFormed := wellFormed
        isn_eq := reassembled.isn_eq
        agrees := reassembled.agrees
        content := reassembled.content
        reached := reassembled.reached
        covered := reassembled.covered }
  · exact reassembled

theorem appendContiguous {payload : Bytes} {positions : Set Nat}
    (continues : payload <+: stream.drop (buf.nextSeq - 1).toNat)
    (gained : ∀ position : Nat, position ∈ received ∪ positions ↔
      ((position : Int) + 1 < buf.nextSeq + payload.length ∨
        Covers buf.segments (position + 1))) :
    Reassembled stream isn (received ∪ positions) output
      (buf.appendContiguous payload) := by
  have started := reassembled.wellFormed.started reassembled.isn_ne_none
  have reached := reassembled.reached
  have wellFormed := reassembled.wellFormed.appendContiguous payload
  obtain ⟨nextSeq, contiguous, segments, same, result⟩ :=
    appendContiguous_spec buf payload reassembled.wellFormed.separated
      reassembled.wellFormed.nonempty
  obtain ⟨moved, hContiguous, hNext, hAgrees⟩ := result.appended
  have movedAgrees := hAgrees stream (by omega) reassembled.agrees
  dsimp only at hContiguous hNext
  rw [same] at wellFormed ⊢
  refine
    { wellFormed := wellFormed
      isn_eq := reassembled.isn_eq
      agrees := fun seg member =>
        reassembled.agrees seg (result.suffix.subset member)
      content := ?_
      reached := ?_
      covered := ?_ }
  · change output ++ contiguous <+: stream
    rw [hContiguous, ← List.append_assoc, ← List.append_assoc]
    have first : (buf.nextSeq - 1).toNat =
        (output ++ buf.contiguous).length := by omega
    have second : (buf.nextSeq + payload.length - 1).toNat =
        (output ++ buf.contiguous ++ payload).length := by
      rw [@List.length_append _ (output ++ buf.contiguous) payload]
      omega
    rw [first] at continues
    rw [second] at movedAgrees
    exact append_isPrefix (append_isPrefix reassembled.content continues)
      movedAgrees
  · change nextSeq = (output ++ contiguous).length + 1
    simp only [List.length_append] at reached
    rw [hNext, hContiguous]
    simp only [List.length_append]
    omega
  · intro position
    rw [gained position]
    exact (result.covers (position + 1)).symm

theorem insertOutOfOrder {seg : Segment} {positions : Set Nat}
    (dataNonempty : seg.data ≠ []) (later : buf.nextSeq < seg.relSeq)
    (segAgrees : seg.AgreesWith stream)
    (gained : ∀ position : Nat, position ∈ positions ↔
      seg.Covers (position + 1)) :
    Reassembled stream isn (received ∪ positions) output
      (buf.insertOutOfOrder seg) where
  wellFormed := reassembled.wellFormed.insertOutOfOrder
    reassembled.isn_ne_none dataNonempty later
  isn_eq := reassembled.isn_eq
  agrees := insertMerge_all (fun other => other.AgreesWith stream)
    (fun _ _ after touches prevAgrees nextAgrees =>
      Segment.merge_agrees after touches prevAgrees nextAgrees)
    _ _ segAgrees reassembled.agrees
  content := reassembled.content
  reached := reassembled.reached
  covered := by
    intro position
    have merged := insertMerge_covers buf.segments seg (position + 1)
    change _ ↔ _ ∨ Covers (insertMerge buf.segments seg) (position + 1)
    rw [merged, Set.mem_union, reassembled.covered, gained]
    change _ ↔ (position : Int) + 1 < buf.nextSeq ∨ _
    tauto

theorem feedPayload (start stop : Nat) (ack : Int) :
    Reassembled stream isn (received ∪ slicePositions stream start stop) output
      (buf.feedPayload (start + 1) ack (slice stream start stop)) := by
  have started := reassembled.wellFormed.started reassembled.isn_ne_none
  have sliceAgrees := slice_isPrefix stream start stop
  have inSlice := mem_slicePositions stream start stop
  generalize slice stream start stop = payload at sliceAgrees inSlice ⊢
  rcases feedPayload_cases buf (start + 1) ack payload with
    ⟨same, old⟩ | ⟨notLater, beyond, same⟩ | ⟨later, nonempty, same⟩
  · -- everything in the slice had been received before
    have nothingNew : received ∪ slicePositions stream start stop =
        received := by
      apply Set.union_eq_left.mpr
      intro position inside
      rw [inSlice] at inside
      rw [reassembled.covered]
      refine Or.inl ?_
      rcases old with empty | old
      · rw [empty, List.length_nil] at inside
        omega
      · omega
    rw [same, nothingNew]
    exact reassembled
  · rw [same]
    apply reassembled.appendContiguous
    · have dropped := sliceAgrees.drop (buf.nextSeq - (start + 1)).toNat
      rw [List.drop_drop] at dropped
      have position : start + (buf.nextSeq - (start + 1)).toNat =
          (buf.nextSeq - 1).toNat := by omega
      rw [position] at dropped
      exact dropped
    · intro position
      rw [Set.mem_union, reassembled.covered, inSlice, List.length_drop]
      constructor
      · intro present
        rcases present with (early | inside) | fed
        · exact Or.inl (by omega)
        · exact Or.inr inside
        · exact Or.inl (by omega)
      · intro present
        rcases present with early | inside
        · by_cases old : (position : Int) + 1 < buf.nextSeq
          · exact Or.inl (Or.inl old)
          · exact Or.inr (by omega)
        · exact Or.inl (Or.inr inside)
  · rw [same]
    apply reassembled.insertOutOfOrder nonempty later
    · refine ⟨by change (1 : Int) ≤ start + 1; omega, ?_⟩
      have position : ((start : Int) + 1 - 1).toNat = start := by omega
      change payload <+: stream.drop ((start : Int) + 1 - 1).toNat
      rw [position]
      exact sliceAgrees
    · intro position
      rw [inSlice]
      unfold Segment.Covers Segment.stop
      dsimp only
      omega

theorem feed (start stop : Nat) (seq ack : Int) (flags : Nat)
    (noSyn : flags &&& thSyn = 0) (numbered : seq = isn + 1 + start) :
    Reassembled stream isn (received ∪ slicePositions stream start stop) output
      (buf.feed seq ack (slice stream start stop) flags) := by
  have relative : seq - isn = start + 1 := by omega
  unfold DirectionBuffer.feed
  rw [if_neg (not_not_intro noSyn), reassembled.isn_eq]
  dsimp only
  rw [relative]
  exact (reassembled.noteFin seq (slice stream start stop) flags).feedPayload
    start stop ack

theorem getData :
    Reassembled stream isn received (output ++ buf.contiguous)
      (buf.getData false).1 where
  wellFormed := reassembled.wellFormed.getData false
  isn_eq := reassembled.isn_eq
  agrees := reassembled.agrees
  content := by
    change output ++ buf.contiguous ++ [] <+: stream
    rw [List.append_nil]
    exact reassembled.content
  reached := by
    change buf.nextSeq = (output ++ buf.contiguous ++ []).length + 1
    rw [List.append_nil]
    exact reassembled.reached
  covered := reassembled.covered

end Reassembled

theorem delivered_snoc (results : List (Option Bytes))
    (result : Option Bytes) :
    delivered (results ++ [result]) = delivered results ++ result.getD [] := by
  cases result <;> simp [delivered, List.reduceOption_append]

/-- Every run over slices numbered from `isn + 1` on refines the abstract
state: the positions fed, and the bytes returned by `get_data`. -/
theorem run_reassembled (stream : Bytes) (isn ack : Int)
    (steps : List StreamStep) :
    let calls := steps.map
      (StreamStep.toCall stream (fun position => isn + 1 + position) false)
    Reassembled stream isn (fedPositions stream steps)
      (delivered (machine.trace (opened isn ack) calls))
      (machine.run (opened isn ack) calls) := by
  induction steps using List.reverseRecOn with
  | nil =>
      have nothing : fedPositions stream [] = ∅ := by
        ext position
        simp [fedPositions]
      rw [nothing]
      exact reassembled_opened stream isn ack
  | append_singleton before step ih =>
      dsimp only at ih ⊢
      rw [List.map_append, List.map_singleton, machine.run_snoc,
        machine.trace_snoc, delivered_snoc, fedPositions_snoc]
      cases step with
      | segment start stop segAck flags noSyn =>
          have fed := ih.feed start stop (isn + 1 + start) segAck flags noSyn rfl
          change Reassembled stream isn _ (_ ++ []) _
          rw [List.append_nil]
          exact fed
      | pull =>
          change Reassembled stream isn (_ ∪ ∅) _ _
          rw [Set.union_empty]
          exact ih.getData

/-- The bytes delivered so far and the contiguous bytes are the prefix of the
stream before `next_seq`, and that is the longest prefix received. -/
theorem reassembly_correct (stream : Bytes) (isn ack : Int)
    (steps : List StreamStep) :
    let calls := steps.map
      (StreamStep.toCall stream (fun position => isn + 1 + position) false)
    let buf := machine.run (opened isn ack) calls
    let output := delivered (machine.trace (opened isn ack) calls)
    1 ≤ buf.nextSeq ∧
      output ++ buf.contiguous = stream.take (buf.nextSeq - 1).toNat ∧
      LongestPrefix (fedPositions stream steps) stream.length
        (buf.nextSeq - 1).toNat := by
  have reassembled := run_reassembled stream isn ack steps
  exact ⟨reassembled.wellFormed.started reassembled.isn_ne_none,
    reassembled.content_eq, reassembled.longestPrefix⟩

/-! ### FIN segments -/

def StreamStep.HasFin : StreamStep → Prop
  | .segment _ _ _ flags _ => flags &&& thFin ≠ 0
  | .pull => False

/-- A FIN stands at the end of the stream: behind the last slice, or in an empty
segment. -/
def StreamStep.FinAtEnd (stream : Bytes) : StreamStep → Prop
  | .segment start stop _ flags _ =>
      flags &&& thFin ≠ 0 →
        start + (slice stream start stop).length = stream.length
  | .pull => True

/-- What the buffer knows of the FIN, which stands at `place`. -/
structure FinNoted (place : Int) (fed : Prop) (buf : DirectionBuffer) :
    Prop where
  synReceived : buf.synReceived = true
  noted : fed → buf.finSeq = some place ∧ buf.finReceived = true
  unnoted : ¬fed → buf.finSeq = none

namespace DirectionBuffer

/-- The part of the buffer that payload does not change. -/
def finState (buf : DirectionBuffer) : Bool × Option Int × Bool :=
  (buf.synReceived, buf.finSeq, buf.finReceived)

theorem feedPayload_finState (buf : DirectionBuffer) (relSeq ack : Int)
    (payload : Bytes) :
    (buf.feedPayload relSeq ack payload).finState = buf.finState := by
  rcases feedPayload_cases buf relSeq ack payload with
    ⟨same, _old⟩ | ⟨_notLater, _beyond, same⟩ | ⟨_later, _nonempty, same⟩
  · rw [same]
  · rw [same]
    rfl
  · rw [same]
    rfl

end DirectionBuffer

theorem FinNoted.of_finState {place : Int} {fed : Prop}
    {buf next : DirectionBuffer} (finNoted : FinNoted place fed buf)
    (same : next.finState = buf.finState) : FinNoted place fed next := by
  unfold finState at same
  rw [Prod.mk.injEq, Prod.mk.injEq] at same
  obtain ⟨syn, fin, received⟩ := same
  constructor
  · rw [syn]
    exact finNoted.synReceived
  · rw [fin, received]
    exact finNoted.noted
  · rw [fin]
    exact finNoted.unnoted

theorem FinNoted.noteFin {place : Int} {fed : Prop} {buf : DirectionBuffer}
    (finNoted : FinNoted place fed buf) {seq : Int} {payload : Bytes}
    {flags : Nat} (atPlace : flags &&& thFin ≠ 0 →
      seq + payload.length = place) :
    FinNoted place (fed ∨ flags &&& thFin ≠ 0)
      (buf.noteFin seq payload flags) := by
  unfold DirectionBuffer.noteFin
  by_cases fin : flags &&& thFin ≠ 0
  · rw [if_pos fin, atPlace fin]
    exact
      { synReceived := finNoted.synReceived
        noted := fun _fed => ⟨rfl, rfl⟩
        unnoted := fun neither => absurd (Or.inr fin) neither }
  · rw [if_neg fin]
    exact
      { synReceived := finNoted.synReceived
        noted := fun either => finNoted.noted (either.resolve_right fin)
        unnoted := fun neither => finNoted.unnoted fun earlier =>
          neither (Or.inl earlier) }

theorem FinNoted.feed {place isn : Int} {fed : Prop} {buf : DirectionBuffer}
    (finNoted : FinNoted place fed buf) (opened : buf.isn = some isn)
    {seq ack : Int} {payload : Bytes} {flags : Nat}
    (noSyn : flags &&& thSyn = 0)
    (atPlace : flags &&& thFin ≠ 0 → seq + payload.length = place) :
    FinNoted place (fed ∨ flags &&& thFin ≠ 0)
      (buf.feed seq ack payload flags) := by
  unfold DirectionBuffer.feed
  rw [if_neg (not_not_intro noSyn), opened]
  exact (finNoted.noteFin atPlace).of_finState
    (feedPayload_finState _ (seq - isn) ack payload)

/-- A buffer that has put a part of the stream together is complete when it knows
of the FIN and the part is the whole. -/
theorem Reassembled.isComplete_iff {stream : Bytes} {isn : Int}
    {received : Set Nat} {output : Bytes} {buf : DirectionBuffer} {fed : Prop}
    (reassembled : Reassembled stream isn received output buf)
    (finNoted : FinNoted (isn + 1 + stream.length) fed buf) :
    buf.isComplete = true ↔
      fed ∧ ∀ position < stream.length, position ∈ received := by
  rw [← reassembled.finished_iff]
  unfold isComplete
  rw [reassembled.isn_eq]
  by_cases fin : fed
  · obtain ⟨finSeq, finReceived⟩ := finNoted.noted fin
    have within := reassembled.content.length_le
    have reached := reassembled.reached
    rw [finSeq]
    dsimp only
    rw [finNoted.synReceived, finReceived, Bool.true_and, Bool.true_and,
      Bool.and_eq_true_iff, decide_eq_true_iff, List.isEmpty_iff]
    constructor
    · rintro ⟨far, _noSegments⟩
      exact ⟨fin, by omega⟩
    · rintro ⟨_fin, finished⟩
      exact ⟨by omega, reassembled.segments_of_finished finished⟩
  · rw [finNoted.unnoted fin]
    constructor
    · intro impossible
      cases impossible
    · intro both
      exact absurd both.1 fin

/-! ### Runs -/

theorem exists_snoc {before : List StreamStep} {step : StreamStep}
    {P : StreamStep → Prop} :
    (∃ other ∈ before ++ [step], P other) ↔
      (∃ other ∈ before, P other) ∨ P step := by
  simp only [List.mem_append, List.mem_singleton, or_and_right, exists_or,
    exists_eq_left]

theorem run_finNoted {stream : Bytes} {isn ack : Int} {steps : List StreamStep}
    (finsAtEnd : ∀ step ∈ steps, step.FinAtEnd stream) :
    FinNoted (isn + 1 + stream.length) (∃ step ∈ steps, step.HasFin)
      (machine.run (opened isn ack) (steps.map
        (StreamStep.toCall stream (fun position => isn + 1 + position)
          false))) := by
  induction steps using List.reverseRecOn with
  | nil =>
      refine ⟨rfl, ?_, fun _nothing => rfl⟩
      rintro ⟨step, impossible, _fin⟩
      cases impossible
  | append_singleton before step ih =>
      have earlier := ih fun other member =>
        finsAtEnd other (List.mem_append_left [step] member)
      have last := finsAtEnd step (List.mem_append_right before
        List.mem_cons_self)
      rw [List.map_append, List.map_singleton, machine.run_snoc, exists_snoc]
      cases step with
      | segment start stop segAck flags noSyn =>
          refine earlier.feed (run_reassembled stream isn ack before).isn_eq
            noSyn fun fin => ?_
          have ends := last fin
          change isn + 1 + (start : Int) + (slice stream start stop).length =
            isn + 1 + stream.length
          omega
      | pull =>
          change FinNoted _ (_ ∨ False) _
          rw [or_false]
          exact earlier.of_finState rfl

/-- After every step the direction is complete exactly when a FIN has been fed
and every byte of the stream has. -/
theorem completion_iff {stream : Bytes} {isn ack : Int}
    {steps : List StreamStep}
    (finsAtEnd : ∀ step ∈ steps, step.FinAtEnd stream) :
    (machine.run (opened isn ack) (steps.map
        (StreamStep.toCall stream (fun position => isn + 1 + position)
          false))).isComplete = true ↔
      (∃ step ∈ steps, step.HasFin) ∧
        ∀ position < stream.length, position ∈ fedPositions stream steps :=
  (run_reassembled stream isn ack steps).isComplete_iff
    (run_finNoted finsAtEnd)

/-- The FIN comes with the second half of the stream, the first half behind
it. -/
theorem completion_reversed :
    let steps : List StreamStep :=
      [.segment 2 4 0 (thAck ||| thFin) rfl, .pull,
        .segment 0 2 0 thAck rfl]
    (machine.run (opened 100 0) (steps.map
        (StreamStep.toCall [1, 2, 3, 4] (fun position => 100 + 1 + position)
          false))).isComplete = true ↔
      (∃ step ∈ steps, step.HasFin) ∧
        ∀ position < ([1, 2, 3, 4] : Bytes).length,
          position ∈ fedPositions [1, 2, 3, 4] steps := by
  apply completion_iff
  intro step member
  simp only [List.mem_cons, List.not_mem_nil, or_false] at member
  rcases member with rfl | rfl | rfl
  · exact fun _fin => rfl
  · trivial
  · exact fun impossible => absurd rfl impossible

end DpktNg.Stream
