/-
Merged mode over whole runs of a connection.

A merge empties both buffers, the out-of-order segments included.  A segment
behind contiguous bytes is skipped and lost with the buffer; a segment of a
direction without contiguous bytes is delivered although bytes before it are
missing.
-/

import DpktNg.Stream.MergeLoop

namespace DpktNg.Stream

open Library DirectionBuffer

namespace Connection

def established (srcIp : PyStr) (srcPort : Nat) (dstIp : PyStr)
    (dstPort : Nat) (isn ack : Direction → Int) : Connection :=
  let fresh : Connection := { srcIp, srcPort, dstIp, dstPort }
  (fresh.feedTo .c2s (isn .c2s) (ack .c2s) [] thSyn).feedTo .s2c (isn .s2c)
    (ack .s2c) [] thSyn

end Connection

/-- A slice of the stream of one direction arrives, or a merge is read. -/
inductive ConnectionStep where
  | segment (direction : Direction) (start stop : Nat) (ack : Int)
      (flags : Nat) (noSyn : flags &&& thSyn = 0)
  | merge

def ConnectionStep.toCall (streams : Direction → Bytes)
    (isn : Direction → Int) : ConnectionStep → Connection.Call
  | .segment direction start stop ack flags _ =>
      .feed direction (isn direction + 1 + start) ack
        (slice (streams direction) start stop) flags
  | .merge => .mergedData false

def ConnectionStep.positions (streams : Direction → Bytes)
    (direction : Direction) : ConnectionStep → Set Nat
  | .segment fed start stop _ _ _ =>
      {position | fed = direction ∧
        position ∈ slicePositions (streams direction) start stop}
  | .merge => ∅

/-- The steps feed the stream position of that direction. -/
def Feeds (streams : Direction → Bytes) (steps : List ConnectionStep)
    (direction : Direction) (position : Nat) : Prop :=
  ∃ step ∈ steps, position ∈ step.positions streams direction

/-- At every merge, a direction that has out-of-order segments also has
contiguous bytes, and what the segments hold is fed again afterwards. -/
def MergesLoseNothing (streams : Direction → Bytes)
    (isn : Direction → Int) (conn : Connection)
    (steps : List ConnectionStep) : Prop :=
  ∀ before after, steps = before ++ .merge :: after →
    ∀ direction,
      let buf := (Connection.machine.run conn
        (before.map (ConnectionStep.toCall streams isn))).buffer direction
      Mergeable buf ∧ ∀ position : Nat,
        Covers buf.segments (position + 1) →
          Feeds streams after direction position

/-- What holds between two steps: each buffer reassembles its stream, the
result interleaves what both delivered, and what is missing will be fed. -/
structure MergedSoFar (streams : Direction → Bytes) (isn : Direction → Int)
    (remaining : List ConnectionStep) (received : Direction → Set Nat)
    (output : Direction → Bytes) (result : Bytes) (conn : Connection) :
    Prop where
  reassembled : ∀ direction,
    Reassembled (streams direction) (isn direction) (received direction)
      (output direction) (conn.buffer direction)
  interleaves : Interleaving (output .c2s) (output .s2c) result
  pending : ∀ direction, ∀ position < (streams direction).length,
    position ∈ received direction ∨
      Feeds streams remaining direction position

theorem Reassembled.cleared {stream : Bytes} {isn : Int} {received : Set Nat}
    {output : Bytes} {buf : DirectionBuffer}
    (reassembled : Reassembled stream isn received output buf) :
    Reassembled stream isn
      {position : Nat | (position : Int) + 1 < buf.nextSeq}
      (output ++ buf.contiguous) buf.cleared where
  wellFormed := reassembled.wellFormed.getData true
  isn_eq := reassembled.isn_eq
  agrees := fun seg member => by cases member
  content := by
    change output ++ buf.contiguous ++ [] <+: stream
    rw [List.append_nil]
    exact reassembled.content
  reached := by
    change buf.nextSeq = (output ++ buf.contiguous ++ []).length + 1
    rw [List.append_nil]
    exact reassembled.reached
  covered := by
    intro position
    constructor
    · intro early
      exact Or.inl early
    · intro present
      rcases present with early | inside
      · exact early
      · exact absurd inside (covers_nil _)

theorem feeds_cons {streams : Direction → Bytes} {step : ConnectionStep}
    {rest : List ConnectionStep} {direction : Direction} {position : Nat}
    (fed : Feeds streams (step :: rest) direction position) :
    position ∈ step.positions streams direction ∨
      Feeds streams rest direction position := by
  obtain ⟨other, member, inside⟩ := fed
  cases member with
  | head => exact Or.inl inside
  | tail _ later => exact Or.inr ⟨other, later, inside⟩

section Steps

variable {streams : Direction → Bytes} {isn : Direction → Int}
  {rest : List ConnectionStep} {received : Direction → Set Nat}
  {output : Direction → Bytes} {result : Bytes} {conn : Connection}

theorem MergedSoFar.segment {direction : Direction} {start stop : Nat}
    {ack : Int} {flags : Nat} {noSyn : flags &&& thSyn = 0}
    (holds : MergedSoFar streams isn
      (.segment direction start stop ack flags noSyn :: rest) received output
      result conn) :
    MergedSoFar streams isn rest
      (Function.update received direction
        (received direction ∪
          slicePositions (streams direction) start stop))
      output result
      (conn.feedTo direction (isn direction + 1 + start) ack
        (slice (streams direction) start stop) flags) where
  reassembled := by
    intro other
    by_cases same : other = direction
    · subst same
      rw [Function.update_self, Connection.feedTo,
        Connection.buffer_setBuffer_same]
      exact (holds.reassembled other).feed start stop _ ack flags noSyn rfl
    · rw [Function.update_of_ne same, Connection.feedTo,
        Connection.buffer_setBuffer_other _ _ same]
      exact holds.reassembled other
  interleaves := holds.interleaves
  pending := by
    intro other position within
    by_cases same : other = direction
    · subst same
      rw [Function.update_self]
      rcases holds.pending other position within with present | fed
      · exact Or.inl (Or.inl present)
      · rcases feeds_cons fed with now | later
        · exact Or.inl (Or.inr now.2)
        · exact Or.inr later
    · rw [Function.update_of_ne same]
      rcases holds.pending other position within with present | fed
      · exact Or.inl present
      · rcases feeds_cons fed with now | later
        · exact absurd now.1.symm same
        · exact Or.inr later

theorem MergedSoFar.merge
    (holds : MergedSoFar streams isn (.merge :: rest) received output result
      conn)
    (mergeable : ∀ direction, Mergeable (conn.buffer direction))
    (fedAgain : ∀ direction, ∀ position : Nat,
      Covers (conn.buffer direction).segments (position + 1) →
        Feeds streams rest direction position) :
    MergedSoFar streams isn rest
      (fun direction =>
        {position : Nat |
          (position : Int) + 1 < (conn.buffer direction).nextSeq})
      (fun direction =>
        output direction ++ (conn.buffer direction).contiguous)
      (result ++ (conn.mergedData false).2) (conn.mergedData false).1 where
  reassembled := by
    intro direction
    rw [Connection.mergedData_buffer fun other =>
      (holds.reassembled other).wellFormed]
    exact (holds.reassembled direction).cleared
  interleaves := by
    have delivered := Connection.mergedData_interleaves
      (fun direction => (holds.reassembled direction).wellFormed) mergeable
      (fun direction => (holds.reassembled direction).wellFormed.started
        (holds.reassembled direction).isn_ne_none)
    exact holds.interleaves.append delivered
  pending := by
    intro direction position within
    rcases holds.pending direction position within with present | fed
    · rcases ((holds.reassembled direction).covered position).mp present with
        early | inside
      · exact Or.inl early
      · exact Or.inr (fedAgain direction position inside)
    · rcases feeds_cons fed with now | later
      · cases now
      · exact Or.inr later

/-- When nothing is missing any more nothing is out of order, and a last merge
completes both streams. -/
theorem MergedSoFar.complete
    (holds : MergedSoFar streams isn [] received output result conn) :
    Interleaving (streams .c2s) (streams .s2c)
      (result ++ (conn.mergedData false).2) := by
  have all : ∀ direction, ∀ position < (streams direction).length,
      position ∈ received direction := by
    intro direction position within
    rcases holds.pending direction position within with present | fed
    · exact present
    · obtain ⟨_step, member, _inside⟩ := fed
      cases member
  have finished : ∀ direction, (conn.buffer direction).nextSeq =
      (streams direction).length + 1 := fun direction =>
    (holds.reassembled direction).finished_iff.mpr (all direction)
  have noSegments : ∀ direction, (conn.buffer direction).segments = [] :=
    fun direction =>
      (holds.reassembled direction).segments_of_finished (finished direction)
  have lastMerge : MergedSoFar streams isn [.merge] received output result
      conn :=
    { reassembled := holds.reassembled
      interleaves := holds.interleaves
      pending := fun direction position within =>
        Or.inl (all direction position within) }
  have last := lastMerge.merge
    (fun direction => Or.inl (noSegments direction))
    (fun direction position inside => by
      rw [noSegments direction] at inside
      exact absurd inside (covers_nil _))
  have whole : ∀ direction,
      output direction ++ (conn.buffer direction).contiguous =
        streams direction := by
    intro direction
    rw [(holds.reassembled direction).content_eq, finished direction]
    have count : ((streams direction).length + 1 - 1 : Int).toNat =
        (streams direction).length := by omega
    rw [count, List.take_length]
  have interleaves := last.interleaves
  rw [whole .c2s, whole .s2c] at interleaves
  exact interleaves

end Steps

theorem run_merged {streams : Direction → Bytes} {isn : Direction → Int}
    (steps : List ConnectionStep) (received : Direction → Set Nat)
    (output : Direction → Bytes) (result : Bytes) (conn : Connection)
    (holds : MergedSoFar streams isn steps received output result conn)
    (keeps : MergesLoseNothing streams isn conn steps) :
    let calls := steps.map (ConnectionStep.toCall streams isn)
    ∃ received' output',
      MergedSoFar streams isn [] received' output'
        (result ++ (Connection.machine.trace conn calls).flatten)
        (Connection.machine.run conn calls) := by
  induction steps generalizing received output result conn with
  | nil =>
      refine ⟨received, output, ?_⟩
      simpa using holds
  | cons step rest ih =>
      have later : MergesLoseNothing streams isn
          (conn.call (step.toCall streams isn)).1 rest := by
        intro before after split
        exact keeps (step :: before) after (by rw [split]; rfl)
      dsimp only
      rw [List.map_cons, Machine.run_cons, Machine.trace_cons,
        List.flatten_cons, ← List.append_assoc]
      cases step with
      | segment direction start stop ack flags noSyn =>
          have fed := ih _ _ _ _ holds.segment later
          change ∃ received' output', MergedSoFar _ _ _ _ _
            (result ++ [] ++ _) _
          rw [List.append_nil]
          exact fed
      | merge =>
          have now := keeps [] rest rfl
          exact ih _ _ _ _
            (holds.merge (fun direction => (now direction).1)
              (fun direction => (now direction).2)) later

/-- When no merge loses a byte or delivers one early, the merges of a run that
feeds both streams whole deliver an interleaving of them. -/
theorem merged_interleaves (streams : Direction → Bytes)
    (isn ack : Direction → Int) (srcIp : PyStr) (srcPort : Nat)
    (dstIp : PyStr) (dstPort : Nat) (steps : List ConnectionStep)
    (allFed : ∀ direction, ∀ position < (streams direction).length,
      Feeds streams steps direction position)
    (keeps : MergesLoseNothing streams isn
      (.established srcIp srcPort dstIp dstPort isn ack) steps) :
    Interleaving (streams .c2s) (streams .s2c)
      (Connection.machine.trace
        (.established srcIp srcPort dstIp dstPort isn ack)
        ((steps ++ [ConnectionStep.merge]).map
          (ConnectionStep.toCall streams isn))).flatten := by
  have opening : MergedSoFar streams isn steps (fun _direction => ∅)
      (fun _direction => []) []
      (.established srcIp srcPort dstIp dstPort isn ack) :=
    { reassembled := by
        intro direction
        have start := reassembled_opened (streams direction) (isn direction)
          (ack direction)
        cases direction with
        | c2s => exact start
        | s2c => exact start
      interleaves := Interleaving.nil
      pending := fun direction position within =>
        Or.inr (allFed direction position within) }
  obtain ⟨received, output, final⟩ := run_merged steps _ _ _ _ opening keeps
  rw [List.map_append, List.map_singleton, Connection.machine.trace_snoc,
    List.flatten_append, List.flatten_singleton]
  exact final.complete

def bothZero : Direction → Int := fun _direction => 0

def orderedStreams : Direction → Bytes
  | .c2s => [1, 2]
  | .s2c => [3]

def orderedSteps : List ConnectionStep :=
  [.segment .c2s 0 1 0 thAck thAck_noSyn, .merge,
    .segment .s2c 0 1 0 thAck thAck_noSyn, .segment .c2s 1 2 0 thAck thAck_noSyn]

/-- Two merges with in-order data of both sides. -/
theorem merged_interleaves_run :
    Interleaving (orderedStreams .c2s) (orderedStreams .s2c)
      (Connection.machine.trace
        (.established [] 1 [] 2 bothZero bothZero)
        ((orderedSteps ++ [ConnectionStep.merge]).map
          (ConnectionStep.toCall orderedStreams bothZero))).flatten := by
  apply merged_interleaves
  · intro direction position within
    cases direction with
    | c2s =>
        have cases : position = 0 ∨ position = 1 := by
          simp only [orderedStreams, List.length_cons, List.length_nil]
            at within
          omega
        rcases cases with rfl | rfl
        · exact ⟨.segment .c2s 0 1 0 thAck rfl, by simp [orderedSteps], by
            simp [ConnectionStep.positions, slicePositions, orderedStreams]⟩
        · exact ⟨.segment .c2s 1 2 0 thAck rfl, by simp [orderedSteps], by
            simp [ConnectionStep.positions, slicePositions, orderedStreams]⟩
    | s2c =>
        have only : position = 0 := by
          simp only [orderedStreams, List.length_cons, List.length_nil]
            at within
          omega
        rw [only]
        exact ⟨.segment .s2c 0 1 0 thAck rfl, by simp [orderedSteps], by
          simp [ConnectionStep.positions, slicePositions, orderedStreams]⟩
  · intro before after split direction
    have first : before = [.segment .c2s 0 1 0 thAck rfl] := by
      unfold orderedSteps at split
      rcases before with _ | ⟨step, _ | ⟨second, _ | ⟨third, _ | rest⟩⟩⟩
      · simp at split
      · simpa using (List.cons.inj split).1.symm
      · simp at split
      · simp at split
      · simp at split
    subst first
    have noSegments : ((Connection.machine.run
        (.established [] 1 [] 2 bothZero bothZero)
        ([ConnectionStep.segment .c2s 0 1 0 thAck rfl].map
          (ConnectionStep.toCall orderedStreams bothZero))).buffer
            direction).segments = [] := by
      cases direction <;> decide
    refine ⟨Or.inl noSegments, ?_⟩
    intro position inside
    rw [noSegments] at inside
    exact absurd inside (covers_nil _)

/-- The third byte arrives before the second, a merge drops it, and the second
byte alone comes out of the last merge. -/
theorem merged_loses_segment :
    ¬∀ (streams : Direction → Bytes) (isn ack : Direction → Int)
      (srcIp : PyStr) (srcPort : Nat) (dstIp : PyStr) (dstPort : Nat)
      (steps : List ConnectionStep),
      (∀ direction, ∀ position < (streams direction).length,
        Feeds streams steps direction position) →
      Interleaving (streams .c2s) (streams .s2c)
        (Connection.machine.trace
          (.established srcIp srcPort dstIp dstPort isn ack)
          ((steps ++ [ConnectionStep.merge]).map
            (ConnectionStep.toCall streams isn))).flatten := by
  intro claimed
  have merged := claimed
    (fun direction => if direction = .c2s then [1, 2, 3] else [])
    bothZero bothZero [] 1 [] 2
    [.segment .c2s 0 1 0 thAck rfl, .segment .c2s 2 3 0 thAck rfl, .merge,
      .segment .c2s 1 2 0 thAck rfl]
    (by
      intro direction position within
      cases direction with
      | s2c => simp at within
      | c2s =>
          refine ⟨.segment .c2s position (position + 1) 0 thAck rfl, ?_, by
            simpa [ConnectionStep.positions, slicePositions] using within⟩
          have cases : position = 0 ∨ position = 1 ∨ position = 2 := by
            simp at within
            omega
          rcases cases with rfl | rfl | rfl <;> simp)
  have count := merged.length_eq
  revert count
  decide

end DpktNg.Stream
