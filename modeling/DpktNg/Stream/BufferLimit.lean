/-
The limit `max_buffer_per_dir` of the reassembler.

After every packet each buffer above the limit is read with `get_data`.  With
`fill_gaps`, and after a merge, nothing is left to exceed the limit.  Without
them `get_data` returns contiguous bytes only, which the same call of `feed`
has just read already, so out-of-order segments pile up beyond any limit.
-/

import DpktNg.Stream.ConnectionTable
import DpktNg.Stream.MergeLoop

namespace DpktNg.Stream

open Library DirectionBuffer

namespace DirectionBuffer.Accounted

variable {buf : DirectionBuffer} (accounted : Accounted buf)

include accounted

theorem feedSyn (seq : Int) (payload : Bytes) :
    Accounted (buf.feedSyn seq payload) := by
  unfold DirectionBuffer.feedSyn
  dsimp only
  split
  · exact accounted
  · unfold Accounted at accounted ⊢
    dsimp only
    rw [accounted, List.length_append]
    omega

theorem noteFin (seq : Int) (payload : Bytes) (flags : Nat) :
    Accounted (buf.noteFin seq payload flags) := by
  unfold DirectionBuffer.noteFin
  split <;> exact accounted

theorem feedPayload (relSeq ack : Int) (payload : Bytes) :
    Accounted (buf.feedPayload relSeq ack payload) := by
  rcases feedPayload_cases buf relSeq ack payload with
    ⟨same, _⟩ | ⟨_, _, same⟩ | ⟨_, _, same⟩
  · rw [same]
    exact accounted
  · rw [same]
    rfl
  · rw [same]
    rfl

/-- Whatever a packet carries, `feed` keeps the count right. -/
theorem feed (seq ack : Int) (payload : Bytes) (flags : Nat) :
    Accounted (buf.feed seq ack payload flags) := by
  unfold DirectionBuffer.feed
  split
  · exact accounted.feedSyn seq payload
  · split
    · exact accounted
    · exact (accounted.noteFin seq payload flags).feedPayload _ ack payload

end DirectionBuffer.Accounted

structure Empty (buf : DirectionBuffer) : Prop where
  contiguous : buf.contiguous = []
  segments : buf.segments = []
  totalBuffered : buf.totalBuffered = 0

theorem Empty.accounted {buf : DirectionBuffer} (empty : Empty buf) :
    Accounted buf := by
  unfold Accounted
  rw [empty.contiguous, empty.segments, empty.totalBuffered]
  rfl

theorem deliver_empty {conn : Connection} {mode : OutputMode} {fill : Bool}
    (reads : mode = .merged ∨ fill = true)
    (accounted : ∀ direction, Accounted (conn.buffer direction))
    (direction : Direction) :
    Empty ((conn.deliver mode fill).1.buffer direction) := by
  cases mode with
  | separate =>
      have flush : fill = true := reads.resolve_left (by decide)
      subst flush
      cases direction with
      | c2s => exact ⟨rfl, rfl, rfl⟩
      | s2c => exact ⟨rfl, rfl, rfl⟩
  | merged =>
      change Empty ((conn.mergedData fill).1.buffer direction)
      unfold Connection.mergedData
      split
      · -- nothing was buffered, so the count is zero already
        rename_i nothing
        have empty := Connection.buffers_of_items_nil nothing direction
        refine ⟨empty.1, empty.2, ?_⟩
        have count := accounted direction
        unfold Accounted at count
        rw [empty.1, empty.2] at count
        exact count
      · cases direction with
        | c2s => exact ⟨rfl, rfl, rfl⟩
        | s2c => exact ⟨rfl, rfl, rfl⟩

theorem Empty.enforceLimit {buf : DirectionBuffer} (empty : Empty buf)
    (limit : Nat) (fill : Bool) : Empty (buf.enforceLimit limit fill) := by
  have within : ¬buf.totalBuffered > limit := by
    rw [empty.totalBuffered]
    omega
  unfold DirectionBuffer.enforceLimit
  rw [if_neg within]
  exact empty

namespace StreamReassembler

theorem fresh_empty (srcIp : PyStr) (srcPort : Nat) (dstIp : PyStr)
    (dstPort : Nat) (direction : Direction) :
    Empty (Connection.buffer { srcIp, srcPort, dstIp, dstPort }
      direction) := by
  cases direction with
  | c2s => exact ⟨rfl, rfl, rfl⟩
  | s2c => exact ⟨rfl, rfl, rfl⟩

theorem handle_empty {conn : Connection} {mode : OutputMode} {fill : Bool}
    (reads : mode = .merged ∨ fill = true) (limit : Nat) (pkt : TcpPacket)
    (empty : ∀ direction, Empty (conn.buffer direction))
    (direction : Direction) :
    Empty ((conn.handle limit mode fill pkt).1.buffer direction) := by
  have fed : ∀ direction, Accounted ((conn.feed (inetNtoa pkt.src) pkt.sport
      pkt.seq pkt.ack pkt.data pkt.flags).buffer direction) := by
    intro direction
    unfold Connection.feed Connection.feedTo
    by_cases same : direction = conn.direction (inetNtoa pkt.src) pkt.sport
    · rw [← same, Connection.buffer_setBuffer_same]
      exact (empty direction).accounted.feed _ _ _ _
    · rw [Connection.buffer_setBuffer_other _ _ same]
      exact (empty direction).accounted
  have read := deliver_empty reads fed
  cases direction with
  | c2s => exact (read .c2s).enforceLimit limit fill
  | s2c => exact (read .s2c).enforceLimit limit fill

theorem track_empty {reasm : StreamReassembler}
    (empty : reasm.connections = .empty) (connId : ConnId) :
    (reasm.track connId).2 =
      { srcIp := connId.1
        srcPort := connId.2.1
        dstIp := connId.2.2.1
        dstPort := connId.2.2.2 } := by
  unfold StreamReassembler.track
  rw [empty]
  rfl

def clientSyn : TcpPacket :=
  { src := ⟨10, 0, 0, 1⟩, dst := ⟨10, 0, 0, 2⟩, sport := 1000, dport := 80
    seq := 0, ack := 0, flags := thSyn, data := [] }

def clientLate (size : Nat) : TcpPacket :=
  { clientSyn with seq := 2, flags := thAck, data := zeros size }

theorem opened_feed_late (size : Nat) :
    (opened 0 0).feed 2 0 (zeros (size + 1)) thAck =
      (opened 0 0).insertOutOfOrder
        { relSeq := 2, ack := 0, data := zeros (size + 1) } := by
  change (opened 0 0).feedPayload 2 0 (zeros (size + 1)) = _
  have nextSeq : (opened 0 0).nextSeq = 1 := rfl
  rcases feedPayload_cases (opened 0 0) 2 0 (zeros (size + 1)) with
    ⟨_, empty | old⟩ | ⟨notLater, _, _⟩ | ⟨_, _, buffered⟩
  · cases empty
  · rw [nextSeq] at old
    omega
  · rw [nextSeq] at notLater
    omega
  · exact buffered

/-- One late segment larger than the limit stays in the buffer. -/
theorem late_segment_kept (maxConnections maxBufferPerDir : Nat) :
    ∃ conn : Connection,
      (clientSyn.connId, conn) ∈ (machine.run
        { maxConnections, maxBufferPerDir }
        [clientSyn, clientLate (maxBufferPerDir + 1)]).connections.entries ∧
      conn.c2s.totalBuffered = maxBufferPerDir + 1 := by
  let fresh : StreamReassembler := { maxConnections, maxBufferPerDir }
  let next := (fresh.feed clientSyn).1
  let conn := (fresh.feed clientSyn).2.connection
  have syn : conn.c2s = opened 0 0 := by
    have read : conn.buffer .c2s = _ :=
      feed_buffer_default rfl rfl clientSyn .c2s
    rw [track_empty rfl] at read
    exact read
  have sameConfig : next.configuration = fresh.configuration :=
    fresh.feed_configuration clientSyn
  simp only [configuration, Prod.mk.injEq] at sameConfig
  have found : next.track clientSyn.connId = (next, conn) :=
    track_of_present (Dict.get?_set_same _ _ _)
  have fromClient : conn.direction (inetNtoa clientSyn.src) clientSyn.sport =
      .c2s := rfl
  refine ⟨(next.feed (clientLate (maxBufferPerDir + 1))).2.connection,
    (Dict.mem_set _ _ _ _).mpr (Or.inl rfl), ?_⟩
  have read : (next.feed (clientLate (maxBufferPerDir + 1))).2.connection.buffer
      .c2s = _ :=
    feed_buffer_default sameConfig.2.2.1 sameConfig.2.2.2
      (clientLate (maxBufferPerDir + 1)) .c2s
  change Connection.c2s _ = _ at read
  have sameId : (clientLate (maxBufferPerDir + 1)).connId =
      clientSyn.connId := rfl
  rw [read, sameId, found]
  change (((conn.feed (inetNtoa clientSyn.src) clientSyn.sport 2 0
    (zeros (maxBufferPerDir + 1)) thAck).buffer .c2s).getData
      false).1.totalBuffered = _
  unfold Connection.feed Connection.feedTo
  rw [fromClient, Connection.buffer_setBuffer_same]
  change ((conn.c2s.feed 2 0 _ thAck).getData false).1.totalBuffered = _
  rw [syn, opened_feed_late]
  change ((0 : Nat) : Int) + segmentBytes [_] - ((0 : Nat) : Int) = _
  simp [segmentBytes]

/-- The limit holds after every packet, whatever is fed, exactly in the
configurations that read gaps as well or merge both directions. -/
theorem limit_enforced_iff (maxConnections maxBufferPerDir : Nat)
    (outputMode : OutputMode) (fillGaps : Bool) :
    (∀ packets : List TcpPacket, ∀ entry ∈ (machine.run
        { maxConnections, maxBufferPerDir, outputMode, fillGaps }
        packets).connections.entries,
      ∀ direction,
        (entry.2.buffer direction).totalBuffered ≤ maxBufferPerDir) ↔
      outputMode = .merged ∨ fillGaps = true := by
  constructor
  · intro enforced
    by_contra other
    rw [not_or, Bool.not_eq_true] at other
    have separate : outputMode = .separate := by
      cases outputMode with
      | separate => rfl
      | merged => exact absurd rfl other.1
    rw [separate, other.2] at enforced
    obtain ⟨conn, member, kept⟩ :=
      late_segment_kept maxConnections maxBufferPerDir
    have within := enforced _ _ member .c2s
    change conn.c2s.totalBuffered ≤ maxBufferPerDir at within
    omega
  · intro reads packets entry member direction
    have allEmpty : AllTracked
        (fun conn => ∀ direction, Empty (conn.buffer direction)) _ :=
      run_allTracked fresh_empty
        { maxConnections, maxBufferPerDir, outputMode, fillGaps }
        (fun _conn pkt => handle_empty reads _ pkt)
        (fun _entry impossible => by cases impossible) packets
    rw [(allEmpty entry member direction).totalBuffered]
    omega

/-- In the default mode with a limit of zero bytes one byte stays buffered. -/
theorem limit_exceeded :
    ¬∀ (maxConnections maxBufferPerDir : Nat) (outputMode : OutputMode)
      (fillGaps : Bool) (packets : List TcpPacket),
      ∀ entry ∈ (machine.run
          { maxConnections, maxBufferPerDir, outputMode, fillGaps }
          packets).connections.entries,
        ∀ direction,
          (entry.2.buffer direction).totalBuffered ≤ maxBufferPerDir := by
  intro enforced
  obtain ⟨conn, member, kept⟩ := late_segment_kept 10000 0
  have within := enforced 10000 0 .separate false [clientSyn, clientLate 1]
    _ member .c2s
  change conn.c2s.totalBuffered ≤ (0 : Nat) at within
  omega

end StreamReassembler

end DpktNg.Stream
