/-
From segments to a capture file and back: `IP.__bytes__` and
`Ethernet.__bytes__` make a frame of every segment, `pcap.Writer` puts the
frames into a file, `pcap.Reader` takes them out, and `feed_pcap` parses them
and feeds the engine.
-/

import DpktNg.Link.WrittenPackets
import DpktNg.Pcap.RoundTrip
import DpktNg.Stream.FeedPcap

namespace DpktNg.Stream

open Library Inet Link Pcap

/-- A segment with the headers that it is sent under; the checksums are still
to be computed. -/
structure SentSegment where
  dst : Bytes
  src : Bytes
  hdr : IpHdr
  segment : TCP
  isTcp : hdr.p = ipProtoTcp
  whole : TCP.headerLength segment.offFlags = 20 + segment.opts.length
  sendable : Sendable { hdr, data := .tcp segment }

namespace SentSegment

variable {Other : Type} {others : Others Other}

/-- What the engine should see. -/
def packet (sent : SentSegment) : TcpPacket := tcpPacket sent.hdr sent.segment

/-- `Ethernet(dst, src, data=IP(..., data=TCP(...)))` -/
def frame (sent : SentSegment) : Ethernet (Packet Empty) :=
  ipFrame sent.dst sent.src { hdr := sent.hdr, data := .tcp sent.segment }

def bytes (sent : SentSegment) : Except PyError Bytes :=
  sent.frame.bytes ipSerialisers

theorem frame_parts (dst src packet : Bytes) :
    let buf := packString 6 dst ++ packString 6 src ++ beBytes 2 ethTypeIp ++
      packet
    buf.drop 14 = packet ∧ frameType buf = ethTypeIp ∧
      buf.length = 14 + packet.length := by
  intro buf
  have front : (packString 6 dst ++ packString 6 src).length = 12 := by
    rw [List.length_append, packString_length, packString_length]
  have header : (packString 6 dst ++ packString 6 src ++
      beBytes 2 ethTypeIp).length = 14 := by
    rw [List.length_append, front, beBytes_length]
  refine ⟨List.drop_left' header, ?_, ?_⟩
  · unfold frameType
    rw [cut_middle front (by rw [beBytes_length]), beNat_beBytes (by decide)]
  · rw [List.length_append, header]

/-- The frame is written, and read as the segment: the checksums do not reach
the engine. -/
theorem tcpFrame_bytes (sent : SentSegment) (others : Others Other) :
    ∃ buf, sent.bytes = .ok buf ∧ buf.length < 2 ^ 32 ∧
      tcpFrame others buf = some sent.packet := by
  obtain ⟨next, data, written, packed, heads, ⟨len, sum, sameHeader⟩,
    sameData⟩ := sent.sendable.written
  refine ⟨_, bytes_ipFrame sent.dst sent.src written, ?_⟩
  obtain ⟨behind, type, length⟩ := frame_parts sent.dst sent.src
    (headed next.hdr data)
  generalize packString 6 sent.dst ++ packString 6 sent.src ++
    beBytes 2 ethTypeIp ++ headed next.hdr data = buf at behind type length
  have word : next.hdr.len < 256 ^ 2 := heads.fits (2, next.hdr.len) (by
    simp [IpHdr.fields])
  have enough := heads.len
  have sized := heads.length
  obtain ⟨value, segment⟩ : ∃ value,
      next.data = .tcp { sent.segment with sum := value } := by
    rcases sameData with same | ⟨value, same⟩
    · exact ⟨sent.segment.sum, same⟩
    · exact ⟨value, same⟩
  have parsed : TCP.parse (ipPayload (buf.drop 14)) =
      .ok { sent.segment with sum := value } := by
    rw [segment] at packed
    rw [behind, heads.payload]
    exact @TCP.parse_bytes { sent.segment with sum := value } sent.whole _
      packed
  refine ⟨by omega, ?_⟩
  have fed := @tcpFrame_of_ip _ others buf _ (by omega) type
    (by rw [behind]; omega) (by rw [behind, heads.headerLength]; omega)
    (by rw [behind, heads.ipHdr, sameHeader]; exact sent.sendable.first)
    (by rw [behind, heads.ipHdr, sameHeader]; exact sent.isTcp) parsed
  rw [fed, behind, heads.ipHdr, sameHeader]
  rfl

end SentSegment

section Captures

variable {Other : Type} {others : Others Other}

theorem processPacket_tcpFrame (reasm : StreamReassembler) {buf : Bytes}
    {pkt : TcpPacket} (carries : tcpFrame others buf = some pkt) :
    processPacket others reasm buf = .ok (reasm.feed pkt).1 := by
  unfold tcpFrame at carries
  unfold processPacket
  cases result : parseFrame others buf with
  | error problem =>
      rw [result] at carries
      cases carries
  | ok eth =>
      rw [result] at carries
      dsimp only at carries ⊢
      rw [carries]

theorem feedPcap_tcpFrames {entries : List (ℚ × Bytes)}
    {packets : List TcpPacket}
    (carry : List.Forall₂ (fun entry pkt => tcpFrame others entry.2 = some pkt)
      entries packets) (reasm : StreamReassembler) :
    feedPcap others reasm entries =
      .ok (StreamReassembler.machine.run reasm packets) := by
  induction carry generalizing reasm with
  | nil => rfl
  | cons first _rest ih =>
      rw [feedPcap, processPacket_tcpFrame reasm first, ok_bind, ih]
      rfl

/-- The frames of the segments, after their timestamps. -/
def Framed (sent : ℚ × SentSegment) (entry : ℚ × Bytes) : Prop :=
  entry.1 = sent.1 ∧ sent.2.bytes = .ok entry.2

/-- A timestamp that the file can hold. -/
structure Timed (precision : Nat) (ts : ℚ) : Prop where
  multiple : ∃ ticks : Int, ts = ticks / 10 ^ precision
  nonneg : 0 ≤ ts
  early : ts < 2 ^ 32

theorem frames_exist (others : Others Other) (nano : Bool)
    (sent : List (ℚ × SentSegment))
    (timed : ∀ entry ∈ sent, Timed (precisionOf nano) entry.1) :
    ∃ entries, List.Forall₂ Framed sent entries ∧
      (∀ entry ∈ entries, Recordable (precisionOf nano) entry) ∧
      List.Forall₂ (fun entry pkt => tcpFrame others entry.2 = some pkt)
        entries (sent.map fun entry => entry.2.packet) := by
  induction sent with
  | nil =>
      refine ⟨[], .nil, fun entry impossible => ?_, .nil⟩
      cases impossible
  | cons first rest ih =>
      obtain ⟨time, others'⟩ := List.forall_mem_cons.mp timed
      obtain ⟨entries, framed, recordable, carry⟩ := ih others'
      obtain ⟨buf, written, short, carries⟩ := first.2.tcpFrame_bytes others
      refine ⟨(first.1, buf) :: entries, .cons ⟨rfl, written⟩ framed, ?_,
        .cons carries carry⟩
      rw [List.forall_mem_cons]
      exact ⟨⟨time.multiple, time.nonneg, time.early, short⟩, recordable⟩

end Captures

/-- Segments that are sent in frames, written into a capture file in either
byte order and precision, read from it and fed by `feed_pcap` leave the engine
as it is left by the segments themselves. -/
theorem captured_segments_fed {Other : Type} (others : Others Other)
    (order : ByteOrder) (nano : Bool) (snaplen linktype : UInt32)
    (sent : List (ℚ × SentSegment))
    (timed : ∀ entry ∈ sent, Timed (precisionOf nano) entry.1)
    (reasm : StreamReassembler) :
    ∃ writer entries written,
      Writer.init order snaplen.toNat linktype.toNat nano = .ok writer ∧
      List.Forall₂ Framed sent entries ∧
      writer.writepkts entries = .ok written ∧
      (do
        let reader ← Reader.init written.file
        feedPcap others reasm (← reader.readpkts)) =
          .ok (StreamReassembler.machine.run reasm
            (sent.map fun entry => entry.2.packet)) := by
  obtain ⟨entries, framed, recordable, carry⟩ :=
    frames_exist others nano sent timed
  refine ⟨_, entries, _, Writer.init_eq order nano snaplen linktype, framed,
    Writer.writepkts_records recordable, ?_⟩
  rw [Reader.init_written, ok_bind]
  unfold Reader.readpkts
  rw [Reader.packets_records recordable, ok_bind]
  refine feedPcap_tcpFrames ?_ reasm
  rw [List.forall₂_map_left_iff]
  exact carry

theorem syn_sendable :
    Sendable
      { hdr := { p := ipProtoTcp, src := [10, 0, 0, 1], dst := [10, 0, 0, 2] }
        data := .tcp { sport := 1000, dport := 80, seq := 100 } } where
  sum := rfl
  optionWords := rfl
  optionLength := Nat.zero_le 40
  headerLength := rfl
  transport := ⟨rfl, rfl⟩
  total := by decide
  fits := by decide
  dataFits := by decide
  srcLength := rfl
  dstLength := rfl
  first := rfl

def sentSyn : SentSegment where
  dst := zeros 6
  src := zeros 6
  hdr := { p := ipProtoTcp, src := [10, 0, 0, 1], dst := [10, 0, 0, 2] }
  segment := { sport := 1000, dport := 80, seq := 100 }
  isTcp := rfl
  whole := rfl
  sendable := syn_sendable

theorem data_sendable :
    Sendable
      { hdr := { p := ipProtoTcp, src := [10, 0, 0, 1], dst := [10, 0, 0, 2] }
        data := .tcp
          { sport := 1000, dport := 80, seq := 101, offFlags := 0x5010
            data := [65, 66] } } where
  sum := rfl
  optionWords := rfl
  optionLength := Nat.zero_le 40
  headerLength := rfl
  transport := ⟨rfl, rfl⟩
  total := by decide
  fits := by decide
  dataFits := by decide
  srcLength := rfl
  dstLength := rfl
  first := rfl

def sentData : SentSegment where
  dst := zeros 6
  src := zeros 6
  hdr := { p := ipProtoTcp, src := [10, 0, 0, 1], dst := [10, 0, 0, 2] }
  segment :=
    { sport := 1000, dport := 80, seq := 101, offFlags := 0x5010
      data := [65, 66] }
  isTcp := rfl
  whole := rfl
  sendable := data_sendable

theorem captured_segments_fed_two :
    ∃ writer entries written,
      Writer.init .little 1500 1 false = .ok writer ∧
      List.Forall₂ Framed [(1, sentSyn), (11 / 10, sentData)] entries ∧
      writer.writepkts entries = .ok written ∧
      (do
        let reader ← Reader.init written.file
        feedPcap bareOthers {} (← reader.readpkts)) =
          .ok (StreamReassembler.machine.run {}
            [sentSyn.packet, sentData.packet]) := by
  refine captured_segments_fed bareOthers .little false 1500 1
    [(1, sentSyn), (11 / 10, sentData)] ?_ {}
  rw [List.forall_mem_cons, List.forall_mem_singleton]
  constructor
  · exact ⟨⟨1000000, by norm_num [precisionOf]⟩, by norm_num, by norm_num⟩
  · exact ⟨⟨1100000, by norm_num [precisionOf]⟩, by norm_num, by norm_num⟩

end DpktNg.Stream
