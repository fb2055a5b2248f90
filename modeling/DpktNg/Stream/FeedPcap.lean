/-
`feed_pcap` of dpkt/stream.py: every frame of a capture is parsed, and the TCP
segments in IPv4 packets are fed to the engine.  A frame that does not parse is
skipped, and a hostile one ends the run.
-/

import DpktNg.Link.HostileFrame
import DpktNg.Stream.Reassembler

namespace DpktNg.Stream

open Library Inet Link

def inAddr (packed : Bytes) : InAddr where
  a := packed.getD 0 0
  b := packed.getD 1 0
  c := packed.getD 2 0
  d := packed.getD 3 0

/-- What `feed` reads of an IP packet and the segment in it. -/
def tcpPacket (hdr : IpHdr) (segment : TCP) : TcpPacket where
  src := inAddr hdr.src
  dst := inAddr hdr.dst
  sport := segment.sport
  dport := segment.dport
  seq := segment.seq
  ack := segment.ack
  flags := segment.flags
  data := segment.data

section Processing

variable {Other : Type}

/-- The packet that `_process_packet` feeds for a frame, if any. -/
def framePacket (eth : Ethernet (Packet Other)) : Option TcpPacket :=
  match eth.data with
  | .ip ip =>
      match ip.data with
      | .tcp segment => some (tcpPacket ip.hdr segment)
      | _ => none
  | _ => none

variable (others : Others Other)

def processPacket (reasm : StreamReassembler) (buf : Bytes) :
    Except PyError StreamReassembler :=
  match parseFrame others buf with
  | .error problem =>
      if problem.IsUnpackError then .ok reasm else .error problem
  | .ok eth =>
      match framePacket eth with
      | some pkt => .ok (reasm.feed pkt).1
      | none => .ok reasm

/-- The entries of the reader are timestamps and frames. -/
def feedPcap {Time : Type} (reasm : StreamReassembler) :
    List (Time × Bytes) → Except PyError StreamReassembler
  | [] => .ok reasm
  | (_, buf) :: rest => do
      let reasm ← processPacket others reasm buf
      feedPcap reasm rest

/-- The TCP packet in a frame that parses as IPv4 and TCP. -/
def tcpFrame (buf : Bytes) : Option TcpPacket :=
  match parseFrame others buf with
  | .ok eth => framePacket eth
  | .error _ => none

/-- The TCP packets of a capture. -/
def tcpFrames {Time : Type} (reader : List (Time × Bytes)) : List TcpPacket :=
  reader.filterMap fun entry => tcpFrame others entry.2

end Processing

section Feeding

variable {Other : Type} {others : Others Other}

/-- An Ethernet frame with an IPv4 packet that is not a later fragment, and in
it a segment with a valid header, is a TCP frame. -/
theorem tcpFrame_of_ip {buf : Bytes} {segment : TCP}
    (whole : 14 ≤ buf.length) (isIp : frameType buf = ethTypeIp)
    (packet : 20 ≤ (buf.drop 14).length)
    (header : 20 ≤ ipHeaderLength (buf.drop 14))
    (first : (ipHdr (buf.drop 14)).offset = 0)
    (isTcp : (ipHdr (buf.drop 14)).p = ipProtoTcp)
    (parsed : TCP.parse (ipPayload (buf.drop 14)) = .ok segment) :
    tcpFrame others buf = some (tcpPacket (ipHdr (buf.drop 14)) segment) := by
  have segmentDecoded : (protoUpper others (Layer.parse others)).decode
      (some ipProtoTcp) (ipPayload (buf.drop 14)) = .ok (.tcp segment) := by
    refine Upper.decode_registered parseTcp rfl ?_
    unfold parseTcp
    rw [parsed, ok_bind]
  have ipParsed : ParsedIP.parse (protoUpper others (Layer.parse others))
      (buf.drop 14) =
        .ok { hdr := ipHdr (buf.drop 14), data := .tcp segment } := by
    refine packetInit_eq_ok.mpr ?_
    rw [ParsedIP.unpack_eq, if_neg (by omega), if_neg (by omega)]
    unfold Upper.dataOfIp
    rw [if_pos first, isTcp, segmentDecoded, ok_bind]
  have ipDecoded : (typeUpper others (Layer.parse others)).decode
      (some ethTypeIp) (buf.drop 14) =
        .ok (.ip { hdr := ipHdr (buf.drop 14), data := .tcp segment }) := by
    refine Upper.decode_registered (asPacket (Layer.parse others) .ip) rfl ?_
    unfold asPacket
    rw [Layer.parse_eq, parseLayer, ipParsed]
    rfl
  have frameParsed : Ethernet.unpack others (Layer.parse others)
      { data := .raw [] } buf =
        .ok { dst := cut buf 0 6, src := cut buf 6 12, type := ethTypeIp
              nextType := some ethTypeIp
              data := .ip
                { hdr := ipHdr (buf.drop 14), data := .tcp segment } } := by
    have ownType : beNat (cut buf 12 14) = ethTypeIp := isIp
    have notStack : ∀ type, some ethTypeIp = some type → ¬IsStackType type := by
      intro type same
      cases same
      decide
    rw [Ethernet.unpack, dif_neg (by omega)]
    unfold Ethernet.setHdr
    dsimp only
    rw [ownType, if_pos (by decide)]
    unfold Ethernet.unpackData
    dsimp only
    rw [stripStack_other notStack, ok_bind]
    dsimp only
    rw [show ethType (some ethTypeIp) ethTypeIp = ethTypeIp from rfl,
      ipDecoded, ok_bind]
    rfl
  have result : parseFrame others buf =
      .ok { dst := cut buf 0 6, src := cut buf 6 12, type := ethTypeIp
            nextType := some ethTypeIp
            data := .ip
              { hdr := ipHdr (buf.drop 14), data := .tcp segment } } := by
    unfold parseFrame Ethernet.parse
    rw [packetInit_eq_ok.mpr frameParsed]
    rfl
  unfold tcpFrame
  rw [result]
  rfl

/-- One frame: the engine is fed with its packet, if it has one, unless the
frame is hostile. -/
theorem processPacket_eq_ok (trusted : others.RaisesUnpackErrors)
    (reasm : StreamReassembler) {buf : Bytes}
    (fine : ¬Hostile .ethernet buf) :
    processPacket others reasm buf =
      .ok (StreamReassembler.machine.run reasm
        (tcpFrame others buf).toList) := by
  have raises : RaisesOnly PyError.IsUnpackError (parseFrame others buf) := by
    rw [← not_escapes_iff, parseFrame_aborts trusted]
    exact fine
  unfold processPacket tcpFrame
  cases result : parseFrame others buf with
  | error problem => exact if_pos (raises problem result)
  | ok eth =>
      dsimp only
      cases framePacket eth with
      | none => rfl
      | some pkt => rfl

theorem processPacket_hostile (trusted : others.RaisesUnpackErrors)
    (reasm : StreamReassembler) {buf : Bytes}
    (hostile : Hostile .ethernet buf) :
    ∃ problem, processPacket others reasm buf = .error problem := by
  obtain ⟨problem, raised, refused⟩ :=
    (parseFrame_aborts trusted buf).mpr hostile
  refine ⟨problem, ?_⟩
  unfold processPacket
  rw [raised]
  exact if_neg refused

end Feeding

def bareOthers : Others Unit where
  typesw := fun _ => none
  protosw := fun _ => none
  ipx := fun _ => .ok ()
  stp := fun _ => .ok ()
  isis := fun _ => .ok ()

theorem bareOthers_raisesUnpackErrors : bareOthers.RaisesUnpackErrors where
  typesw := fun _type _parse impossible => by cases impossible
  protosw := fun _p _parse impossible => by cases impossible
  ipx := fun _buf => raisesOnly_ok ()
  stp := fun _buf => raisesOnly_ok ()
  isis := fun _buf => raisesOnly_ok ()

/-- A frame that ends behind its only MPLS label. -/
def labelFrame : Bytes := zeros 12 ++ [0x88, 0x47] ++ [0, 0, 1, 64]

theorem labelFrame_hostile : Hostile .ethernet labelFrame := by
  have plain : skipIsl labelFrame = labelFrame := by
    rw [skipIsl, dif_neg (by decide)]
  refine Hostile.here (Breaks.labels ?_)
  rw [plain]
  refine ⟨⟨by decide, by decide⟩, ethTypeMpls, by decide, [0, 0, 1, 64],
    Pass.first, ?_⟩
  exact ⟨1, by decide, by decide, fun index before => by omega,
    Or.inr (by decide)⟩

/-- The first segment of a connection to port 80. -/
def synFrame : Bytes :=
  zeros 12 ++ [0x08, 0] ++
    [0x45, 0, 0, 40, 0, 0, 0, 0, 64, 6, 0, 0, 10, 0, 0, 1, 10, 0, 0, 2] ++
    [4, 0, 0, 80, 0, 0, 0, 7, 0, 0, 0, 0, 0x50, 2, 0, 0, 0, 0, 0, 0]

example : (tcpFrame bareOthers synFrame).map (·.flags) = some thSyn := by
  rw [tcpFrame_of_ip (by decide) (by decide) (by decide) (by decide)
    (by decide) (by decide) (by decide : TCP.parse _ = .ok
      { sport := 1024, dport := 80, seq := 7, ack := 0, offFlags := 0x5002
        win := 0, sum := 0, urp := 0, opts := [], data := [] })]
  rfl

end DpktNg.Stream
