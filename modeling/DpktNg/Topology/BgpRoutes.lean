/-
From TCP segments to prefixes.

As in the file carver, the reassembler runs in the default mode and has read
every contiguous byte by the time `build` looks at the connections, so no BGP
message is ever parsed.
-/

import DpktNg.Stream.ConnectionTable
import DpktNg.Topology.Builder

namespace DpktNg.Topology

open DpktNg.Library DpktNg.Stream DpktNg.Bgp

/-- The routes that `BGP(message)` announces in its NLRI field. -/
def announcedBy (message : Bytes) : List (Nat × Bytes) :=
  match bgp message with
  | .ok { body := .update update, .. } =>
      update.announced.filterMap Route.lenAndAddress
  | _ => []

/-- One prefix for each announced route, in order. -/
def OneEntryPerRoute (prefixes : List Prefix) (messages : List Bytes) :
    Prop :=
  List.Forall₂
    (fun entry route =>
      entry.network = inetToStr route.2 ∧ entry.mask = route.1)
    prefixes (messages.flatMap announcedBy)

theorem oneEntryPerRoute_nil (messages : List Bytes) :
    OneEntryPerRoute [] messages ↔
      ∀ message ∈ messages, announcedBy message = [] := by
  unfold OneEntryPerRoute
  rw [List.forall₂_nil_left_iff, List.flatMap_eq_nil_iff]

namespace TopologyBuilder

theorem extractStream_nil (connId : ConnId) (builder : TopologyBuilder) :
    extractStream connId [] builder = builder := by
  rw [extractStream, if_neg (by decide)]

theorem buildConnection_nothing (builder : TopologyBuilder)
    {connId : ConnId} {conn : Connection} (isRead : conn.IsRead) :
    (buildConnection builder (connId, conn)).prefixes = builder.prefixes := by
  have c2s : conn.c2s.getData false = (conn.c2s, []) :=
    getData_of_noContiguous (isRead .c2s)
  have s2c : conn.s2c.getData false = (conn.s2c, []) :=
    getData_of_noContiguous (isRead .s2c)
  unfold buildConnection
  dsimp only
  rw [c2s, s2c]
  dsimp only
  rw [extractStream_nil, extractStream_nil]

theorem foldl_buildConnection (entries : List (ConnId × Connection))
    (builder : TopologyBuilder)
    (isRead : ∀ entry ∈ entries, entry.2.IsRead) :
    (entries.foldl buildConnection builder).prefixes = builder.prefixes := by
  induction entries generalizing builder with
  | nil => rfl
  | cons entry rest ih =>
      rw [List.foldl_cons, ih _ fun other member =>
        isRead other (List.mem_cons_of_mem entry member)]
      exact buildConnection_nothing builder (isRead entry List.mem_cons_self)

/-- A reassembler in the default mode has read whatever is contiguous. -/
structure HandedOut (stream : Option StreamReassembler) : Prop where
  separate : ∀ reasm, stream = some reasm → reasm.outputMode = .separate
  noFill : ∀ reasm, stream = some reasm → reasm.fillGaps = false
  isRead : ∀ reasm, stream = some reasm →
    StreamReassembler.AllTracked Connection.IsRead reasm

theorem handedOut_none : HandedOut none where
  separate := fun reasm impossible => by cases impossible
  noFill := fun reasm impossible => by cases impossible
  isRead := fun reasm impossible => by cases impossible

theorem HandedOut.feedBgpTcp {builder : TopologyBuilder}
    (handedOut : HandedOut builder.bgpStream) (pkt : TcpPacket) :
    HandedOut (builder.feedBgpTcp pkt).bgpStream := by
  -- the reassembler in use, a new one for the first packet
  have inUse : ∀ reasm, reasm = builder.bgpStream.getD
      { maxConnections := 1000 } → reasm.outputMode = .separate ∧
        reasm.fillGaps = false ∧
          StreamReassembler.AllTracked Connection.IsRead reasm := by
    intro reasm same
    cases stream : builder.bgpStream with
    | none =>
        rw [stream] at same
        rw [same]
        exact ⟨rfl, rfl, fun _entry impossible => by cases impossible⟩
    | some current =>
        rw [stream] at same
        rw [same]
        exact ⟨handedOut.separate current stream,
          handedOut.noFill current stream, handedOut.isRead current stream⟩
  obtain ⟨separate, noFill, isRead⟩ := inUse _ rfl
  have config := (builder.bgpStream.getD
    { maxConnections := 1000 }).feed_configuration pkt
  simp only [StreamReassembler.configuration, Prod.mk.injEq] at config
  refine { separate := ?_, noFill := ?_, isRead := ?_ }
  · intro reasm same
    cases same
    rw [config.2.2.1]
    exact separate
  · intro reasm same
    cases same
    rw [config.2.2.2]
    exact noFill
  · intro reasm same
    cases same
    apply isRead.feed Connection.isRead_fresh
    intro conn _read
    rw [separate, noFill]
    exact conn.handle_isRead _ pkt

/-- What holds between two packets. -/
structure NothingKept (builder : TopologyBuilder) : Prop where
  prefixes : builder.prefixes = []
  handedOut : HandedOut builder.bgpStream

theorem run_nothingKept (packets : List TcpPacket) :
    NothingKept (machine.run {} packets) := by
  apply machine.invariant (fun _pkt => True) NothingKept _ {}
    ⟨rfl, handedOut_none⟩ packets (fun _pkt _member => trivial)
  intro builder pkt _allowed kept
  change NothingKept (builder.processPacket pkt)
  unfold processPacket
  split
  · exact ⟨kept.prefixes, kept.handedOut.feedBgpTcp pkt⟩
  · exact kept

theorem build_run_prefixes (packets : List TcpPacket) :
    (machine.run {} packets).build.prefixes = [] := by
  have kept := run_nothingKept packets
  unfold build
  split
  · exact kept.prefixes
  · rename_i reasm stream
    rw [foldl_buildConnection _ _ (kept.handedOut.isRead reasm stream)]
    exact kept.prefixes

/-- Whatever segments are processed, `build` has one prefix for each announced
route exactly when no message announces any. -/
theorem build_keeps_routes_iff (packets : List TcpPacket)
    (messages : List Bytes) :
    OneEntryPerRoute (machine.run {} packets).build.prefixes messages ↔
      ∀ message ∈ messages, announcedBy message = [] := by
  rw [build_run_prefixes]
  exact oneEntryPerRoute_nil messages

end TopologyBuilder

/-- A message that parses as an UPDATE of its whole length. -/
def IsUpdate (message : Bytes) : Prop :=
  ∃ parsed, bgp message = .ok parsed ∧ parsed.type = 2 ∧
    parsed.len = message.length

instance (message : Bytes) : Decidable (IsUpdate message) :=
  match result : bgp message with
  | .ok parsed =>
      if holds : parsed.type = 2 ∧ parsed.len = message.length then
        isTrue ⟨parsed, result, holds.1, holds.2⟩
      else
        isFalse fun ⟨other, same, type, len⟩ => by
          rw [result] at same
          cases same
          exact holds ⟨type, len⟩
  | .error _ => isFalse fun ⟨_, same, _, _⟩ => by
      rw [result] at same
      cases same

/-- The pieces of a stream as segments that follow each other. -/
def segmentsFrom (opening : TcpPacket) : Int → List Bytes → List TcpPacket
  | _, [] => []
  | seq, piece :: rest =>
      { opening with seq, flags := thAck, data := piece } ::
        segmentsFrom opening (seq + piece.length) rest

/-- A SYN to or from port 179, then the stream in any segmentation. -/
def CarriesStream (stream : Bytes) (packets : List TcpPacket) : Prop :=
  ∃ (opening : TcpPacket) (pieces : List Bytes),
    (opening.sport = 179 ∨ opening.dport = 179) ∧ opening.flags = thSyn ∧
      opening.data = [] ∧ pieces.flatten = stream ∧
        packets = opening :: segmentsFrom opening (opening.seq + 1) pieces

def oneRoute : Bytes :=
  List.replicate 16 0xff ++ [0, 25, 2, 0, 0, 0, 0, 8, 10]

/-- One message in one segment, and no prefix. -/
theorem route_not_kept :
    ¬∀ (messages : List Bytes) (packets : List TcpPacket),
      (∀ message ∈ messages, IsUpdate message) →
      CarriesStream messages.flatten packets →
      OneEntryPerRoute
        (TopologyBuilder.machine.run {} packets).build.prefixes messages := by
  intro claimed
  let opening : TcpPacket :=
    { src := ⟨10, 0, 0, 1⟩, dst := ⟨10, 0, 0, 2⟩, sport := 1000, dport := 179
      seq := 100, ack := 0, flags := thSyn, data := [] }
  have wellFormed : ∀ message ∈ [oneRoute], IsUpdate message := by
    intro message member
    rw [List.mem_singleton.mp member]
    decide +kernel
  have carried : CarriesStream [oneRoute].flatten
      (opening :: segmentsFrom opening (opening.seq + 1) [oneRoute]) :=
    ⟨opening, [oneRoute], Or.inr rfl, rfl, rfl, rfl, rfl⟩
  have kept := claimed [oneRoute] _ wellFormed carried
  rw [TopologyBuilder.build_run_prefixes, oneEntryPerRoute_nil] at kept
  have nothing := kept oneRoute List.mem_cons_self
  revert nothing
  decide +kernel

end DpktNg.Topology
