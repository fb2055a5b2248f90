/-
`process_packet` of dpkt/topology.py with all its branches, and what a capture
amounts to: every packet contributes its sender, with the protocol that it
speaks, and the links and the prefixes in it, whatever came before.

The packets are IPv4 packets.  An `LLC` frame is represented by its payload.
-/

import DpktNg.Eigrp.Packets
import DpktNg.Isis.Packets
import DpktNg.Topology.BgpRoutes
import DpktNg.Topology.Packets

namespace DpktNg.Topology

open DpktNg.Library DpktNg.Stream DpktNg.Eigrp DpktNg.Isis DpktNg.Rip

/-- `_extract_eigrp`: what a TLV adds; an external route is an internal one. -/
def eigrpFound (src : PyStr) (tlv : MessageTLV) : Except PyError Found :=
  let found := fun route : EIGRPInternalRouteTLV =>
    let pfx :=
      if route.prefix_ ≠ [] then inetToStr route.prefix_
      else "0.0.0.0".toList
    { prefixes :=
        [{ network := pfx, mask := route.prefixLength, nexthop := src
           metric := route.delay, protocol := .eigrp, origin := .internal }] }
  match tlv with
  | .internalRoute route => .ok (found route)
  | .externalRoute route => .ok (found route.toEIGRPInternalRouteTLV)
  | _ => .ok {}

/-- `':'.join('%02x' % b for b in id[:6])` -/
def systemId (id : Bytes) : PyStr :=
  [':'].intercalate ((id.take 6).map fun byte => hex2 byte.toNat)

/-- A neighbour that an `ISISEISReachTLV` lists. -/
def neighborFound (sysId : PyStr) (ra : Reachability) :
    Except PyError Found :=
  .ok
    { links :=
        [{ srcId := sysId, dstId := systemId ra.neighbor, metric := ra.metric
           linkType := .p2p, protocol := .isis }] }

/-- A prefix that an `ISISIPIntReachTLV` lists. -/
def reachFound (sysId : PyStr) (pfx : IpReachability) :
    Except PyError Found := do
  let net ← inetArgToStr (.bytes pfx.prefix_)
  let maskInt ← unpackBe 4 pfx.mask
  .ok
    { prefixes :=
        [{ network := net, mask := onesCount maskInt, nexthop := sysId
           metric := pfx.defaultMetric, protocol := .isis
           origin := .internal }] }

/-- `_extract_isis`: what the entries of a TLV add.  The class for external
reachability is a subclass; a TLV of these classes has its attribute unless it
was made of nothing. -/
def isisFound (sysId : PyStr) (tlv : ISISTLV) : List (Except PyError Found) :=
  match tlv.cls, tlv.body with
  | .eisReach, .reachabilities reachabilities =>
      reachabilities.map (neighborFound sysId)
  | .ipIntReach, .prefixes prefixes => prefixes.map (reachFound sysId)
  | .ipExtReach, .prefixes prefixes => prefixes.map (reachFound sysId)
  | .eisReach, _ => [.error .attributeError]
  | .ipIntReach, _ => [.error .attributeError]
  | .ipExtReach, _ => [.error .attributeError]
  | _, _ => []

inductive PacketData where
  | eigrp (eigrp : EIGRP)
  | ip (data : IpData)

/-- An IP packet; `llc` is `eth.data.data` where `eth` holds an LLC frame. -/
structure CapturedPacket where
  src : InAddr
  dst : InAddr
  data : PacketData
  llc : Option Bytes := none

/-- The extractors of the first branches take the packet. -/
def IpData.taken : IpData → Bool
  | .ospf _ => true
  | .udp sport dport _ => sport = 520 ∨ dport = 520
  | .tcp sport dport _ _ _ _ => sport = 179 ∨ dport = 179
  | .other => false

namespace TopologyBuilder

def extractEigrp (builder : TopologyBuilder) (addr : InAddr) (eigrp : EIGRP) :
    Outcome :=
  let src := inetToStr (octets addr)
  let marked := addProtocol (builder.getRouter src [] [] eigrp.asn) src .eigrp
  match eigrp.data with
  | .message body => extractEach (eigrpFound src) body.tlvs marked
  | .raw _ => (marked, .ok ())

def extractIsis (builder : TopologyBuilder) (isis : ISIS) : Outcome :=
  match isis.data with
  | .pdu (.lsp _ lsp) =>
      let sysId := systemId lsp.lspId
      extractEach id (lsp.tlvs.flatMap (isisFound sysId))
        (addProtocol (builder.getRouter sysId) sysId .isis)
  | _ => (builder, .ok ())

/-- `process_packet`: what goes wrong with IS-IS is swallowed. -/
def processCaptured (builder : TopologyBuilder) (pkt : CapturedPacket) :
    Outcome :=
  match pkt.data with
  | .eigrp eigrp => builder.extractEigrp pkt.src eigrp
  | .ip data =>
      if data.taken then
        builder.processIp { src := pkt.src, dst := pkt.dst, data }
      else
        match pkt.llc with
        | none => (builder, .ok ())
        | some payload =>
            match ISIS.parse payload with
            | .ok isis => ((builder.extractIsis isis).1, .ok ())
            | .error _ => (builder, .ok ())

/-- The builder fed with packet after packet. -/
def captureMachine :
    Machine TopologyBuilder CapturedPacket (Except PyError Unit) :=
  ⟨processCaptured⟩

end TopologyBuilder

def Found.append (first second : Found) : Found where
  links := first.links ++ second.links
  prefixes := first.prefixes ++ second.prefixes

/-- A router as a packet shows it. -/
structure Sender where
  id : PyStr
  protocol : RoutingProtocol
  area : PyStr := []
  asn : Nat := 0

structure Evidence where
  sender : Option Sender := none
  found : Found := {}

/-- What a loop over entries adds until one raises. -/
def foundBefore {α : Type} (found : α → Except PyError Found) :
    List α → Found
  | [] => {}
  | entry :: rest =>
      match found entry with
      | .ok more => more.append (foundBefore found rest)
      | .error _ => {}

def ospfEvidence (rid : PyStr) (ospf : OspfPacket) : Evidence where
  sender := some { id := rid, protocol := .ospf, area := decimal ospf.area }
  found :=
    match ospf.lsu with
    | some lsu => foundBefore (lsaFound rid) lsu.lsas
    | none => {}

def ripEvidence (src : PyStr) (data : Bytes) : Evidence :=
  match RIP.parse data with
  | .ok rip =>
      { sender := some { id := src, protocol := .rip }
        found := foundBefore ripFound rip.rtes }
  | .error _ => {}

def eigrpEvidence (src : PyStr) (eigrp : EIGRP) : Evidence where
  sender := some { id := src, protocol := .eigrp, asn := eigrp.asn }
  found :=
    match eigrp.data with
    | .message body => foundBefore (eigrpFound src) body.tlvs
    | .raw _ => {}

def isisEvidence (payload : Bytes) : Evidence :=
  match ISIS.parse payload with
  | .ok { data := .pdu (.lsp _ lsp), .. } =>
      let sysId := systemId lsp.lspId
      { sender := some { id := sysId, protocol := .isis }
        found := foundBefore id (lsp.tlvs.flatMap (isisFound sysId)) }
  | _ => {}

/-- The evidence of a packet, whatever the builder holds. -/
def CapturedPacket.evidence (pkt : CapturedPacket) : Evidence :=
  let src := inetToStr (octets pkt.src)
  match pkt.data with
  | .eigrp eigrp => eigrpEvidence src eigrp
  | .ip data =>
      if data.taken then
        match data with
        | .ospf ospf => ospfEvidence src ospf
        | .udp _ _ data => ripEvidence src data
        | _ => {}
      else (pkt.llc.map isisEvidence).getD {}

/-- The segment that goes to the reassembler. -/
def CapturedPacket.segment (pkt : CapturedPacket) : Option TcpPacket :=
  match pkt.data with
  | .ip (.tcp sport dport seq ack flags data) =>
      if sport = 179 ∨ dport = 179 then
        some
          { src := pkt.src, dst := pkt.dst, sport, dport, seq, ack, flags
            data }
      else none
  | _ => none

namespace TopologyBuilder

def mark (builder : TopologyBuilder) (sender : Sender) : TopologyBuilder :=
  addProtocol (builder.getRouter sender.id [] sender.area sender.asn) sender.id
    sender.protocol

/-- The sender is recorded, and then what was found. -/
def record (builder : TopologyBuilder) (evidence : Evidence) :
    TopologyBuilder :=
  (evidence.sender.elim builder builder.mark).add evidence.found

theorem add_nothing (builder : TopologyBuilder) : builder.add {} = builder := by
  unfold add
  dsimp only
  rw [List.append_nil, List.append_nil]

theorem record_nothing (builder : TopologyBuilder) :
    builder.record {} = builder :=
  builder.add_nothing

theorem extractEach_fst {α : Type} (found : α → Except PyError Found)
    (entries : List α) (builder : TopologyBuilder) :
    (extractEach found entries builder).1 =
      builder.add (foundBefore found entries) := by
  induction entries generalizing builder with
  | nil => exact builder.add_nothing.symm
  | cons entry rest ih =>
      unfold extractEach foundBefore
      cases found entry with
      | ok more =>
          dsimp only
          rw [ih]
          unfold add Found.append
          dsimp only
          rw [List.append_assoc, List.append_assoc]
      | error problem => exact builder.add_nothing.symm

theorem extractOspf_record (builder : TopologyBuilder) (ip : IpPacket)
    (ospf : OspfPacket) :
    (builder.extractOspf ip ospf).1 =
      builder.record (ospfEvidence (inetToStr (octets ip.src)) ospf) := by
  unfold extractOspf ospfEvidence
  cases ospf.lsu with
  | none => exact (add_nothing _).symm
  | some lsu => exact extractEach_fst _ lsu.lsas _

theorem extractEigrp_record (builder : TopologyBuilder) (addr : InAddr)
    (eigrp : EIGRP) :
    (builder.extractEigrp addr eigrp).1 =
      builder.record (eigrpEvidence (inetToStr (octets addr)) eigrp) := by
  unfold extractEigrp eigrpEvidence
  cases eigrp.data with
  | raw data => exact (add_nothing _).symm
  | message body => exact extractEach_fst _ body.tlvs _

theorem processIp_eq (builder : TopologyBuilder) {pkt : CapturedPacket}
    {data : IpData} (same : pkt.data = .ip data) (taken : data.taken = true) :
    (builder.processIp { src := pkt.src, dst := pkt.dst, data }).1 =
      pkt.segment.elim (builder.record pkt.evidence) builder.feedBgpTcp := by
  unfold CapturedPacket.segment CapturedPacket.evidence processIp
  rw [same]
  dsimp only
  rw [if_pos taken]
  cases data with
  | ospf ospf => exact extractOspf_record builder _ ospf
  | udp sport dport datagram =>
      have port : sport = 520 ∨ dport = 520 := of_decide_eq_true taken
      dsimp only
      unfold ripEvidence
      rw [if_pos port]
      cases RIP.parse datagram with
      | error problem => exact builder.record_nothing.symm
      | ok rip => exact extractEach_fst _ rip.rtes _
  | tcp sport dport seq ack flags segment =>
      have port : sport = 179 ∨ dport = 179 := of_decide_eq_true taken
      unfold processPacket
      dsimp only
      rw [if_pos port, if_pos port]
      rfl
  | other => exact builder.record_nothing.symm

theorem segment_none {pkt : CapturedPacket} {data : IpData}
    (same : pkt.data = .ip data) (left : data.taken ≠ true) :
    pkt.segment = none := by
  unfold CapturedPacket.segment
  rw [same]
  cases data with
  | tcp sport dport seq ack flags segment =>
      exact if_neg fun port => left (decide_eq_true port)
  | ospf ospf => rfl
  | udp sport dport datagram => rfl
  | other => rfl

theorem extractIsis_record (builder : TopologyBuilder) (payload : Bytes) :
    (match ISIS.parse payload with
      | .ok isis => ((builder.extractIsis isis).1, .ok ())
      | .error _ => (builder, .ok ()) : Outcome).1 =
        builder.record (isisEvidence payload) := by
  unfold isisEvidence
  cases ISIS.parse payload with
  | error problem => exact builder.record_nothing.symm
  | ok isis =>
      obtain ⟨header, data⟩ := isis
      cases data with
      | raw rest => exact builder.record_nothing.symm
      | pdu pdu =>
          cases pdu with
          | lsp level lsp => exact extractEach_fst _ _ _
          | lanHello level hello => exact builder.record_nothing.symm
          | p2pHello hello => exact builder.record_nothing.symm
          | csnp level body => exact builder.record_nothing.symm
          | psnp level body => exact builder.record_nothing.symm

/-- A packet goes to the reassembler or is recorded by its evidence, whatever
the builder holds. -/
theorem processCaptured_eq (builder : TopologyBuilder) (pkt : CapturedPacket) :
    (builder.processCaptured pkt).1 =
      pkt.segment.elim (builder.record pkt.evidence) builder.feedBgpTcp := by
  unfold processCaptured
  cases same : pkt.data with
  | eigrp eigrp =>
      unfold CapturedPacket.segment CapturedPacket.evidence
      rw [same]
      exact extractEigrp_record builder pkt.src eigrp
  | ip data =>
      dsimp only
      by_cases taken : data.taken = true
      · rw [if_pos taken]
        exact processIp_eq builder same taken
      · rw [if_neg taken, segment_none same taken]
        unfold CapturedPacket.evidence
        rw [same]
        dsimp only
        rw [if_neg taken]
        cases pkt.llc with
        | none => exact builder.record_nothing.symm
        | some payload => exact extractIsis_record builder payload

theorem evidence_segment {pkt : CapturedPacket} {segment : TcpPacket}
    (fed : pkt.segment = some segment) : pkt.evidence = {} := by
  unfold CapturedPacket.segment at fed
  unfold CapturedPacket.evidence
  split at fed
  · rename_i sport dport seq ack flags data same
    rw [same]
    by_cases port : sport = 179 ∨ dport = 179
    · exact if_pos (decide_eq_true port)
    · rw [if_neg port] at fed
      cases fed
  · cases fed

end TopologyBuilder

end DpktNg.Topology
