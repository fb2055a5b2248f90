/-
The topology builder of dpkt/topology.py with what it does with BGP: segments
of TCP port 179 go to a stream reassembler, and `build` splits what the
reassembler has kept into messages and collects their routes.

`areas` is never written and has no counterpart here.

`socket.inet_ntop` stands in front, for IPv6 as the C library does it.
-/

import DpktNg.Python.Struct
import DpktNg.Bgp.Message
import DpktNg.Stream.Reassembler

namespace DpktNg

/-- The eight 16-bit words of a packed address. -/
def ipv6Words (inet : Bytes) : List Nat :=
  (List.range 8).map fun i => beNat (cut inet (2 * i) (2 * i + 2))

/-- Start and length of the first longest run of zero words, when that is at
least two words long. -/
def zeroRun (words : List Nat) : Option (Nat × Nat) :=
  let runAt := fun i => ((words.drop i).takeWhile fun word => word = 0).length
  let best := (List.range 8).foldl
    (fun best i => if runAt i > best.2 then (i, runAt i) else best) (0, 0)
  if best.2 ≥ 2 then some best else none

/-- The last four bytes are written as an IPv4 address behind six zero words,
or five and `ffff`. -/
def embedsIpv4 (words : List Nat) : Bool :=
  match zeroRun words with
  | some (base, len) =>
      base = 0 ∧ (len = 6 ∨ (len = 5 ∧ words[5]? = some 0xffff))
  | none => false

/-- `socket.inet_ntop(socket.AF_INET6, inet)` on sixteen bytes. -/
def inetNtop6 (inet : Bytes) : PyStr :=
  let words := ipv6Words inet
  let word := fun i => Nat.toDigits 16 (words.getD i 0)
  let field := fun i =>
    if embedsIpv4 words ∧ i ≥ 6 then
      if i = 6 then
        ':' :: ['.'].intercalate
          ((inet.drop 12).map fun byte => decimal byte.toNat)
      else []
    else if i = 0 then word i
    else ':' :: word i
  match zeroRun words with
  | none => (List.range 8).flatMap field
  | some (base, len) =>
      (List.range base).flatMap field ++ [':'] ++
        ((List.range 8).drop (base + len)).flatMap field ++
          if base + len = 8 then [':'] else []

end DpktNg

namespace DpktNg.Topology

open DpktNg.Library DpktNg.Stream DpktNg.Bgp

inductive RoutingProtocol where
  | ospf
  | isis
  | bgp
  | rip
  | eigrp
deriving DecidableEq, Repr

inductive Origin where
  | internal
  | external
  | igp
deriving DecidableEq, Repr

structure Router where
  id : PyStr
  name : PyStr := []
  asn : Nat := 0
  area : PyStr := []
  protocols : List RoutingProtocol := []
deriving DecidableEq, Repr

structure Prefix where
  network : PyStr
  mask : Nat
  nexthop : PyStr
  metric : Nat
  protocol : RoutingProtocol
  origin : Origin
deriving DecidableEq, Repr

inductive LinkType where
  | p2p
  | transit
  | stub
deriving DecidableEq, Repr

structure Link where
  srcId : PyStr
  dstId : PyStr
  metric : Nat
  linkType : LinkType
  protocol : RoutingProtocol
deriving DecidableEq, Repr

/-- `_inet_to_str` on bytes: an IPv4 or an IPv6 address, else the `repr`. -/
def inetToStr (inet : Bytes) : PyStr :=
  match inet with
  | [a, b, c, d] => inetNtoa ⟨a, b, c, d⟩
  | _ => if inet.length = 16 then inetNtop6 inet else reprBytes inet

structure TopologyBuilder where
  routers : Dict PyStr Router := .empty
  links : List Link := []
  prefixes : List Prefix := []
  bgpStream : Option StreamReassembler := none

namespace TopologyBuilder

/-- `_get_router`, which sets what is given and not empty. -/
def getRouter (builder : TopologyBuilder) (rid : PyStr)
    (name area : PyStr := []) (asn : Nat := 0) : TopologyBuilder × Router :=
  let known := (builder.routers.get? rid).getD { id := rid }
  let router :=
    { known with
      name := if name = [] then known.name else name
      area := if area = [] then known.area else area
      asn := if asn = 0 then known.asn else asn }
  ({ builder with routers := builder.routers.set rid router }, router)

/-- `self.routers[rid].protocols.add(protocol)` for a router just got. -/
def addProtocol (result : TopologyBuilder × Router) (rid : PyStr)
    (protocol : RoutingProtocol) : TopologyBuilder :=
  let (builder, router) := result
  let marked := { router with protocols := router.protocols.insert protocol }
  { builder with routers := builder.routers.set rid marked }

def bgpPrefixes (srcIp : PyStr) (routes : List Route) : List Prefix :=
  (routes.filterMap Route.lenAndAddress).map fun (len, address) =>
    { network := inetToStr address, mask := len, nexthop := srcIp, metric := 0
      protocol := .bgp, origin := .igp }

/-- The routes of the `MP_REACH_NLRI` attributes. -/
def reachedRoutes (attributes : List Attribute) : List Route :=
  attributes.flatMap fun attr =>
    match attr.value with
    | .mpReachNlri reach => reach.announced
    | _ => []

/-- `_extract_bgp`: only UPDATE messages have an `update`. -/
def extractBgp (builder : TopologyBuilder) (connId : ConnId)
    (message : Message) : TopologyBuilder :=
  match message.body with
  | .update update =>
      let srcIp := connId.1
      let marked := addProtocol (builder.getRouter srcIp) srcIp .bgp
      { marked with
        prefixes := marked.prefixes ++ bgpPrefixes srcIp update.announced ++
          bgpPrefixes srcIp (reachedRoutes update.attributes) }
  | _ => builder

/-- How far the loop of `build` moves on behind a message. -/
def consumed (message : Message) : Nat :=
  if message.len > 0 then message.len else message.size

theorem consumed_pos (message : Message) : 0 < consumed message := by
  unfold consumed Message.size
  split <;> omega

/-- The `while` loop of `build` over the data of one direction; any exception
ends it. -/
def extractStream (connId : ConnId) (data : Bytes)
    (builder : TopologyBuilder) : TopologyBuilder :=
  if data.length ≥ 19 then
    match bgp data with
    | .error _ => builder
    | .ok message =>
        extractStream connId (data.drop (consumed message))
          (builder.extractBgp connId message)
  else builder
termination_by data.length
decreasing_by
  have := consumed_pos message
  rw [List.length_drop]
  omega

/-- The body of the loop of `build` over the connections. -/
def buildConnection (builder : TopologyBuilder)
    (entry : ConnId × Connection) : TopologyBuilder :=
  let (connId, conn) := entry
  let (c2s, dataC2s) := conn.c2s.getData false
  let (s2c, dataS2c) := conn.s2c.getData false
  let extracted := extractStream connId dataS2c
    (extractStream connId dataC2s builder)
  { extracted with
    bgpStream := builder.bgpStream.map fun reasm =>
      reasm.store connId { conn with c2s, s2c } }

def build (builder : TopologyBuilder) : TopologyBuilder :=
  match builder.bgpStream with
  | none => builder
  | some reasm => reasm.connections.entries.foldl buildConnection builder

def feedBgpTcp (builder : TopologyBuilder) (pkt : TcpPacket) :
    TopologyBuilder :=
  let reasm := builder.bgpStream.getD { maxConnections := 1000 }
  { builder with bgpStream := some (reasm.feed pkt).1 }

/-- The branch of `process_packet` for packets that hold a TCP segment. -/
def processPacket (builder : TopologyBuilder) (pkt : TcpPacket) :
    TopologyBuilder :=
  if pkt.sport = 179 ∨ pkt.dport = 179 then builder.feedBgpTcp pkt
  else builder

def machine : Machine TopologyBuilder TcpPacket Unit :=
  ⟨fun builder pkt => (builder.processPacket pkt, ())⟩

end TopologyBuilder

end DpktNg.Topology
