/-
The branches of `process_packet` of dpkt/topology.py for IP packets, with its
extractors for OSPF and RIP.
-/

import DpktNg.Ospf.Version2
import DpktNg.Rip.Message
import DpktNg.Topology.Builder

namespace DpktNg.Topology

open DpktNg.Library DpktNg.Stream DpktNg.Rip DpktNg.Ospf

/-- What `_inet_to_str` is called with. -/
inductive InetArg where
  | str (text : PyStr)
  | bytes (inet : Bytes)
  | int (value : Nat)
deriving DecidableEq, Repr

/-- `_inet_to_str`: on a number `socket.inet_ntop` raises a `TypeError`, which
is not among the exceptions that are caught. -/
def inetArgToStr : InetArg → Except PyError PyStr
  | .str text => .ok text
  | .bytes inet => .ok (inetToStr inet)
  | .int _ => .error .typeError

def octets (addr : InAddr) : Bytes := [addr.a, addr.b, addr.c, addr.d]

def dotted (value : Nat) : PyStr := inetToStr (beBytes 4 value)

/-- `bin(n).count('1')` -/
def onesCount (n : Nat) : Nat := (Nat.toDigits 2 n).count '1'

/-- What the extractor reads of an OSPF packet: the area, and the update that
it holds, if it holds one. -/
structure OspfPacket where
  area : Nat
  lsu : Option V2.OSPFv2LSU
deriving DecidableEq, Repr

/-- What an IP packet holds. -/
inductive IpData where
  | ospf (ospf : OspfPacket)
  | udp (sport dport : Nat) (data : Bytes)
  | tcp (sport dport : Nat) (seq ack : Int) (flags : Nat) (data : Bytes)
  | other
deriving DecidableEq, Repr

structure IpPacket where
  src : InAddr
  dst : InAddr
  data : IpData
deriving DecidableEq, Repr

/-- What one entry of a packet adds to the topology. -/
structure Found where
  links : List Link := []
  prefixes : List Prefix := []
deriving DecidableEq, Repr

/-- `_extract_rip`: what an entry adds. -/
def ripFound (entry : RTE) : Except PyError Found := do
  let net ← inetArgToStr (.int entry.addr)
  let nh ← inetArgToStr (.int entry.nextHop)
  .ok
    { prefixes :=
        [{ network := net, mask := entry.subnet, nexthop := nh
           metric := entry.metric, protocol := .rip, origin := .internal }] }

def linkTypeOf (type : Nat) : LinkType :=
  if type = 1 then .p2p else if type = 2 then .transit else .stub

def routerLinks (rid : PyStr) (body : V2.LSARouter) : List Link :=
  body.links.map fun link =>
    { srcId := rid, dstId := decimal link.id, metric := link.metric
      linkType := linkTypeOf link.type, protocol := .ospf }

def networkLinks (rid : PyStr) (body : V2.LSANetwork) : List Link :=
  body.routers.map fun r =>
    { srcId := decimal r, dstId := rid, metric := 0, linkType := .transit
      protocol := .ospf }

/-- `_extract_ospf`: what an LSA adds. -/
def lsaFound (rid : PyStr) (lsa : V2.Lsa) : Except PyError Found :=
  match lsa.body with
  | .router body => .ok { links := routerLinks rid body }
  | .network body => .ok { links := networkLinks rid body }
  | .asExternal body => do
      let nh ←
        if body.forwarding ≠ 0 then inetArgToStr (.int body.forwarding)
        else .ok rid
      let net ← inetArgToStr (.bytes (← packBe 4 lsa.header.id))
      let maskBits := if body.mask ≠ 0 then onesCount body.mask else 0
      .ok
        { prefixes :=
            [{ network := net, mask := maskBits, nexthop := nh
               metric := body.metric, protocol := .ospf
               origin := .external }] }
  | _ => .ok {}

namespace TopologyBuilder

/-- The builder, also where an exception left it. -/
abbrev Outcome := TopologyBuilder × Except PyError Unit

def add (builder : TopologyBuilder) (found : Found) : TopologyBuilder :=
  { builder with
    links := builder.links ++ found.links
    prefixes := builder.prefixes ++ found.prefixes }

/-- The loop of an extractor over the entries of a packet. -/
def extractEach {α : Type} (found : α → Except PyError Found) :
    List α → TopologyBuilder → Outcome
  | [], builder => (builder, .ok ())
  | entry :: rest, builder =>
      match found entry with
      | .ok more => extractEach found rest (builder.add more)
      | .error problem => (builder, .error problem)

def extractRip (builder : TopologyBuilder) (ip : IpPacket) (rip : RIP) :
    Outcome :=
  let src := inetToStr (octets ip.src)
  extractEach ripFound rip.rtes (addProtocol (builder.getRouter src) src .rip)

def extractOspf (builder : TopologyBuilder) (ip : IpPacket)
    (ospf : OspfPacket) : Outcome :=
  let rid := inetToStr (octets ip.src)
  let marked := addProtocol
    (builder.getRouter rid [] (decimal ospf.area)) rid .ospf
  match ospf.lsu with
  | some lsu => extractEach (lsaFound rid) lsu.lsas marked
  | none => (marked, .ok ())

/-- `process_packet`: what goes wrong with RIP is swallowed. -/
def processIp (builder : TopologyBuilder) (ip : IpPacket) : Outcome :=
  match ip.data with
  | .ospf ospf => builder.extractOspf ip ospf
  | .udp sport dport data =>
      if sport = 520 ∨ dport = 520 then
        match RIP.parse data with
        | .ok rip => ((builder.extractRip ip rip).1, .ok ())
        | .error _ => (builder, .ok ())
      else (builder, .ok ())
  | .tcp sport dport seq ack flags data =>
      (builder.processPacket
        { src := ip.src, dst := ip.dst, sport, dport, seq, ack, flags, data },
        .ok ())
  | .other => (builder, .ok ())

/-- The builder fed with packet after packet. -/
def packetMachine : Machine TopologyBuilder IpPacket (Except PyError Unit) :=
  ⟨processIp⟩

section

variable {α : Type} {found : α → Except PyError Found}

theorem extractEach_ok {entries : List α} {added : List Found}
    (adds : List.Forall₂ (fun entry more => found entry = .ok more) entries
      added) (builder : TopologyBuilder) :
    extractEach found entries builder = (added.foldl add builder, .ok ()) := by
  induction adds generalizing builder with
  | nil => rfl
  | cons first others ih =>
      rw [extractEach, first]
      exact ih _

theorem extractEach_refused (refuses : ∀ entry, (found entry).toOption = none)
    (entries : List α) (builder : TopologyBuilder) :
    (extractEach found entries builder).1 = builder := by
  cases entries with
  | nil => rfl
  | cons entry rest =>
      have nothing := refuses entry
      rw [extractEach]
      cases outcome : found entry with
      | ok more =>
          rw [outcome] at nothing
          cases nothing
      | error problem => rfl

end

end TopologyBuilder

end DpktNg.Topology
