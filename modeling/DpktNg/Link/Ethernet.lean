/-
Frames and what is nested in them: `Ethernet` of dpkt/ethernet.py, `LLC` of
dpkt/llc.py, and the dispatch of both and of IP packets to further classes.
A class is given here with the classes that it calls as an argument.
-/

import DpktNg.Inet.IpPacket
import DpktNg.Library.Recursion
import DpktNg.Link.Tags

namespace DpktNg.Link

open Library Inet

inductive VlanTag where
  | dot1q (tag : VLANtag8021Q)
  | isl (tag : VLANtagISL)
deriving DecidableEq, Repr

/-- The FCS is there when the frame had one; the attributes that repeat a tag
or a label are left out. -/
structure Ethernet (Data : Type) where
  dst : Bytes := []
  src : Bytes := []
  type : Nat := ethTypeIp
  nextType : Option Nat := none
  vlanTags : List VlanTag := []
  mplsLabels : List MPLSlabel := []
  padding : Bytes := []
  fcs : Option Nat := none
  trailer : Bytes := []
  data : Data

/-- `oui` and `type` exist behind a SNAP header only. -/
structure LLC (Data : Type) where
  dsap : Nat := 0xaa
  ssap : Nat := 0xaa
  ctl : Nat := 3
  oui : Option Nat := none
  type : Option Nat := none
  data : Data

/-- A packet of a class that is modelled, raw bytes, or whatever another class
makes of its buffer. -/
inductive Packet (Other : Type) where
  | raw (bytes : Bytes)
  | tcp (segment : TCP)
  | udp (datagram : UDP)
  | ip (packet : ParsedIP (Packet Other))
  | ip6 (packet : IP6 (Packet Other))
  | llc (packet : LLC (Packet Other))
  | ethernet (frame : Ethernet (Packet Other))
  | other (packet : Other)

/-- A packet of a class that calls other classes. -/
inductive Carrier (Other : Type) where
  | ethernet (frame : Ethernet (Packet Other))
  | ip (packet : ParsedIP (Packet Other))
  | ip6 (packet : IP6 (Packet Other))

def Carrier.packet {Other : Type} : Carrier Other → Packet Other
  | .ethernet frame => .ethernet frame
  | .ip packet => .ip packet
  | .ip6 packet => .ip6 packet

/-- The classes that call other ones. -/
inductive Layer where
  | ethernet
  | ip
  | ip6
deriving DecidableEq, Repr

/-- All other registered classes, and three that are called by name. -/
structure Others (Other : Type) where
  typesw : Nat → Option (Bytes → Except PyError Other)
  protosw : Nat → Option (Bytes → Except PyError Other)
  ipx : Bytes → Except PyError Other
  stp : Bytes → Except PyError Other
  isis : Bytes → Except PyError Other

/-- The class that `Ethernet._typesw` has for a type, if it is one of those. -/
def typeLayer (type : Nat) : Option Layer :=
  if type = ethTypeIp then some .ip
  else if type = ethTypeIp6 then some .ip6
  else if type = ethTypeTeb then some .ethernet
  else none

/-- The class that `IP._protosw` has for a protocol, where the protocol numbers
of `IP_PROTO_IP` and `IP_PROTO_IPIP` both stand for IP. -/
def protoLayer (p : Nat) : Option Layer :=
  if p = 0 ∨ p = 4 then some .ip
  else if p = 41 then some .ip6
  else none

section Dispatch

variable {Other : Type} (others : Others Other)
  (sub : Layer → Bytes → Except PyError (Carrier Other))

/-- A parser of another module, its result as a packet. -/
def asOther (parse : Bytes → Except PyError Other) (buf : Bytes) :
    Except PyError (Packet Other) := do
  let packet ← parse buf
  .ok (.other packet)

def asPacket (layer : Layer) (buf : Bytes) : Except PyError (Packet Other) := do
  let carrier ← sub layer buf
  .ok carrier.packet

/-- `Ethernet._typesw`.  No module is named after a tag or a label type. -/
def typesw (type : Nat) : Option (Bytes → Except PyError (Packet Other)) :=
  match typeLayer type with
  | some layer => some (asPacket sub layer)
  | none =>
      if type ∈ ethTypesQinQ ∨ type ∈ ethTypesMpls then none
      else if type = ethTypeIpx then some (asOther others.ipx)
      else (others.typesw type).map asOther

def parseTcp (buf : Bytes) : Except PyError (Packet Other) := do
  let segment ← TCP.parse buf
  .ok (.tcp segment)

def parseUdp (buf : Bytes) : Except PyError (Packet Other) := do
  let datagram ← UDP.parse buf
  .ok (.udp datagram)

/-- `IP._protosw`, which `IP6` shares. -/
def protosw (p : Nat) : Option (Bytes → Except PyError (Packet Other)) :=
  match protoLayer p with
  | some layer => some (asPacket sub layer)
  | none =>
      if p = ipProtoTcp then some parseTcp
      else if p = ipProtoUdp then some parseUdp
      else (others.protosw p).map asOther

def typeUpper : Upper (Packet Other) := ⟨typesw others sub, .raw⟩

def protoUpper : Upper (Packet Other) := ⟨protosw others sub, .raw⟩

/-- The data behind a header that is not SNAP. -/
def sapData (dsap : Nat) (buf : Bytes) : Except PyError (Packet Other) :=
  if dsap = 0x06 then asPacket sub .ip buf
  else if dsap = 0x10 ∨ dsap = 0xe0 then asOther others.ipx buf
  else if dsap = 0x42 then asOther others.stp buf
  else if dsap = 0xfe then asOther others.isis buf
  else .ok (.raw buf)

def LLC.unpack (buf : Bytes) : Except PyError (LLC (Packet Other)) := do
  let (header, data) ← takeHeader 3 buf
  let [dsap, ssap, ctl] ← unpackFields [1, 1, 1] header | .error .structError
  if dsap = ssap ∧ ssap = 0xaa then do
    let [oui, type] ← unpackFields [4, 2] (0 :: data.take 5)
      | .error .structError
    let data ← (typeUpper others sub).decode (some type) (data.drop 5)
    .ok { dsap, ssap, ctl, oui := some oui, type := some type, data }
  else do
    let data ← sapData others sub dsap data
    .ok { dsap, ssap, ctl, data }

def LLC.parse : Bytes → Except PyError (LLC (Packet Other)) :=
  packetInit "LLC" (some 3) (LLC.unpack others sub)

/-- `self._next_type or self.type` -/
def ethType (nextType : Option Nat) (type : Nat) : Nat :=
  match nextType with
  | none => type
  | some next => if next = 0 then type else next

/-- The tags or labels found replace what an earlier pass found. -/
def Ethernet.withStack {Data : Type} (self : Ethernet Data) (stack : Stack)
    (nextType : Option Nat) : Ethernet Data :=
  match stack with
  | .none => { self with nextType }
  | .vlan tags => { self with nextType, vlanTags := tags.map .dot1q }
  | .mpls labels => { self with nextType, mplsLabels := labels }

def Ethernet.unpackData (self : Ethernet (Packet Other)) (buf : Bytes) :
    Except PyError (Ethernet (Packet Other)) := do
  let (stack, nextType, buf) ← stripStack self.nextType buf
  let data ←
    (typeUpper others sub).decode (some (ethType nextType self.type)) buf
  .ok { self.withStack stack nextType with data }

/-- The destinations of ISL frames. -/
def isIslAddress (dst : Bytes) : Bool :=
  dst.take 5 = [0x01, 0x00, 0x0c, 0x00, 0x00] ∨
    dst.take 5 = [0x03, 0x00, 0x0c, 0x00, 0x00]

/-- The padding, the FCS and the trailer behind an 802.3 body of `ethLen`
bytes.  Padding is taken for such when it is all zeroes. -/
def splitTail (ethLen : Nat) (tail : Bytes) : Bytes × Option Nat × Bytes :=
  let padLen := 46 - ethLen
  let (padding, tail) :=
    if tail.length > 4 ∧ ethLen < 46 ∧ tail.take padLen = zeros padLen then
      (tail.take padLen, tail.drop padLen)
    else ([], tail)
  if tail.length ≥ 4 then
    (padding, some (beNat (tail.take 4)), tail.drop 4)
  else (padding, none, tail)

/-- `Packet.unpack`, on a buffer that is long enough. -/
def Ethernet.setHdr (self : Ethernet (Packet Other)) (buf : Bytes) :
    Ethernet (Packet Other) :=
  { self with
    dst := cut buf 0 6
    src := cut buf 6 12
    type := beNat (cut buf 12 14)
    data := .raw (buf.drop 14) }

/-- The branches of `unpack` for lengths instead of types. -/
def Ethernet.unpackLength (self : Ethernet (Packet Other)) (data : Bytes) :
    Except PyError (Ethernet (Packet Other)) :=
  if data.take 2 = [0xff, 0xff] then do
    let ipx ← asOther others.ipx (data.drop 2)
    .ok { self with type := ethTypeIpx, data := ipx }
  else if self.type = 0 then self.unpackData others sub data
  else do
    let (padding, fcs, trailer) :=
      splitTail self.type (data.drop self.type)
    let llc ← LLC.parse others sub (data.take self.type)
    .ok { self with padding, fcs, trailer, data := .llc llc }

def Ethernet.unpack (self : Ethernet (Packet Other)) (buf : Bytes) :
    Except PyError (Ethernet (Packet Other)) :=
  if _short : buf.length < 14 then .error .structError
  else
    let self := self.setHdr buf
    if self.type > 1500 then
      Ethernet.unpackData others sub { self with nextType := self.type }
        (buf.drop 14)
    else if isIslAddress self.dst then do
      let tag ← VLANtagISL.parse buf
      Ethernet.unpack { self with vlanTags := [.isl tag] } (buf.drop 26)
    else self.unpackLength others sub (buf.drop 14)
termination_by buf.length
decreasing_by
  rw [List.length_drop]
  omega

/-- Data that was left as bytes is tried a second time. -/
def Ethernet.secondPass (self : Ethernet (Packet Other)) :
    Except PyError (Ethernet (Packet Other)) :=
  match self.data with
  | .raw (byte :: rest) => self.unpackData others sub (byte :: rest)
  | _ => .ok self

def Ethernet.parse (buf : Bytes) :
    Except PyError (Ethernet (Packet Other)) := do
  let frame ← packetInit "Ethernet" (some 14)
    (Ethernet.unpack others sub { data := .raw [] }) buf
  frame.secondPass others sub

/-- A class, with the calls that it makes as an argument. -/
def parseLayer (layer : Layer) (buf : Bytes) :
    Except PyError (Carrier Other) :=
  match layer with
  | .ethernet => do
      let frame ← Ethernet.parse others sub buf
      .ok (.ethernet frame)
  | .ip => do
      let packet ← ParsedIP.parse (protoUpper others sub) buf
      .ok (.ip packet)
  | .ip6 => do
      let packet ← IP6.parse (protoUpper others sub) buf
      .ok (.ip6 packet)

end Dispatch

/-- `Ethernet(buf)`, `IP(buf)` or `IP6(buf)`, with all that is nested in it. -/
def Layer.parse {Other : Type} (others : Others Other) (layer : Layer)
    (buf : Bytes) : Except PyError (Carrier Other) :=
  tie (fun call : Layer × Bytes => call.2.length) (.error .indexError)
    (fun parse call =>
      parseLayer others (fun layer buf => parse (layer, buf)) call.1 call.2)
    (layer, buf)

def parseFrame {Other : Type} (others : Others Other) :
    Bytes → Except PyError (Ethernet (Packet Other)) :=
  Ethernet.parse others (Layer.parse others)

end DpktNg.Link
