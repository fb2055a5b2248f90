/-
UPDATE messages as RFC 4271 lays them out: prefixes, path attributes with
contents of the shape their type asks for, and the message around them.
Nothing here depends on how a message is parsed.
-/

import DpktNg.Bgp.AsPath

namespace DpktNg.Bgp

/-- A length in bits and as many octets as these need. -/
structure Prefix where
  len : UInt8
  address : Bytes
  octets_eq : address.length = octets len.toNat

def Prefix.encode (route : Prefix) : Bytes := route.len :: route.address

def encodePrefixes (list : List Prefix) : Bytes := list.flatMap Prefix.encode

/-- A route type, a length and as many octets. -/
structure EvpnTlv where
  type : UInt8
  data : Bytes
  short : data.length < 256

def EvpnTlv.encode (route : EvpnTlv) : Bytes :=
  route.type :: UInt8.ofNat route.data.length :: route.data

/-- The routes of an address family. -/
inductive Routes where
  | l2vpn (list : List EvpnTlv)
  | plain (afi : UInt16) (notL2vpn : afi.toNat ≠ afiL2vpn) (list : List Prefix)

def Routes.afi : Routes → Nat
  | .l2vpn _ => afiL2vpn
  | .plain afi _ _ => afi.toNat

def Routes.chunks : Routes → List Bytes
  | .l2vpn list => list.map EvpnTlv.encode
  | .plain _ _ list => list.map Prefix.encode

def Routes.encode (routes : Routes) : Bytes := routes.chunks.flatten

theorem Routes.afi_lt (routes : Routes) : routes.afi < 65536 := by
  cases routes with
  | l2vpn list =>
      change afiL2vpn < 65536
      decide
  | plain afi notL2vpn list => exact afi.toNat_lt

/-- A subnetwork point: its length in half octets, and the octets. -/
structure WireSnpa where
  len : UInt8
  data : Bytes
  octets_eq : data.length = (len.toNat + 1) / 2

def WireSnpa.encode (snpa : WireSnpa) : Bytes := snpa.len :: snpa.data

/-- What MP_REACH_NLRI announces. -/
structure Reach where
  routes : Routes
  safi : UInt8
  nextHop : Bytes
  nextHopShort : nextHop.length < 256
  snpas : List WireSnpa
  fewSnpas : snpas.length < 256

def familyHeader (routes : Routes) (safi : UInt8) : Bytes :=
  beBytes 2 routes.afi ++ [safi]

def Reach.behindHop (reach : Reach) : Bytes :=
  UInt8.ofNat reach.snpas.length ::
    (reach.snpas.flatMap WireSnpa.encode ++ reach.routes.encode)

def Reach.encode (reach : Reach) : Bytes :=
  familyHeader reach.routes reach.safi ++
    UInt8.ofNat reach.nextHop.length :: (reach.nextHop ++ reach.behindHop)

/-- The attribute types that have a shape of their own. -/
def knownTypes : List Nat := [1, 2, 3, 4, 5, 6, 7, 8, 9, 10, 14, 15]

inductive Content where
  | origin (code : UInt8)
  | asPath (segments : List AsSegment)
  | nextHop (address : UInt32)
  | multiExitDisc (value : UInt32)
  | localPref (value : UInt32)
  | atomicAggregate
  | aggregator (asn : UInt16) (address : UInt32)
  | communities (list : List UInt32)
  | originatorId (value : UInt32)
  | clusterList (list : List UInt32)
  | mpReach (reach : Reach)
  | mpUnreach (safi : UInt8) (routes : Routes)
  | other (type : UInt8) (notKnown : type.toNat ∉ knownTypes) (data : Bytes)

def Content.type : Content → UInt8
  | .origin _ => 1
  | .asPath _ => 2
  | .nextHop _ => 3
  | .multiExitDisc _ => 4
  | .localPref _ => 5
  | .atomicAggregate => 6
  | .aggregator _ _ => 7
  | .communities _ => 8
  | .originatorId _ => 9
  | .clusterList _ => 10
  | .mpReach _ => 14
  | .mpUnreach _ _ => 15
  | .other type _ _ => type

def encodeWord (word : UInt32) : Bytes := beBytes 4 word.toNat

def Content.encode : Content → Bytes
  | .origin code => [code]
  | .asPath segments => encodePath segments
  | .nextHop address => encodeWord address
  | .multiExitDisc value => encodeWord value
  | .localPref value => encodeWord value
  | .atomicAggregate => []
  | .aggregator asn address => beBytes 2 asn.toNat ++ encodeWord address
  | .communities list => list.flatMap encodeWord
  | .originatorId value => encodeWord value
  | .clusterList list => list.flatMap encodeWord
  | .mpReach reach => reach.encode
  | .mpUnreach safi routes => familyHeader routes safi ++ routes.encode
  | .other _ _ data => data

/-- A path attribute, of which the length field holds the length. -/
structure WireAttribute where
  flags : UInt8
  content : Content
  fits : content.encode.length < 256 ^ lengthWidth flags.toNat

def WireAttribute.encode (attr : WireAttribute) : Bytes :=
  attr.flags :: attr.content.type ::
    (beBytes (lengthWidth attr.flags.toNat) attr.content.encode.length ++
      attr.content.encode)

def encodeAttributes (attributes : List WireAttribute) : Bytes :=
  attributes.flatMap WireAttribute.encode

/-- An UPDATE without withdrawn routes that announces IPv4 prefixes. -/
structure WireUpdate where
  marker : Bytes
  marker_length : marker.length = 16
  attributes : List WireAttribute
  announced : List Prefix
  ipv4 : ∀ route ∈ announced, route.len.toNat ≤ 32
  fits : 23 + (encodeAttributes attributes).length +
    (encodePrefixes announced).length < 65536

namespace WireUpdate

variable (message : WireUpdate)

def total : Nat :=
  23 + (encodeAttributes message.attributes).length +
    (encodePrefixes message.announced).length

def body : Bytes :=
  beBytes 2 0 ++ (beBytes 2 (encodeAttributes message.attributes).length ++
    (encodeAttributes message.attributes ++ encodePrefixes message.announced))

def header : Bytes := message.marker ++ beBytes 2 message.total ++ [2]

def encode : Bytes := message.header ++ message.body

theorem header_length : message.header.length = 19 := by
  unfold header
  rw [List.length_append, List.length_append, message.marker_length,
    beBytes_length]
  rfl

theorem body_length : message.body.length + 19 = message.total := by
  unfold body total
  rw [List.length_append, List.length_append, List.length_append,
    beBytes_length, beBytes_length]
  omega

end WireUpdate

end DpktNg.Bgp
