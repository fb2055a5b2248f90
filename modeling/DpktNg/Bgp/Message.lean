/-
Parsing of Border Gateway Protocol messages, dpkt/bgp.py.

Every class is a structure of the fields that its `unpack` sets, a parser under
the class's name and the size that its `__len__` computes.  The `optional`,
`transitive` and `partial` bits of an attribute are read by nothing here.
The `__bytes__` of every class stands at the end.
-/

import DpktNg.Python.Struct
import DpktNg.Python.Loops

namespace DpktNg.Bgp

/-! ### Routes -/

structure EvpnRoute where
  type : Nat
  len : Nat
  routeData : Bytes
  rd : Bytes
  esi : Option Bytes
  ethId : Option Bytes
  macAddressLength : Option Nat
  macAddress : Option Bytes
  ipAddressLength : Option Nat
  ipAddress : Option Bytes
  mplsLabelStack : Option Bytes
deriving DecidableEq, Repr

inductive Route where
  | ipv4 (len : Nat) (address : Bytes)
  | extendedIpv4 (pathId len : Nat) (address : Bytes)
  | ipv6 (len : Nat) (address : Bytes)
  | generic (len : Nat) (address : Bytes)
  | evpn (route : EvpnRoute)
deriving DecidableEq, Repr

/-- The `len` and `prefix` of a route of a class that has both. -/
def Route.lenAndAddress : Route → Option (Nat × Bytes)
  | .ipv4 len address => some (len, address)
  | .extendedIpv4 _ len address => some (len, address)
  | .ipv6 len address => some (len, address)
  | .generic len address => some (len, address)
  | .evpn _ => none

/-- `(len + 7) // 8` -/
def octets (len : Nat) : Nat := (len + 7) / 8

def Route.size : Route → Nat
  | .ipv4 len _ => 1 + octets len
  | .extendedIpv4 _ len _ => 5 + octets len
  | .ipv6 len _ => 1 + octets len
  | .generic _ address => 1 + address.length
  | .evpn route => 2 + route.len

theorem Route.size_pos (route : Route) : 0 < route.size := by
  cases route <;> simp only [Route.size] <;> omega

/-- The address as announced, filled up with zeros to its full width. -/
def paddedAddress (width len : Nat) (data : Bytes) : Bytes :=
  let tmp := data.take (octets len)
  tmp ++ zeros (width - tmp.length)

def routeGeneric : Bytes → Except PyError Route :=
  packetInit "RouteGeneric" (some 1) fun buf => do
    let (hdr, data) ← takeHeader 1 buf
    let len := beNat hdr
    .ok (.generic len (data.take (octets len)))

def routeIPV4 : Bytes → Except PyError Route :=
  packetInit "RouteIPV4" (some 1) fun buf => do
    let (hdr, data) ← takeHeader 1 buf
    let len := beNat hdr
    .ok (.ipv4 len (paddedAddress 4 len data))

def extendedRouteIPV4 : Bytes → Except PyError Route :=
  packetInit "ExtendedRouteIPV4" (some 5) fun buf => do
    let (hdr, data) ← takeHeader 5 buf
    let len := beNat (cut hdr 4 5)
    .ok (.extendedIpv4 (beNat (cut hdr 0 4)) len (paddedAddress 4 len data))

def routeIPV6 : Bytes → Except PyError Route :=
  packetInit "RouteIPV6" (some 1) fun buf => do
    let (hdr, data) ← takeHeader 1 buf
    let len := beNat hdr
    .ok (.ipv6 len (paddedAddress 16 len data))

def firstByte : Bytes → Except PyError Nat
  | [] => .error .indexError
  | byte :: _ => .ok byte.toNat

/-- A length byte, the field it stands for and what is behind.  Only the given
bit lengths, with their byte counts, have a field. -/
def lengthAndField (widths : List (Nat × Nat)) (buf : Bytes) :
    Except PyError (Nat × Option Bytes × Bytes) := do
  let bits ← firstByte buf
  match widths.lookup bits with
  | some width => .ok (bits, some (cut buf 1 (1 + width)), buf.drop (1 + width))
  | none => .ok (bits, none, buf.drop 1)

def routeEVPN : Bytes → Except PyError Route :=
  packetInit "RouteEVPN" (some 2) fun buf => do
    let (hdr, data) ← takeHeader 2 buf
    let type := beNat (cut hdr 0 1)
    let len := beNat (cut hdr 1 2)
    let routeData := data.take len
    let buf := routeData.drop 8
    let (esi, buf) :=
      if type ≠ 3 then (some (buf.take 10), buf.drop 10) else (none, buf)
    let (ethId, buf) :=
      if type ≠ 4 then (some (buf.take 4), buf.drop 4) else (none, buf)
    let (macAddressLength, macAddress, buf) ←
      if type = 2 then do
        let (bits, address, buf) ← lengthAndField [(48, 6)] buf
        pure (some bits, address, buf)
      else pure (none, none, buf)
    let (ipAddressLength, ipAddress, buf) ←
      if type ≠ 1 then do
        let (bits, address, buf) ← lengthAndField [(128, 16), (32, 4)] buf
        pure (some bits, address, buf)
      else pure (none, none, buf)
    let mplsLabelStack :=
      if type = 1 ∨ type = 2 then
        let behind := buf.drop 3
        some (buf.take 3 ++
          if len > behind.length then behind.take 3 else [])
      else none
    .ok (.evpn
      { type, len, routeData, rd := routeData.take 8, esi, ethId
        macAddressLength, macAddress, ipAddressLength, ipAddress
        mplsLabelStack })

def afiIpv4 : Nat := 1

def afiIpv6 : Nat := 2

def afiL2vpn : Nat := 25

/-- The route class of an address family. -/
def routeOf (afi : Nat) : Bytes → Except PyError Route :=
  if afi = afiIpv4 then routeIPV4
  else if afi = afiIpv6 then routeIPV6
  else if afi = afiL2vpn then routeEVPN
  else routeGeneric

def routesOf (afi : Nat) : Bytes → Except PyError (List Route) :=
  parseAll (routeOf afi) Route.size Route.size_pos

def routesSize (routes : List Route) : Nat := (routes.map Route.size).sum

/-! ### Path attributes -/

structure AsPathSegment where
  type : Nat
  len : Nat
  path : List Nat
  wide : Bool
deriving DecidableEq, Repr

def AsPathSegment.size (segment : AsPathSegment) : Nat :=
  2 + (if segment.wide then 4 else 2) * segment.path.length

theorem AsPathSegment.size_pos (segment : AsPathSegment) :
    0 < segment.size := by
  unfold AsPathSegment.size
  omega

/-- The `for` loop of `ASPathSegment`. -/
def asNumbers : Nat → Bytes → Except PyError (List Nat)
  | 0, _ => .ok []
  | count + 1, data => do
      let number ← unpackBe 2 (data.take 2)
      let numbers ← asNumbers count (data.drop 2)
      .ok (number :: numbers)

/-- The `for` loop of `ASPathSegment4`, which passes over numbers that are cut
off. -/
def wideAsNumbers : Nat → Bytes → List Nat
  | 0, _ => []
  | count + 1, data =>
      if data.length ≥ 4 then
        beNat (data.take 4) :: wideAsNumbers count (data.drop 4)
      else wideAsNumbers count data

def asPathSegment : Bytes → Except PyError AsPathSegment :=
  packetInit "ASPathSegment" (some 2) fun buf => do
    let (hdr, data) ← takeHeader 2 buf
    let len := beNat (cut hdr 1 2)
    let path ← asNumbers len data
    .ok { type := beNat (cut hdr 0 1), len, path, wide := false }

def asPathSegment4 : Bytes → Except PyError AsPathSegment :=
  packetInit "ASPathSegment4" (some 2) fun buf => do
    let (hdr, data) ← takeHeader 2 buf
    let len := beNat (cut hdr 1 2)
    .ok { type := beNat (cut hdr 0 1), len, path := wideAsNumbers len data
          wide := true }

inductive Community where
  | community (asn value : Nat)
  | reserved (value : Nat)
deriving DecidableEq, Repr

def Community.size (_community : Community) : Nat := 4

/-- The body of the loop of `Communities`: four bytes, numbered as reserved at
either end of the range. -/
def community (data : Bytes) : Except PyError Community := do
  let value ← unpackBe 4 (data.take 4)
  if value ≤ 0x0000ffff ∨ 0xffff0000 ≤ value then .ok (.reserved value)
  else .ok (.community (beNat (cut data 0 2)) (beNat (cut data 2 4)))

def clusterId (data : Bytes) : Except PyError Nat := unpackBe 4 (data.take 4)

structure Snpa where
  len : Nat
  data : Bytes
deriving DecidableEq, Repr

def Snpa.size (snpa : Snpa) : Nat := 1 + snpa.data.length

def snpa : Bytes → Except PyError Snpa :=
  packetInit "SNPA" (some 1) fun buf => do
    let (hdr, data) ← takeHeader 1 buf
    let len := beNat hdr
    .ok { len, data := data.take ((len + 1) / 2) }

def snpas : Nat → Bytes → Except PyError (List Snpa × Bytes)
  | 0, data => .ok ([], data)
  | count + 1, data => do
      let first ← snpa data
      let (rest, behind) ← snpas count (data.drop first.size)
      .ok (first :: rest, behind)

structure MPReachNLRI where
  afi : Nat
  safi : Nat
  nextHop : Bytes
  nextHops : List Bytes
  snpas : List Snpa
  announced : List Route
deriving DecidableEq, Repr

def MPReachNLRI.size (reach : MPReachNLRI) : Nat :=
  3 + 1 + (reach.nextHops.map List.length).sum + 1 +
    (reach.snpas.map Snpa.size).sum + routesSize reach.announced

/-- The loop over the next hops, which takes `hop_len` bytes as often as
`nlen` has them, counting a part as a whole. -/
def nextHops (hopLen : Nat) : Nat → Bytes → List Bytes × Bytes
  | 0, data => ([], data)
  | count + 1, data =>
      let (rest, behind) := nextHops hopLen count (data.drop hopLen)
      (data.take hopLen :: rest, behind)

def mpReachNLRI : Bytes → Except PyError MPReachNLRI :=
  packetInit "MPReachNLRI" (some 3) fun buf => do
    let (hdr, data) ← takeHeader 3 buf
    let afi := beNat (cut hdr 0 2)
    let hopLen := if afi = afiIpv6 then 16 else 4
    let nlen ← unpackBe 1 (data.take 1)
    let data := data.drop 1
    let (hops, behindHops) :=
      nextHops hopLen ((nlen + hopLen - 1) / hopLen) data
    let numSnpas ← unpackBe 1 (behindHops.take 1)
    let (snpas, routeData) ← snpas numSnpas (behindHops.drop 1)
    let announced ← routesOf afi routeData
    .ok { afi, safi := beNat (cut hdr 2 3), nextHop := data.take nlen
          nextHops := hops, snpas, announced }

structure MPUnreachNLRI where
  afi : Nat
  safi : Nat
  withdrawn : List Route
deriving DecidableEq, Repr

def mpUnreachNLRI : Bytes → Except PyError MPUnreachNLRI :=
  packetInit "MPUnreachNLRI" (some 3) fun buf => do
    let (hdr, data) ← takeHeader 3 buf
    let afi := beNat (cut hdr 0 2)
    let withdrawn ← routesOf afi data
    .ok { afi, safi := beNat (cut hdr 2 3), withdrawn }

/-- The `data` of an attribute.  The classes with a header alone keep what
follows the header. -/
inductive AttributeValue where
  | origin (type : Nat) (rest : Bytes)
  | asPath (segments : List AsPathSegment)
  | nextHop (ip : Nat) (rest : Bytes)
  | multiExitDisc (value : Nat) (rest : Bytes)
  | localPref (value : Nat) (rest : Bytes)
  | atomicAggregate
  | aggregator (asn ip : Nat) (rest : Bytes)
  | communities (list : List Community)
  | originatorId (value : Nat) (rest : Bytes)
  | clusterList (list : List Nat)
  | mpReachNlri (reach : MPReachNLRI)
  | mpUnreachNlri (unreach : MPUnreachNLRI)
  | other (data : Bytes)
deriving DecidableEq, Repr

def AttributeValue.size : AttributeValue → Nat
  | .origin _ rest => 1 + rest.length
  | .asPath segments => (segments.map AsPathSegment.size).sum
  | .nextHop _ rest => 4 + rest.length
  | .multiExitDisc _ rest => 4 + rest.length
  | .localPref _ rest => 4 + rest.length
  | .atomicAggregate => 0
  | .aggregator _ _ rest => 6 + rest.length
  | .communities list => (list.map Community.size).sum
  | .originatorId _ rest => 4 + rest.length
  | .clusterList list => 4 * list.length
  | .mpReachNlri reach => reach.size
  | .mpUnreachNlri unreach => 3 + routesSize unreach.withdrawn
  | .other data => data.length

def headerOnly (className : String) (hdrLen : Nat)
    (build : Bytes → Bytes → AttributeValue) :
    Bytes → Except PyError AttributeValue :=
  packetInit className (some hdrLen) fun buf => do
    let (hdr, rest) ← takeHeader hdrLen buf
    .ok (build hdr rest)

def origin : Bytes → Except PyError AttributeValue :=
  headerOnly "Origin" 1 fun hdr rest => .origin (beNat hdr) rest

def nextHop : Bytes → Except PyError AttributeValue :=
  headerOnly "NextHop" 4 fun hdr rest => .nextHop (beNat hdr) rest

def multiExitDisc : Bytes → Except PyError AttributeValue :=
  headerOnly "MultiExitDisc" 4 fun hdr rest => .multiExitDisc (beNat hdr) rest

def localPref : Bytes → Except PyError AttributeValue :=
  headerOnly "LocalPref" 4 fun hdr rest => .localPref (beNat hdr) rest

def aggregator : Bytes → Except PyError AttributeValue :=
  headerOnly "Aggregator" 6 fun hdr rest =>
    .aggregator (beNat (cut hdr 0 2)) (beNat (cut hdr 2 6)) rest

def originatorId : Bytes → Except PyError AttributeValue :=
  headerOnly "OriginatorID" 4 fun hdr rest => .originatorId (beNat hdr) rest

def asPath : Bytes → Except PyError AttributeValue :=
  packetInit "ASPath" none fun buf => do
    let as4 := buf.length = 6
    let segments ← parseAll (if as4 then asPathSegment4 else asPathSegment)
      AsPathSegment.size AsPathSegment.size_pos buf
    .ok (.asPath segments)

def communities : Bytes → Except PyError AttributeValue :=
  packetInit "Communities" none fun buf => do
    let list ← parseAll community Community.size
      (fun _community => Nat.succ_pos 3) buf
    .ok (.communities list)

def clusterList : Bytes → Except PyError AttributeValue :=
  packetInit "ClusterList" none fun buf => do
    let list ← parseAll clusterId (fun _id => 4)
      (fun _id => Nat.succ_pos 3) buf
    .ok (.clusterList list)

def attributeValue (type : Nat) (data : Bytes) :
    Except PyError AttributeValue :=
  match type with
  | 1 => origin data
  | 2 => asPath data
  | 3 => nextHop data
  | 4 => multiExitDisc data
  | 5 => localPref data
  | 6 => .ok .atomicAggregate
  | 7 => aggregator data
  | 8 => communities data
  | 9 => originatorId data
  | 10 => clusterList data
  | 14 => return .mpReachNlri (← mpReachNLRI data)
  | 15 => return .mpUnreachNlri (← mpUnreachNLRI data)
  | _ => .ok (.other data)

structure Attribute where
  flags : Nat
  type : Nat
  len : Nat
  value : AttributeValue
deriving DecidableEq, Repr

def extendedLength (flags : Nat) : Bool := (flags >>> 4) &&& 1 ≠ 0

def lengthWidth (flags : Nat) : Nat := if extendedLength flags then 2 else 1

def Attribute.size (attr : Attribute) : Nat :=
  2 + lengthWidth attr.flags + attr.value.size

theorem Attribute.size_pos (attr : Attribute) : 0 < attr.size := by
  unfold Attribute.size
  omega

def pathAttribute : Bytes → Except PyError Attribute :=
  packetInit "Attribute" (some 2) fun buf => do
    let (hdr, data) ← takeHeader 2 buf
    let flags := beNat (cut hdr 0 1)
    let type := beNat (cut hdr 1 2)
    let width := lengthWidth flags
    let len ← unpackBe width (data.take width)
    let value ← attributeValue type (cut data width (width + len))
    .ok { flags, type, len, value }

/-! ### Messages -/

structure Update where
  withdrawn : List Route
  attributes : List Attribute
  announced : List Route
deriving DecidableEq, Repr

def Update.size (update : Update) : Nat :=
  2 + routesSize update.withdrawn +
    2 + (update.attributes.map Attribute.size).sum +
    routesSize update.announced

/-- One announced route: with a path identifier when nine divides the bytes
that are left. -/
def announcedRoute (data : Bytes) : Except PyError Route :=
  if data.length % 9 = 0 then extendedRouteIPV4 data else routeIPV4 data

def update : Bytes → Except PyError Update :=
  packetInit "Update" none fun buf => do
    let wlen ← unpackBe 2 (buf.take 2)
    let (withdrawn, data) ←
      parseCounted routeIPV4 Route.size Route.size_pos wlen (buf.drop 2)
    let plen ← unpackBe 2 (data.take 2)
    let (attributes, data) ←
      parseCounted pathAttribute Attribute.size Attribute.size_pos plen
        (data.drop 2)
    let announced ← parseAll announcedRoute Route.size Route.size_pos data
    .ok { withdrawn, attributes, announced }

inductive ParameterValue where
  | authentication (code : Nat) (data : Bytes)
  | capability (code len : Nat) (data : Bytes)
  | other (data : Bytes)
deriving DecidableEq, Repr

structure Parameter where
  type : Nat
  len : Nat
  value : ParameterValue
deriving DecidableEq, Repr

def ParameterValue.size : ParameterValue → Nat
  | .authentication _ data => 1 + data.length
  | .capability _ _ data => 2 + data.length
  | .other data => data.length

def Parameter.size (param : Parameter) : Nat := 2 + param.value.size

theorem Parameter.size_pos (param : Parameter) : 0 < param.size := by
  unfold Parameter.size
  omega

def authentication : Bytes → Except PyError ParameterValue :=
  packetInit "Authentication" (some 1) fun buf => do
    let (hdr, data) ← takeHeader 1 buf
    .ok (.authentication (beNat hdr) data)

def capability : Bytes → Except PyError ParameterValue :=
  packetInit "Capability" (some 2) fun buf => do
    let (hdr, data) ← takeHeader 2 buf
    let len := beNat (cut hdr 1 2)
    .ok (.capability (beNat (cut hdr 0 1)) len (data.take len))

def parameter : Bytes → Except PyError Parameter :=
  packetInit "Parameter" (some 2) fun buf => do
    let (hdr, data) ← takeHeader 2 buf
    let type := beNat (cut hdr 0 1)
    let len := beNat (cut hdr 1 2)
    let data := data.take len
    let value ←
      match type with
      | 1 => authentication data
      | 2 => capability data
      | _ => pure (.other data)
    .ok { type, len, value }

inductive Body where
  | open (v asn holdtime identifier paramLen : Nat)
      (parameters : List Parameter)
  | update (message : Update)
  | notification (code subcode : Nat) (error : Bytes)
  | keepalive
  | routeRefresh (afi rsvd safi : Nat) (rest : Bytes)
  | other (data : Bytes)
deriving DecidableEq, Repr

def Body.size : Body → Nat
  | .open _ _ _ _ _ parameters => 10 + (parameters.map Parameter.size).sum
  | .update message => message.size
  | .notification _ _ error => 2 + error.length
  | .keepalive => 0
  | .routeRefresh _ _ _ rest => 4 + rest.length
  | .other data => data.length

def openMessage : Bytes → Except PyError Body :=
  packetInit "Open" (some 10) fun buf => do
    let (hdr, data) ← takeHeader 10 buf
    let paramLen := beNat (cut hdr 9 10)
    let (parameters, _) ←
      parseCounted parameter Parameter.size Parameter.size_pos paramLen data
    .ok (.open (beNat (cut hdr 0 1)) (beNat (cut hdr 1 3))
      (beNat (cut hdr 3 5)) (beNat (cut hdr 5 9)) paramLen parameters)

def notification : Bytes → Except PyError Body :=
  packetInit "Notification" (some 2) fun buf => do
    let (hdr, error) ← takeHeader 2 buf
    .ok (.notification (beNat (cut hdr 0 1)) (beNat (cut hdr 1 2)) error)

def routeRefresh : Bytes → Except PyError Body :=
  packetInit "RouteRefresh" (some 4) fun buf => do
    let (hdr, rest) ← takeHeader 4 buf
    .ok (.routeRefresh (beNat (cut hdr 0 2)) (beNat (cut hdr 2 3))
      (beNat (cut hdr 3 4)) rest)

def body (type : Nat) (data : Bytes) : Except PyError Body :=
  match type with
  | 1 => openMessage data
  | 2 => return .update (← update data)
  | 3 => notification data
  | 4 => .ok .keepalive
  | 5 => routeRefresh data
  | _ => .ok (.other data)

structure Message where
  marker : Bytes
  len : Nat
  type : Nat
  body : Body
deriving DecidableEq, Repr

def Message.size (message : Message) : Nat := 19 + message.body.size

/-- `BGP(buf)`.  The body is cut to the length the header gives, which counts
from the end when it is below the header's own. -/
def bgp : Bytes → Except PyError Message :=
  packetInit "BGP" (some 19) fun buf => do
    let (hdr, data) ← takeHeader 19 buf
    let len := beNat (cut hdr 16 18)
    let type := beNat (cut hdr 18 19)
    let body ← body type (cutTo data ((len : Int) - 19))
    .ok { marker := hdr.take 16, len, type, body }

/-! ### Writing -/

def Route.bytes : Route → Except PyError Bytes
  | .ipv4 len address => do
      .ok ((← packHdr [(1, len)]) ++ address.take (octets len))
  | .extendedIpv4 pathId len address => do
      .ok ((← packHdr [(4, pathId), (1, len)]) ++ address.take (octets len))
  | .ipv6 len address => do
      .ok ((← packHdr [(1, len)]) ++ address.take (octets len))
  | .generic len address => do .ok ((← packHdr [(1, len)]) ++ address)
  | .evpn route => do
      .ok ((← packHdr [(1, route.type), (1, route.len)]) ++ route.routeData)

def AsPathSegment.bytes (segment : AsPathSegment) : Except PyError Bytes := do
  let asStr ← joinBytes (packBe (if segment.wide then 4 else 2)) segment.path
  .ok ((← packHdr [(1, segment.type), (1, segment.len)]) ++ asStr)

def Community.bytes : Community → Except PyError Bytes
  | .community asn value => packHdr [(2, asn), (2, value)]
  | .reserved value => packHdr [(4, value)]

def Snpa.bytes (snpa : Snpa) : Except PyError Bytes := do
  .ok ((← packHdr [(1, snpa.len)]) ++ snpa.data)

def MPReachNLRI.bytes (reach : MPReachNLRI) : Except PyError Bytes := do
  let hdr ← packHdr [(2, reach.afi), (1, reach.safi)]
  let nlen ← packBe 1 (reach.nextHops.map List.length).sum
  let numSnpas ← packBe 1 reach.snpas.length
  let snpas ← joinBytes Snpa.bytes reach.snpas
  let announced ← joinBytes Route.bytes reach.announced
  .ok (hdr ++ nlen ++ reach.nextHops.flatten ++ numSnpas ++ snpas ++ announced)

def MPUnreachNLRI.bytes (unreach : MPUnreachNLRI) : Except PyError Bytes := do
  let hdr ← packHdr [(2, unreach.afi), (1, unreach.safi)]
  let withdrawn ← joinBytes Route.bytes unreach.withdrawn
  .ok (hdr ++ withdrawn)

def AttributeValue.bytes : AttributeValue → Except PyError Bytes
  | .origin type rest => do .ok ((← packHdr [(1, type)]) ++ rest)
  | .asPath segments => joinBytes AsPathSegment.bytes segments
  | .nextHop ip rest => do .ok ((← packHdr [(4, ip)]) ++ rest)
  | .multiExitDisc value rest => do .ok ((← packHdr [(4, value)]) ++ rest)
  | .localPref value rest => do .ok ((← packHdr [(4, value)]) ++ rest)
  | .atomicAggregate => .ok []
  | .aggregator asn ip rest => do
      .ok ((← packHdr [(2, asn), (4, ip)]) ++ rest)
  | .communities list => joinBytes Community.bytes list
  | .originatorId value rest => do .ok ((← packHdr [(4, value)]) ++ rest)
  | .clusterList list => joinBytes (packBe 4) list
  | .mpReachNlri reach => reach.bytes
  | .mpUnreachNlri unreach => unreach.bytes
  | .other data => .ok data

def Attribute.bytes (attr : Attribute) : Except PyError Bytes := do
  let attrLenStr ← packBe (lengthWidth attr.flags) attr.len
  let hdr ← packHdr [(1, attr.flags), (1, attr.type)]
  let data ← attr.value.bytes
  .ok (hdr ++ attrLenStr ++ data)

def Update.bytes (update : Update) : Except PyError Bytes := do
  let wlen ← packBe 2 (routesSize update.withdrawn)
  let withdrawn ← joinBytes Route.bytes update.withdrawn
  let plen ← packBe 2 (update.attributes.map Attribute.size).sum
  let attributes ← joinBytes Attribute.bytes update.attributes
  let announced ← joinBytes Route.bytes update.announced
  .ok (wlen ++ withdrawn ++ plen ++ attributes ++ announced)

def ParameterValue.bytes : ParameterValue → Except PyError Bytes
  | .authentication code data => do .ok ((← packHdr [(1, code)]) ++ data)
  | .capability code len data => do
      .ok ((← packHdr [(1, code), (1, len)]) ++ data)
  | .other data => .ok data

def Parameter.bytes (param : Parameter) : Except PyError Bytes := do
  let hdr ← packHdr [(1, param.type), (1, param.len)]
  .ok (hdr ++ (← param.value.bytes))

def Body.bytes : Body → Except PyError Bytes
  | .open v asn holdtime identifier _ parameters => do
      let params ← joinBytes Parameter.bytes parameters
      let hdr ← packHdr
        [(1, v), (2, asn), (2, holdtime), (4, identifier), (1, params.length)]
      .ok (hdr ++ params)
  | .update message => message.bytes
  | .notification code subcode error => do
      .ok ((← packHdr [(1, code), (1, subcode)]) ++ error)
  | .keepalive => .ok []
  | .routeRefresh afi rsvd safi rest => do
      .ok ((← packHdr [(2, afi), (1, rsvd), (1, safi)]) ++ rest)
  | .other data => .ok data

def Message.bytes (message : Message) : Except PyError Bytes := do
  let hdr ← packHdr [(2, message.len), (1, message.type)]
  .ok (packString 16 message.marker ++ hdr ++ (← message.body.bytes))

end DpktNg.Bgp
