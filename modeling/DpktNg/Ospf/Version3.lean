/-
OSPFv3: the LSA classes of dpkt/ospf.py and `OSPFv3LSU`.
-/

import DpktNg.Ospf.LinkStateUpdate

namespace DpktNg.Ospf.V3

open Library

structure LSAv3Header where
  age : Nat
  typeField : Nat
  id : Nat
  advRouter : Nat
  seq : Nat
  sum : Nat
  len : Nat
deriving DecidableEq, Repr

def LSAv3Header.format : RecordFormat LSAv3Header where
  widths := [2, 2, 4, 4, 4, 2, 2]
  fields header :=
    [(2, header.age), (2, header.typeField), (4, header.id),
      (4, header.advRouter), (4, header.seq), (2, header.sum), (2, header.len)]
  ofValues values :=
    { age := values.getD 0 0
      typeField := values.getD 1 0
      id := values.getD 2 0
      advRouter := values.getD 3 0
      seq := values.getD 4 0
      sum := values.getD 5 0
      len := values.getD 6 0 }
  widths_fields _ := rfl
  ofValues_fields _ := rfl

structure RouterLink where
  type : Nat
  rsv : Nat
  metric : Nat
  interfaceId : Nat
  neighborInterfaceId : Nat
  neighborRouter : Nat
deriving DecidableEq, Repr

def RouterLink.format : RecordFormat RouterLink where
  widths := [1, 1, 2, 4, 4, 4]
  fields link :=
    [(1, link.type), (1, link.rsv), (2, link.metric), (4, link.interfaceId),
      (4, link.neighborInterfaceId), (4, link.neighborRouter)]
  ofValues values :=
    { type := values.getD 0 0
      rsv := values.getD 1 0
      metric := values.getD 2 0
      interfaceId := values.getD 3 0
      neighborInterfaceId := values.getD 4 0
      neighborRouter := values.getD 5 0 }
  widths_fields _ := rfl
  ofValues_fields _ := rfl

structure LSARouterV3 where
  flags : Nat
  opts : Bytes
  links : List RouterLink
deriving DecidableEq, Repr

structure LSANetworkV3 where
  opts : Bytes
  routers : List Nat
deriving DecidableEq, Repr

structure LSAInterAreaPrefix where
  metric : Nat
  prefixLength : Nat
  prefix_ : Bytes
deriving DecidableEq, Repr

structure LSAInterAreaRouter where
  opts : Bytes
  rsv : Nat
  metric : Nat
  destRouter : Nat
deriving DecidableEq, Repr

structure LSAASExternalV3 where
  flags : Nat
  metric : Nat
  prefixLength : Nat
  prefix_ : Bytes
  forwarding : Nat
  tag : Nat
deriving DecidableEq, Repr

structure LSALink where
  routerPriority : Nat
  opts : Bytes
  prefixLength : Nat
  prefix_ : Bytes
deriving DecidableEq, Repr

structure AreaPrefix where
  prefixLength : Nat
  prefix_ : Bytes
deriving DecidableEq, Repr

structure LSAIntraAreaPrefix where
  lsaCount : Nat
  refType : Nat
  refId : Nat
  refAdvRouter : Nat
  prefixes : List AreaPrefix
deriving DecidableEq, Repr

/-- What the class of an LSA makes of the bytes behind the header; the class
`LSAv3Header` keeps them. -/
inductive LsaBody where
  | header (data : Bytes)
  | router (body : LSARouterV3)
  | network (body : LSANetworkV3)
  | interAreaPrefix (body : LSAInterAreaPrefix)
  | interAreaRouter (body : LSAInterAreaRouter)
  | asExternal (body : LSAASExternalV3)
  | nssa (body : LSAASExternalV3)
  | link (body : LSALink)
  | intraAreaPrefix (body : LSAIntraAreaPrefix)
deriving DecidableEq, Repr

abbrev Lsa := Ospf.Lsa LSAv3Header LsaBody

def prefixBytes (prefixLength : Nat) : Nat := (prefixLength + 7) / 8

def LSARouterV3.unpack (data : Bytes) : Except PyError LSARouterV3 := do
  let flags ← byteAt data 0
  let records := recordsOf (show 0 < RouterLink.format.size by decide)
    (data.drop 4)
  .ok
    { flags
      opts := cut data 1 4
      links := records.map (RouterLink.format.read .big) }

def LSANetworkV3.unpack (data : Bytes) : Except PyError LSANetworkV3 :=
  let records := recordsOf addressFormat_size (data.drop 4)
  .ok
    { opts := cut data 0 3
      routers := records.map (addressFormat.read .big) }

def LSAInterAreaPrefix.unpack (data : Bytes) :
    Except PyError LSAInterAreaPrefix := do
  let metric ← unpackMetric (cut data 0 3)
  let prefixLength ← byteAt data 3
  .ok
    { metric
      prefixLength
      prefix_ := cut data 4 (4 + prefixBytes prefixLength) }

def LSAInterAreaRouter.unpack (data : Bytes) :
    Except PyError LSAInterAreaRouter := do
  let rsv ← byteAt data 3
  let metric ← unpackMetric (cut data 4 7)
  let destRouter ← unpackBe 4 (cut data 7 11)
  .ok { opts := cut data 0 3, rsv, metric, destRouter }

def LSAASExternalV3.unpack (data : Bytes) : Except PyError LSAASExternalV3 := do
  let flags ← byteAt data 0
  let metric ← unpackMetric (cut data 1 4)
  let prefixLength ← byteAt data 4
  let pos := 5 + prefixBytes prefixLength
  let prefix_ := cut data 5 pos
  if data.length ≥ pos + 8 then do
    let forwarding ← unpackBe 4 (cut data pos (pos + 4))
    let tag ← unpackBe 4 (cut data (pos + 4) (pos + 8))
    .ok { flags, metric, prefixLength, prefix_, forwarding, tag }
  else
    .ok { flags, metric, prefixLength, prefix_, forwarding := 0, tag := 0 }

def LSALink.unpack (data : Bytes) : Except PyError LSALink := do
  let routerPriority ← byteAt data 0
  let prefixLength ← byteAt data 4
  .ok
    { routerPriority
      opts := cut data 1 4
      prefixLength
      prefix_ := cut data 5 (5 + prefixBytes prefixLength) }

/-- The loop over the prefixes, from the next one on. -/
def prefixesUpTo : Nat → Bytes → List AreaPrefix
  | 0, _ => []
  | _ + 1, [] => []
  | count + 1, plen :: rest =>
      let pbytes := prefixBytes plen.toNat
      { prefixLength := plen.toNat, prefix_ := rest.take pbytes } ::
        prefixesUpTo count (rest.drop pbytes)

def LSAIntraAreaPrefix.unpack (data : Bytes) :
    Except PyError LSAIntraAreaPrefix := do
  let lsaCount ← unpackBe 2 (cut data 0 2)
  let refType ← unpackBe 2 (cut data 2 4)
  let refId ← unpackBe 4 (cut data 4 8)
  let refAdvRouter ← unpackBe 4 (cut data 8 12)
  .ok
    { lsaCount
      refType
      refId
      refAdvRouter
      prefixes := prefixesUpTo lsaCount (data.drop 12) }

def LSARouterV3.bytes (self : LSARouterV3) : Except PyError Bytes := do
  let flags ← byteOf self.flags
  let links ← packAll RouterLink.format .big self.links
  .ok (flags ++ self.opts ++ links)

def LSANetworkV3.bytes (self : LSANetworkV3) : Except PyError Bytes := do
  let routers ← packAll addressFormat .big self.routers
  .ok (self.opts ++ [0] ++ routers)

def LSAInterAreaPrefix.bytes (self : LSAInterAreaPrefix) :
    Except PyError Bytes := do
  let metric ← packMetric self.metric
  let prefixLength ← byteOf self.prefixLength
  .ok (metric ++ prefixLength ++ self.prefix_)

def LSAInterAreaRouter.bytes (self : LSAInterAreaRouter) :
    Except PyError Bytes := do
  let rsv ← byteOf self.rsv
  let metric ← packMetric self.metric
  let destRouter ← packBe 4 self.destRouter
  .ok (self.opts ++ rsv ++ metric ++ destRouter)

def LSAASExternalV3.bytes (self : LSAASExternalV3) : Except PyError Bytes := do
  let flags ← byteOf self.flags
  let metric ← packMetric self.metric
  let prefixLength ← byteOf self.prefixLength
  let forwarding ← packBe 4 self.forwarding
  let tag ← packBe 4 self.tag
  .ok (flags ++ metric ++ prefixLength ++ self.prefix_ ++ forwarding ++ tag)

def LSALink.bytes (self : LSALink) : Except PyError Bytes := do
  let routerPriority ← byteOf self.routerPriority
  let prefixLength ← byteOf self.prefixLength
  .ok (routerPriority ++ self.opts ++ prefixLength ++ self.prefix_)

def AreaPrefix.bytes (self : AreaPrefix) : Except PyError Bytes := do
  .ok ((← byteOf self.prefixLength) ++ self.prefix_)

def LSAIntraAreaPrefix.bytes (self : LSAIntraAreaPrefix) :
    Except PyError Bytes := do
  let start ← ByteOrder.big.pack
    [(2, self.prefixes.length), (2, self.refType), (4, self.refId),
      (4, self.refAdvRouter)]
  let prefixes ← joinBytes AreaPrefix.bytes self.prefixes
  .ok (start ++ prefixes)

def LsaBody.bytes : LsaBody → Except PyError Bytes
  | .header data => .ok data
  | .router body => body.bytes
  | .network body => body.bytes
  | .interAreaPrefix body => body.bytes
  | .interAreaRouter body => body.bytes
  | .asExternal body => body.bytes
  | .nssa body => body.bytes
  | .link body => body.bytes
  | .intraAreaPrefix body => body.bytes

/-- The length that goes into the header: the classes with a body of their own
put in what they have written. -/
def LsaBody.lenField (own : Nat) (body : Bytes) : LsaBody → Nat
  | .header _ => own
  | _ => LSAv3Header.format.size + body.length

def Lsa.bytes (self : Lsa) : Except PyError Bytes := do
  let body ← self.body.bytes
  let len := self.body.lenField self.header.len body
  let hdr ← ByteOrder.big.packHdr
    (LSAv3Header.format.fields { self.header with len })
  .ok (hdr ++ body)

def LsaBody.length : LsaBody → Nat
  | .header data => data.length
  | .router body => 4 + 16 * body.links.length
  | .network body => 4 + 4 * body.routers.length
  | .interAreaPrefix body => 4 + body.prefix_.length
  | .interAreaRouter _ => 11
  | .asExternal body => 5 + body.prefix_.length + 8
  | .nssa body => 5 + body.prefix_.length + 8
  | .link body => 5 + body.prefix_.length
  | .intraAreaPrefix body =>
      12 + (body.prefixes.map fun p => 1 + p.prefix_.length).sum

def Lsa.length (self : Lsa) : Nat :=
  LSAv3Header.format.size + self.body.length

/-- A class: its name, and what it makes of the bytes behind the header. -/
structure LsaClass where
  name : String
  unpackBody : Bytes → Except PyError LsaBody

def LsaClass.parse (cls : LsaClass) : Bytes → Except PyError Lsa :=
  packetInit cls.name (some LSAv3Header.format.size)
    (unpackLsa LSAv3Header.format cls.unpackBody)

def headerClass : LsaClass where
  name := "LSAv3Header"
  unpackBody data := .ok (.header data)

def routerClass : LsaClass where
  name := "LSARouterV3"
  unpackBody data := do .ok (.router (← LSARouterV3.unpack data))

def networkClass : LsaClass where
  name := "LSANetworkV3"
  unpackBody data := do .ok (.network (← LSANetworkV3.unpack data))

def interAreaPrefixClass : LsaClass where
  name := "LSAInterAreaPrefix"
  unpackBody data := do
    .ok (.interAreaPrefix (← LSAInterAreaPrefix.unpack data))

def interAreaRouterClass : LsaClass where
  name := "LSAInterAreaRouter"
  unpackBody data := do
    .ok (.interAreaRouter (← LSAInterAreaRouter.unpack data))

def asExternalClass : LsaClass where
  name := "LSAASExternalV3"
  unpackBody data := do .ok (.asExternal (← LSAASExternalV3.unpack data))

def nssaClass : LsaClass where
  name := "LSANSSAV3"
  unpackBody data := do .ok (.nssa (← LSAASExternalV3.unpack data))

def linkClass : LsaClass where
  name := "LSALink"
  unpackBody data := do .ok (.link (← LSALink.unpack data))

def intraAreaPrefixClass : LsaClass where
  name := "LSAIntraAreaPrefix"
  unpackBody data := do
    .ok (.intraAreaPrefix (← LSAIntraAreaPrefix.unpack data))

/-- `OSPFv3LSU._lsa_sw` -/
def lsaSw : List (Nat × LsaClass) :=
  [(0x2001, routerClass), (0x2002, networkClass),
    (0x2003, interAreaPrefixClass), (0x2004, interAreaRouterClass),
    (0x4005, asExternalClass), (0x2007, nssaClass), (0x0008, linkClass),
    (0x2009, intraAreaPrefixClass)]

def lsaClass (type : Nat) : LsaClass := (lsaSw.lookup type).getD headerClass

/-- The type is taken from the third and fourth byte of an LSA. -/
def lsaClasses : LsaClasses Lsa where
  typeStop := 4
  construct type := (lsaClass type).parse
  constructHeader := headerClass.parse
  bytes := Lsa.bytes

abbrev OSPFv3LSU := LinkStateUpdate Lsa

def OSPFv3LSU.parse (buf : Bytes) : Except PyError OSPFv3LSU :=
  LinkStateUpdate.parse lsaClasses "OSPFv3LSU" buf

def OSPFv3LSU.bytes (self : OSPFv3LSU) : Except PyError Bytes :=
  LinkStateUpdate.bytes lsaClasses self

end DpktNg.Ospf.V3
