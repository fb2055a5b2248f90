/-
OSPFv2: the LSA classes of dpkt/ospf.py and `OSPFv2LSU`, LSAs as RFC 2328
encodes them, and what `OSPFv2LSU` makes of them.
-/

import DpktNg.Ospf.LinkStateUpdate

namespace DpktNg.Ospf.V2

open Library

structure LSAv2Header where
  age : Nat
  opts : Nat
  type : Nat
  id : Nat
  advRouter : Nat
  seq : Nat
  sum : Nat
  len : Nat
deriving DecidableEq, Repr

def LSAv2Header.format : RecordFormat LSAv2Header where
  widths := [2, 1, 1, 4, 4, 4, 2, 2]
  fields header :=
    [(2, header.age), (1, header.opts), (1, header.type), (4, header.id),
      (4, header.advRouter), (4, header.seq), (2, header.sum), (2, header.len)]
  ofValues values :=
    { age := values.getD 0 0
      opts := values.getD 1 0
      type := values.getD 2 0
      id := values.getD 3 0
      advRouter := values.getD 4 0
      seq := values.getD 5 0
      sum := values.getD 6 0
      len := values.getD 7 0 }
  widths_fields _ := rfl
  ofValues_fields _ := rfl

structure RouterLink where
  id : Nat
  data : Nat
  type : Nat
  tos : Nat
  metric : Nat
deriving DecidableEq, Repr

def RouterLink.format : RecordFormat RouterLink where
  widths := [4, 4, 1, 1, 2]
  fields link :=
    [(4, link.id), (4, link.data), (1, link.type), (1, link.tos),
      (2, link.metric)]
  ofValues values :=
    { id := values.getD 0 0
      data := values.getD 1 0
      type := values.getD 2 0
      tos := values.getD 3 0
      metric := values.getD 4 0 }
  widths_fields _ := rfl
  ofValues_fields _ := rfl

structure LSARouter where
  flags : Nat
  links : List RouterLink
deriving DecidableEq, Repr

structure LSANetwork where
  mask : Nat
  routers : List Nat
deriving DecidableEq, Repr

structure LSASummaryIP where
  mask : Nat
  metric : Nat
deriving DecidableEq, Repr

structure LSAASExternal where
  mask : Nat
  flags : Nat
  metric : Nat
  forwarding : Nat
  tag : Nat
  prefix_ : Bytes
deriving DecidableEq, Repr

/-- What the class of an LSA makes of the bytes behind the header; the class
`LSAv2Header` keeps them. -/
inductive LsaBody where
  | header (data : Bytes)
  | router (body : LSARouter)
  | network (body : LSANetwork)
  | summaryIP (body : LSASummaryIP)
  | summaryASBR (body : LSASummaryIP)
  | asExternal (body : LSAASExternal)
deriving DecidableEq, Repr

abbrev Lsa := Ospf.Lsa LSAv2Header LsaBody

def LSARouter.unpack (data : Bytes) : Except PyError LSARouter := do
  let start ← ByteOrder.big.unpack [1, 1, 2] (data.take 4)
  let records := recordsUpTo RouterLink.format.size (start.getD 2 0)
    (data.drop 4)
  .ok
    { flags := start.getD 0 0
      links := records.map (RouterLink.format.read .big) }

def LSANetwork.unpack (data : Bytes) : Except PyError LSANetwork := do
  let mask ← unpackBe 4 (data.take 4)
  let records := recordsOf addressFormat_size (data.drop 4)
  .ok { mask, routers := records.map (addressFormat.read .big) }

def LSASummaryIP.unpack (data : Bytes) : Except PyError LSASummaryIP := do
  let mask ← unpackBe 4 (data.take 4)
  let metric ← unpackMetric (cut data 4 7)
  .ok { mask, metric }

def LSAASExternal.unpack (data : Bytes) : Except PyError LSAASExternal := do
  let mask ← unpackBe 4 (data.take 4)
  let flags ← byteAt data 4
  let metric ← unpackMetric (cut data 5 8)
  if data.length ≥ 16 then do
    let forwarding ← unpackBe 4 (cut data 8 12)
    let tag ← unpackBe 4 (cut data 12 16)
    .ok { mask, flags, metric, forwarding, tag, prefix_ := [] }
  else .ok { mask, flags, metric, forwarding := 0, tag := 0, prefix_ := [] }

def LSARouter.bytes (self : LSARouter) : Except PyError Bytes := do
  let start ← ByteOrder.big.pack
    [(1, self.flags), (1, 0), (2, self.links.length)]
  let links ← packAll RouterLink.format .big self.links
  .ok (start ++ links)

def LSANetwork.bytes (self : LSANetwork) : Except PyError Bytes := do
  let mask ← packBe 4 self.mask
  let routers ← packAll addressFormat .big self.routers
  .ok (mask ++ routers)

def LSASummaryIP.bytes (self : LSASummaryIP) : Except PyError Bytes := do
  let mask ← packBe 4 self.mask
  let metric ← packMetric self.metric
  .ok (mask ++ metric)

def LSAASExternal.bytes (self : LSAASExternal) : Except PyError Bytes := do
  let mask ← packBe 4 self.mask
  let flags ← byteOf self.flags
  let metric ← packBe 4 self.metric
  let forwarding ← packBe 4 self.forwarding
  let tag ← packBe 4 self.tag
  .ok (mask ++ flags ++ metric.drop 1 ++ self.prefix_ ++ forwarding ++ tag)

def LsaBody.bytes : LsaBody → Except PyError Bytes
  | .header data => .ok data
  | .router body => body.bytes
  | .network body => body.bytes
  | .summaryIP body => body.bytes
  | .summaryASBR body => body.bytes
  | .asExternal body => body.bytes

def Lsa.bytes (self : Lsa) : Except PyError Bytes := do
  let hdr ← ByteOrder.big.packHdr (LSAv2Header.format.fields self.header)
  let body ← self.body.bytes
  .ok (hdr ++ body)

/-- A class: its name, and what it makes of the bytes behind the header. -/
structure LsaClass where
  name : String
  unpackBody : Bytes → Except PyError LsaBody

def LsaClass.parse (cls : LsaClass) : Bytes → Except PyError Lsa :=
  packetInit cls.name (some LSAv2Header.format.size)
    (unpackLsa LSAv2Header.format cls.unpackBody)

def headerClass : LsaClass where
  name := "LSAv2Header"
  unpackBody data := .ok (.header data)

def routerClass : LsaClass where
  name := "LSARouter"
  unpackBody data := do .ok (.router (← LSARouter.unpack data))

def networkClass : LsaClass where
  name := "LSANetwork"
  unpackBody data := do .ok (.network (← LSANetwork.unpack data))

def summaryIPClass : LsaClass where
  name := "LSASummaryIP"
  unpackBody data := do .ok (.summaryIP (← LSASummaryIP.unpack data))

def summaryASBRClass : LsaClass where
  name := "LSASummaryASBR"
  unpackBody data := do .ok (.summaryASBR (← LSASummaryIP.unpack data))

def asExternalClass : LsaClass where
  name := "LSAASExternal"
  unpackBody data := do .ok (.asExternal (← LSAASExternal.unpack data))

/-- `OSPFv2LSU._lsa_sw` -/
def lsaSw : List (Nat × LsaClass) :=
  [(1, routerClass), (2, networkClass), (3, summaryIPClass),
    (4, summaryASBRClass), (5, asExternalClass)]

def lsaClass (type : Nat) : LsaClass := (lsaSw.lookup type).getD headerClass

/-- The type is taken from the third byte of an LSA, where the header has the
options. -/
def lsaClasses : LsaClasses Lsa where
  typeStop := 3
  construct type := (lsaClass type).parse
  constructHeader := headerClass.parse
  bytes := Lsa.bytes

abbrev OSPFv2LSU := LinkStateUpdate Lsa

def OSPFv2LSU.parse (buf : Bytes) : Except PyError OSPFv2LSU :=
  LinkStateUpdate.parse lsaClasses "OSPFv2LSU" buf

def OSPFv2LSU.bytes (self : OSPFv2LSU) : Except PyError Bytes :=
  LinkStateUpdate.bytes lsaClasses self

/-- A link of a router with its metrics for single types of service. -/
structure SentLink where
  id : Nat
  data : Nat
  type : Nat
  metric : Nat
  tosMetrics : List (Nat × Nat)

def SentLink.fields (link : SentLink) : List (Nat × Nat) :=
  [(4, link.id), (4, link.data), (1, link.type), (1, link.tosMetrics.length),
      (2, link.metric)] ++
    link.tosMetrics.flatMap fun tos => [(1, tos.1), (1, 0), (2, tos.2)]

/-- What the class should hold of a link: the number of the other metrics. -/
def SentLink.decoded (link : SentLink) : RouterLink :=
  { id := link.id
    data := link.data
    type := link.type
    tos := link.tosMetrics.length
    metric := link.metric }

/-- A metric for a single type of service, in an LSA of an external route. -/
structure ExternalTos where
  flags : Nat
  metric : Nat
  forwarding : Nat
  tag : Nat

def ExternalTos.fields (tos : ExternalTos) : List (Nat × Nat) :=
  [(1, tos.flags), (3, tos.metric), (4, tos.forwarding), (4, tos.tag)]

/-- The contents of an LSA, type by type. -/
inductive SentBody where
  | router (flags : Nat) (links : List SentLink)
  | network (mask : Nat) (routers : List Nat)
  | summaryIP (mask metric : Nat) (tosMetrics : List (Nat × Nat))
  | summaryASBR (mask metric : Nat) (tosMetrics : List (Nat × Nat))
  | asExternal (mask flags metric forwarding tag : Nat)
      (tosMetrics : List ExternalTos)

namespace SentBody

def summaryFields (metric : Nat) (tosMetrics : List (Nat × Nat)) :
    List (Nat × Nat) :=
  [(1, 0), (3, metric)] ++ tosMetrics.flatMap fun tos => [(1, tos.1), (3, tos.2)]

def fields : SentBody → List (Nat × Nat)
  | router flags links =>
      [(1, flags), (1, 0), (2, links.length)] ++ links.flatMap SentLink.fields
  | network mask routers =>
      (4, mask) :: routers.flatMap addressFormat.fields
  | summaryIP mask metric tosMetrics =>
      (4, mask) :: summaryFields metric tosMetrics
  | summaryASBR mask metric tosMetrics =>
      (4, mask) :: summaryFields metric tosMetrics
  | asExternal mask flags metric forwarding tag tosMetrics =>
      [(4, mask), (1, flags), (3, metric), (4, forwarding), (4, tag)] ++
        tosMetrics.flatMap ExternalTos.fields

def type : SentBody → Nat
  | router _ _ => 1
  | network _ _ => 2
  | summaryIP _ _ _ => 3
  | summaryASBR _ _ _ => 4
  | asExternal _ _ _ _ _ _ => 5

/-- What the class registered for the type should hold. -/
def decoded : SentBody → LsaBody
  | router flags links =>
      .router { flags, links := links.map SentLink.decoded }
  | network mask routers => .network { mask, routers }
  | summaryIP mask metric _ => .summaryIP { mask, metric }
  | summaryASBR mask metric _ => .summaryASBR { mask, metric }
  | asExternal mask flags metric forwarding tag _ =>
      .asExternal { mask, flags, metric, forwarding, tag, prefix_ := [] }

/-- No summary, and no metrics for single types of service. -/
def Plain : SentBody → Prop
  | router _ links => ∀ link ∈ links, link.tosMetrics = []
  | network _ _ => True
  | summaryIP _ _ _ => False
  | summaryASBR _ _ _ => False
  | asExternal _ _ _ _ _ tosMetrics => tosMetrics = []

def size (body : SentBody) : Nat := (body.fields.map Prod.fst).sum

end SentBody

/-- An encoded LSA.  Its length field says how long it is. -/
structure SentLsa where
  age : Nat
  opts : Nat
  id : Nat
  advRouter : Nat
  seq : Nat
  sum : Nat
  body : SentBody
  small : 20 + body.size < 256 ^ 2
  headerFits : FieldsFit
    [(2, age), (1, opts), (4, id), (4, advRouter), (4, seq), (2, sum)]
  bodyFits : FieldsFit body.fields

namespace SentLsa

def header (lsa : SentLsa) : LSAv2Header :=
  { age := lsa.age
    opts := lsa.opts
    type := lsa.body.type
    id := lsa.id
    advRouter := lsa.advRouter
    seq := lsa.seq
    sum := lsa.sum
    len := 20 + lsa.body.size }

def decoded (lsa : SentLsa) : Lsa :=
  { header := lsa.header, body := lsa.body.decoded }

def bytes (lsa : SentLsa) : Bytes :=
  LSAv2Header.format.bytes .big lsa.header ++
    ByteOrder.big.fieldBytes lsa.body.fields

end SentLsa

structure SentUpdate where
  lsas : List SentLsa
  few : lsas.length < 256 ^ 4

def SentUpdate.bytes (update : SentUpdate) : Bytes :=
  beBytes 4 update.lsas.length ++ (update.lsas.map SentLsa.bytes).flatten

theorem SentBody.type_lt (body : SentBody) : body.type < 256 := by
  unfold SentBody.type
  split <;> decide

theorem SentLsa.header_fits (lsa : SentLsa) :
    LSAv2Header.format.Fits lsa.header := by
  have small := lsa.small
  have type := lsa.body.type_lt
  have fits := lsa.headerFits
  unfold RecordFormat.Fits LSAv2Header.format SentLsa.header
  simp only [fieldsFit_cons, fieldsFit_nil, and_true] at fits ⊢
  obtain ⟨age, opts, id, adv, seq, sum⟩ := fits
  exact ⟨age, opts, type, id, adv, seq, sum, small⟩

theorem SentLsa.header_length (lsa : SentLsa) :
    (LSAv2Header.format.bytes .big lsa.header).length = 20 :=
  LSAv2Header.format.bytes_length _ _

theorem SentLsa.bytes_length (lsa : SentLsa) :
    lsa.bytes.length = 20 + lsa.body.size := by
  unfold SentLsa.bytes SentBody.size
  rw [List.length_append, lsa.header_length, ByteOrder.fieldBytes_length]

theorem SentLsa.header_bytes (lsa : SentLsa) :
    LSAv2Header.format.bytes .big lsa.header =
      beBytes 2 lsa.age ++ (beBytes 1 lsa.opts ++ (beBytes 1 lsa.body.type ++
        (beBytes 4 lsa.id ++ (beBytes 4 lsa.advRouter ++
          (beBytes 4 lsa.seq ++ (beBytes 2 lsa.sum ++
            (beBytes 2 (20 + lsa.body.size) ++ []))))))) := rfl

theorem SentLsa.framed (lsa : SentLsa) : LinkStateUpdate.Framed lsa.bytes where
  long := by
    rw [lsa.bytes_length]
    omega
  small := by
    rw [lsa.bytes_length]
    exact lsa.small
  length_eq := by
    have header := lsa.header_length
    rw [lsa.bytes_length]
    unfold SentLsa.bytes
    rw [lsa.header_bytes]
    simp only [List.append_assoc, List.nil_append]
    rw [cut_behind (beBytes_length 2 _) (by decide),
      cut_behind (beBytes_length 1 _) (by decide),
      cut_behind (beBytes_length 1 _) (by decide),
      cut_behind (beBytes_length 4 _) (by decide),
      cut_behind (beBytes_length 4 _) (by decide),
      cut_behind (beBytes_length 4 _) (by decide),
      cut_behind (beBytes_length 2 _) (by decide)]
    exact cut_front (beBytes_length 2 _) _

/-- The byte that the class is chosen by holds the options. -/
theorem SentLsa.read_type (lsa : SentLsa) :
    unpackBe 1 (cut lsa.bytes 2 3) = .ok lsa.opts := by
  have fits := lsa.headerFits
  simp only [fieldsFit_cons, fieldsFit_nil, and_true] at fits
  have here : cut lsa.bytes 2 3 = beBytes 1 lsa.opts := by
    unfold SentLsa.bytes
    rw [lsa.header_bytes, List.append_assoc,
      cut_behind (beBytes_length 2 _) (by decide), List.append_assoc]
    exact cut_front (beBytes_length 1 _) _
  rw [here]
  exact unpackBe_beBytes fits.2.1

end DpktNg.Ospf.V2
