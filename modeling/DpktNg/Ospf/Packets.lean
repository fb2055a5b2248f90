/-
OSPF packets of dpkt/ospf.py: the class that `OSPF.__new__` chooses by the
version number, the header, the message that the type selects, and the checksum
that `bytes` fills in.

Apart from the updates, a message is a header and records one behind the other,
up to the last whole one; what is left over is gone.
-/

import DpktNg.Inet.Checksummed
import DpktNg.Ospf.Updates
import DpktNg.Packet.Payload

namespace DpktNg.Ospf

open Library DpktNg.Inet

/-! ### Headers and records -/

namespace V2

structure HelloHeader where
  mask : Nat
  helloInterval : Nat
  opts : Nat
  routerPriority : Nat
  deadInterval : Nat
  designatedRouter : Nat
  backupDesignatedRouter : Nat
deriving DecidableEq, Repr

def HelloHeader.format : StructFormat HelloHeader where
  items := [.int 4, .int 2, .int 1, .int 1, .int 4, .int 4, .int 4]
  values header :=
    (header.mask, header.helloInterval, header.opts, header.routerPriority,
      header.deadInterval, header.designatedRouter,
      header.backupDesignatedRouter, ())
  ofValues := fun (mask, helloInterval, opts, routerPriority, deadInterval,
      designatedRouter, backupDesignatedRouter, _) =>
    { mask, helloInterval, opts, routerPriority, deadInterval,
      designatedRouter, backupDesignatedRouter }
  ofValues_values _ := rfl

structure DBDHeader where
  mtu : Nat
  opts : Nat
  flags : Nat
  seq : Nat
deriving DecidableEq, Repr

def DBDHeader.format : StructFormat DBDHeader where
  items := [.int 2, .int 1, .int 1, .int 4]
  values header := (header.mtu, header.opts, header.flags, header.seq, ())
  ofValues := fun (mtu, opts, flags, seq, _) => { mtu, opts, flags, seq }
  ofValues_values _ := rfl

end V2

namespace V3

structure HelloHeader where
  interfaceId : Nat
  routerPriority : Nat
  opts : Bytes
  helloInterval : Nat
  deadInterval : Nat
  designatedRouter : Nat
  backupDesignatedRouter : Nat
deriving DecidableEq, Repr

def HelloHeader.format : StructFormat HelloHeader where
  items := [.int 4, .int 1, .str 3, .int 2, .int 2, .int 4, .int 4]
  values header :=
    (header.interfaceId, header.routerPriority, header.opts,
      header.helloInterval, header.deadInterval, header.designatedRouter,
      header.backupDesignatedRouter, ())
  ofValues := fun (interfaceId, routerPriority, opts, helloInterval,
      deadInterval, designatedRouter, backupDesignatedRouter, _) =>
    { interfaceId, routerPriority, opts, helloInterval, deadInterval,
      designatedRouter, backupDesignatedRouter }
  ofValues_values _ := rfl

structure DBDHeader where
  opts : Bytes
  flags : Nat
  seq : Nat
deriving DecidableEq, Repr

def DBDHeader.format : StructFormat DBDHeader where
  items := [.str 3, .int 1, .int 4]
  values header := (header.opts, header.flags, header.seq, ())
  ofValues := fun (opts, flags, seq, _) => { opts, flags, seq }
  ofValues_values _ := rfl

end V3

/-- An LSA that is asked for. -/
structure Request where
  type : Nat
  id : Nat
  advRouter : Nat
deriving DecidableEq, Repr

/-- The requests of the two versions differ in the width of the type. -/
def Request.format (typeWidth : Nat) : RecordFormat Request where
  widths := [typeWidth, 4, 4]
  fields request :=
    [(typeWidth, request.type), (4, request.id), (4, request.advRouter)]
  ofValues values :=
    { type := values.getD 0 0
      id := values.getD 1 0
      advRouter := values.getD 2 0 }
  widths_fields _ := rfl
  ofValues_fields _ := rfl

/-! ### The versions -/

/-- `OSPFv2` and `OSPFv3`: the name, the header fields behind the checksum, and
the formats of the messages.  A message holds everything that was read. -/
structure Version where
  name : String
  behind : List StructItem
  HelloHeader : Type
  DBDHeader : Type
  LSAHeader : Type
  LSABody : Type
  hello : StructFormat HelloHeader
  dbd : StructFormat DBDHeader
  typeWidth : Nat
  header : RecordFormat LSAHeader
  lsas : LsaClasses (Lsa LSAHeader LSABody)
  fatal : Nat → List Nat
  hello_exact : hello.Exact
  dbd_exact : dbd.Exact
  header_exact : header.Exact
  header_size : header.size = 20
  parses : Parses lsas fatal
  typed : 2 < lsas.typeStop ∧ lsas.typeStop ≤ 20

theorem values_getD {count : Nat} {values : List Nat}
    (length : values.length = count) :
    List.ofFn (fun i : Fin count => values.getD i 0) = values := by
  apply List.ext_getElem
  · rw [List.length_ofFn, length]
  · intro i _small inside
    rw [List.getElem_ofFn]
    exact List.getD_eq_getElem _ _ inside

theorem addressFormat_exact : addressFormat.Exact := by
  intro values length
  rw [← values_getD length]
  rfl

theorem Request.exact (typeWidth : Nat) : (Request.format typeWidth).Exact := by
  intro values length
  rw [← values_getD length]
  rfl

theorem V2.header_exact : V2.LSAv2Header.format.Exact := by
  intro values length
  rw [← values_getD length]
  rfl

theorem V3.header_exact : V3.LSAv3Header.format.Exact := by
  intro values length
  rw [← values_getD length]
  rfl

theorem V2.hello_exact : V2.HelloHeader.format.Exact := fun _values => rfl

theorem V2.dbd_exact : V2.DBDHeader.format.Exact := fun _values => rfl

theorem V3.hello_exact : V3.HelloHeader.format.Exact := fun _values => rfl

theorem V3.dbd_exact : V3.DBDHeader.format.Exact := fun _values => rfl

theorem V2.typed : 2 < V2.lsaClasses.typeStop ∧ V2.lsaClasses.typeStop ≤ 20 :=
  ⟨by decide, by decide⟩

theorem V3.typed : 2 < V3.lsaClasses.typeStop ∧ V3.lsaClasses.typeStop ≤ 20 :=
  ⟨by decide, by decide⟩

def version2 : Version where
  name := ospfv2.name
  behind := ospfv2.behind
  HelloHeader := V2.HelloHeader
  DBDHeader := V2.DBDHeader
  LSAHeader := V2.LSAv2Header
  LSABody := V2.LsaBody
  hello := V2.HelloHeader.format
  dbd := V2.DBDHeader.format
  typeWidth := 4
  header := V2.LSAv2Header.format
  lsas := V2.lsaClasses
  fatal := V2.fatal
  hello_exact := V2.hello_exact
  dbd_exact := V2.dbd_exact
  header_exact := V2.header_exact
  header_size := V2.header_size
  parses := V2.parses
  typed := V2.typed

def version3 : Version where
  name := ospfv3.name
  behind := ospfv3.behind
  HelloHeader := V3.HelloHeader
  DBDHeader := V3.DBDHeader
  LSAHeader := V3.LSAv3Header
  LSABody := V3.LsaBody
  hello := V3.HelloHeader.format
  dbd := V3.DBDHeader.format
  typeWidth := 2
  header := V3.LSAv3Header.format
  lsas := V3.lsaClasses
  fatal := V3.fatal
  hello_exact := V3.hello_exact
  dbd_exact := V3.dbd_exact
  header_exact := V3.header_exact
  header_size := V3.header_size
  parses := V3.parses
  typed := V3.typed

/-! ### Messages -/

inductive MessageClass where
  | hello
  | dbd
  | lsr
  | lsu
  | lsAck
deriving DecidableEq, Repr

def msgSw : List (Nat × MessageClass) :=
  [(1, .hello), (2, .dbd), (3, .lsr), (4, .lsu), (5, .lsAck)]

inductive Message (version : Version) where
  | hello (header : version.HelloHeader) (neighbors : List Nat)
  | dbd (header : version.DBDHeader) (data : Bytes)
  | lsr (requests : List Request)
  | lsu (update : LinkStateUpdate (Lsa version.LSAHeader version.LSABody))
  | lsAck (lsaHeaders : List version.LSAHeader)

theorem Request.size_pos (typeWidth : Nat) :
    0 < (Request.format typeWidth).size := by
  change 0 < typeWidth + (4 + (4 + 0))
  omega

theorem Version.header_pos (version : Version) : 0 < version.header.size := by
  rw [version.header_size]
  exact Nat.zero_lt_succ 19

namespace Message

variable (version : Version)

def unpackHello (buf : Bytes) : Except PyError (Message version) := do
  let (header, data) ← version.hello.unpackHdr .big buf
  let records := recordsOf addressFormat_size data
  .ok (.hello header (records.map (addressFormat.read .big)))

def unpackDBD (buf : Bytes) : Except PyError (Message version) := do
  let (header, data) ← version.dbd.unpackHdr .big buf
  .ok (.dbd header data)

def unpackLSR (buf : Bytes) : Except PyError (Message version) :=
  let records := recordsOf (Request.size_pos version.typeWidth) buf
  .ok (.lsr (records.map ((Request.format version.typeWidth).read .big)))

def unpackLSAck (buf : Bytes) : Except PyError (Message version) :=
  let records := recordsOf version.header_pos buf
  .ok (.lsAck (records.map (version.header.read .big)))

def parse : MessageClass → Bytes → Except PyError (Message version)
  | .hello, buf =>
      packetInit (version.name ++ "Hello") (some version.hello.size)
        (unpackHello version) buf
  | .dbd, buf =>
      packetInit (version.name ++ "DBD") (some version.dbd.size)
        (unpackDBD version) buf
  | .lsr, buf =>
      packetInit (version.name ++ "LSR") none (unpackLSR version) buf
  | .lsu, buf => do
      .ok (.lsu
        (← LinkStateUpdate.parse version.lsas (version.name ++ "LSU") buf))
  | .lsAck, buf =>
      packetInit (version.name ++ "LSAck") none (unpackLSAck version) buf

variable {version}

def bytes : Message version → Except PyError Bytes
  | .hello header neighbors => do
      let hdr ← version.hello.packHdr .big header
      let neighbors ← packAll addressFormat .big neighbors
      .ok (hdr ++ neighbors)
  | .dbd header data => do
      let hdr ← version.dbd.packHdr .big header
      .ok (hdr ++ data)
  | .lsr requests => packAll (Request.format version.typeWidth) .big requests
  | .lsu update => LinkStateUpdate.bytes version.lsas update
  | .lsAck lsaHeaders =>
      joinBytes (fun header =>
        ByteOrder.big.packHdr (version.header.fields header)) lsaHeaders

end Message

/-! ### Packets -/

structure OSPFPacket (version : Version) where
  v : Nat
  type : Nat
  len : Nat
  router : Nat
  area : Nat
  sum : Nat
  behind : StructValues version.behind
  data : Payload (Message version)

/-- The header of a version, with its checksum. -/
def Version.cls (version : Version) : SummedClass where
  name := version.name
  front := ospf.front
  behind := version.behind
  even := rfl

namespace OSPFPacket

variable {version : Version}

/-- The packet of the family that fill in their checksums. -/
def toSummed (self : OSPFPacket version) (data : Bytes) :
    Summed version.cls where
  front := (self.v, self.type, self.len, self.router, self.area, ())
  sum := self.sum
  behind := self.behind
  data

def typeOf (packet : Summed version.cls) : Nat :=
  let (_, type, _) := packet.front
  type

/-- The packet with the object that `data` becomes. -/
def ofSummed (packet : Summed version.cls) (data : Payload (Message version)) :
    OSPFPacket version :=
  let (v, type, len, router, area, _) := packet.front
  { v, type, len, router, area, sum := packet.sum, behind := packet.behind
    data }

def unpackData (version : Version) (type : Nat) (data : Bytes) :
    Except PyError (Payload (Message version)) :=
  match msgSw.lookup type with
  | some cls =>
      if data = [] then .ok (.raw data)
      else do .ok (.packet (← Message.parse version cls data))
  | none => .ok (.raw data)

def unpack (version : Version) (buf : Bytes) :
    Except PyError (OSPFPacket version) := do
  let packet ← Summed.unpack version.cls buf
  .ok (ofSummed packet (← unpackData version (typeOf packet) packet.data))

def parse (version : Version) : Bytes → Except PyError (OSPFPacket version) :=
  packetInit version.name (some version.cls.hdrLen) (unpack version)

def dataBytes (self : OSPFPacket version) : Except PyError Bytes :=
  match self.data with
  | .raw data => .ok data
  | .packet message => message.bytes

/-- `__bytes__`, with the packet that it leaves.  The header is packed before
the data. -/
def bytes (self : OSPFPacket version) :
    Except PyError (OSPFPacket version × Bytes) := do
  let _header ← (self.toSummed []).packHdr
  let data ← self.dataBytes
  let (filled, out) ← (self.toSummed data).bytes
  .ok ({ self with sum := filled.sum }, out)

end OSPFPacket

/-- What `OSPF(buf)` is: an `OSPF`, whose data are bytes, or a packet of a
version. -/
inductive OSPF where
  | base (packet : Summed ospf)
  | v2 (packet : OSPFPacket version2)
  | v3 (packet : OSPFPacket version3)

namespace OSPF

def parse (buf : Bytes) : Except PyError OSPF :=
  match buf with
  | 3 :: _ => do .ok (.v3 (← OSPFPacket.parse version3 buf))
  | 2 :: _ => do .ok (.v2 (← OSPFPacket.parse version2 buf))
  | _ => do .ok (.base (← Summed.parse ospf buf))

def bytes : OSPF → Except PyError (OSPF × Bytes)
  | .base packet => do
      let (filled, out) ← packet.bytes
      .ok (.base filled, out)
  | .v2 packet => do
      let (filled, out) ← packet.bytes
      .ok (.v2 filled, out)
  | .v3 packet => do
      let (filled, out) ← packet.bytes
      .ok (.v3 filled, out)

end OSPF

/-! ### What is accepted -/

/-- A header of this size is cut short. -/
def headerFailure (size : Nat) (buf : Bytes) : Option PyError :=
  if buf.length < size then some (.tooShort buf.length size) else none

/-- What goes wrong with a message. -/
def MessageClass.failure (version : Version) (buf : Bytes) :
    MessageClass → Option PyError
  | .hello => headerFailure version.hello.size buf
  | .dbd => headerFailure version.dbd.size buf
  | .lsr => none
  | .lsu =>
      LinkStateUpdate.updateFailure version.lsas.typeStop version.fatal buf
  | .lsAck => none

def dataFailure (version : Version) (type : Nat) (data : Bytes) :
    Option PyError :=
  match msgSw.lookup type with
  | some cls => if data = [] then none else cls.failure version data
  | none => none

def Version.failure (version : Version) (buf : Bytes) : Option PyError :=
  (headerFailure version.cls.hdrLen buf).or
    (dataFailure version (beNat (cut buf 1 2)) (buf.drop version.cls.hdrLen))

/-- What goes wrong with a buffer.  Its length matters, the version, the message
type, and in an update the number of LSAs with their lengths and types. -/
def OSPF.failure (buf : Bytes) : Option PyError :=
  match buf with
  | 3 :: _ => version3.failure buf
  | 2 :: _ => version2.failure buf
  | _ => headerFailure ospf.hdrLen buf

/-- The result is an error if there is one, and otherwise some value. -/
def EndsAs {α : Type} (failure : Option PyError) (result : Except PyError α) :
    Prop :=
  match failure with
  | some problem => result = .error problem
  | none => ∃ value, result = .ok value

theorem EndsAs.bind {α β : Type} {failure : Option PyError}
    {result : Except PyError α} (ends : EndsAs failure result) (make : α → β) :
    EndsAs failure (do .ok (make (← result))) := by
  unfold EndsAs at ends ⊢
  split
  · rw [show result = .error _ from ends]
    rfl
  · obtain ⟨value, parsed⟩ := ends
    rw [parsed]
    exact ⟨make value, rfl⟩

theorem parsed_ends {α : Type} {className : String} {hdrLen : Option Nat}
    {unpack : Bytes → Except PyError α} {buf : Bytes} {value : α}
    (unpacked : unpack buf = .ok value) :
    EndsAs none (packetInit className hdrLen unpack buf) :=
  ⟨value, packetInit_eq_ok.mpr unpacked⟩

theorem header_ends {α β : Type} {format : StructFormat α} (className : String)
    (make : α → Bytes → β) (buf : Bytes) :
    EndsAs (headerFailure format.size buf)
      (packetInit className (some format.size) (fun buf => do
        let (header, data) ← format.unpackHdr .big buf
        .ok (make header data)) buf) := by
  unfold EndsAs headerFailure
  by_cases short : buf.length < format.size
  · have refused : format.unpackHdr .big buf = .error .structError := by
      have length := @List.length_take _ format.size buf
      unfold StructFormat.unpackHdr StructFormat.unpack
      rw [if_neg (by omega)]
      rfl
    rw [if_pos short]
    refine packetInit_short ?_ short
    rw [refused]
    rfl
  · obtain ⟨header, data, unpacked⟩ :
        ∃ header data, format.unpackHdr .big buf = .ok (header, data) :=
      ⟨_, _, StructFormat.unpackHdr_eq_ok.mpr
        ⟨Nat.le_of_not_lt short, rfl, rfl⟩⟩
    rw [if_neg short]
    refine ⟨make header data, packetInit_eq_ok.mpr ?_⟩
    rw [unpacked]
    rfl

theorem message_ends (version : Version) (cls : MessageClass) (buf : Bytes) :
    EndsAs (cls.failure version buf) (Message.parse version cls buf) := by
  cases cls with
  | hello => exact header_ends _ (fun header data => Message.hello header
      ((recordsOf addressFormat_size data).map (addressFormat.read .big))) buf
  | dbd => exact header_ends _ (fun header data => Message.dbd header data) buf
  | lsr =>
      change EndsAs none (packetInit (version.name ++ "LSR") none
        (Message.unpackLSR version) buf)
      exact parsed_ends rfl
  | lsu =>
      have outcome := LinkStateUpdate.parse_outcome version.parses
        version.typed.1 version.typed.2 (version.name ++ "LSU") buf
      exact EndsAs.bind outcome Message.lsu
  | lsAck =>
      change EndsAs none (packetInit (version.name ++ "LSAck") none
        (Message.unpackLSAck version) buf)
      exact parsed_ends rfl

theorem data_ends (version : Version) (type : Nat) (data : Bytes) :
    EndsAs (dataFailure version type data)
      (OSPFPacket.unpackData version type data) := by
  unfold dataFailure OSPFPacket.unpackData
  cases msgSw.lookup type with
  | none => exact ⟨_, rfl⟩
  | some cls =>
      dsimp only
      by_cases nothing : data = []
      · rw [if_pos nothing, if_pos nothing]
        exact ⟨_, rfl⟩
      · rw [if_neg nothing, if_neg nothing]
        exact (message_ends version cls data).bind _

theorem headerFailure_notStruct (size : Nat) (buf : Bytes) :
    headerFailure size buf ≠ some .structError := by
  unfold headerFailure
  split <;> nofun

theorem withoutHeader_notStruct (problem : PyError) :
    LinkStateUpdate.withoutHeader problem ≠ .structError := by
  unfold LinkStateUpdate.withoutHeader
  split
  · nofun
  · assumption

theorem updateFailure_notStruct (typeStop : Nat) (fatal : Nat → List Nat)
    (buf : Bytes) :
    LinkStateUpdate.updateFailure typeStop fatal buf ≠ some .structError := by
  unfold LinkStateUpdate.updateFailure
  split
  · nofun
  · intro failed
    obtain ⟨problem, _first, struct⟩ := Option.map_eq_some_iff.mp failed
    exact withoutHeader_notStruct problem struct

theorem dataFailure_notStruct (version : Version) (type : Nat) (data : Bytes) :
    dataFailure version type data ≠ some .structError := by
  unfold dataFailure
  split
  · rename_i cls _registered
    split
    · nofun
    · cases cls with
      | hello => exact headerFailure_notStruct _ _
      | dbd => exact headerFailure_notStruct _ _
      | lsr => exact (Option.some_ne_none _).symm
      | lsu => exact updateFailure_notStruct _ _ _
      | lsAck => exact (Option.some_ne_none _).symm
  · nofun

theorem summed_unpacked (version : Version) {buf : Bytes}
    (enough : version.cls.hdrLen ≤ buf.length) :
    ∃ packet, Summed.unpack version.cls buf = .ok packet ∧
      OSPFPacket.typeOf packet = beNat (cut buf 1 2) ∧
      packet.data = buf.drop version.cls.hdrLen := by
  have taken := takeHeader_eq_ok.mpr
    ⟨enough, @rfl _ (buf.take version.cls.hdrLen), @rfl _ (buf.drop _)⟩
  have two : 2 ≤ version.cls.hdrLen := by
    change 2 ≤ 12 + (2 + _)
    omega
  unfold Summed.unpack
  rw [taken, ok_bind]
  refine ⟨_, rfl, ?_, rfl⟩
  change beNat (cut (buf.take version.cls.hdrLen) 1 2) = _
  rw [cut_take two]

theorem packet_ends (version : Version) (buf : Bytes) :
    EndsAs (version.failure buf) (OSPFPacket.parse version buf) := by
  unfold Version.failure headerFailure OSPFPacket.parse
  by_cases short : buf.length < version.cls.hdrLen
  · have refused : OSPFPacket.unpack version buf = .error .structError := by
      unfold OSPFPacket.unpack Summed.unpack takeHeader
      rw [if_pos short]
      rfl
    rw [if_pos short, Option.some_or]
    exact packetInit_short refused short
  · obtain ⟨packet, unpacked, type, data⟩ :=
      summed_unpacked version (Nat.le_of_not_lt short)
    have ends := data_ends version (OSPFPacket.typeOf packet) packet.data
    have step : OSPFPacket.unpack version buf = (do
        .ok (OSPFPacket.ofSummed packet (← OSPFPacket.unpackData version
          (OSPFPacket.typeOf packet) packet.data))) := by
      unfold OSPFPacket.unpack
      rw [unpacked, ok_bind]
    rw [if_neg short, Option.none_or, ← type, ← data]
    unfold EndsAs at ends ⊢
    cases failed : dataFailure version (OSPFPacket.typeOf packet)
        packet.data with
    | some problem =>
        rw [failed] at ends
        rw [show OSPFPacket.unpackData _ _ _ = .error problem from ends] at step
        refine packetInit_passes step ?_
        intro struct
        rw [struct] at failed
        exact dataFailure_notStruct version _ _ failed
    | none =>
        rw [failed] at ends
        obtain ⟨value, parsed⟩ := ends
        rw [parsed, ok_bind] at step
        exact ⟨_, packetInit_eq_ok.mpr step⟩

theorem base_ends (buf : Bytes) :
    EndsAs (headerFailure ospf.hdrLen buf) (Summed.parse ospf buf) := by
  unfold headerFailure Summed.parse
  by_cases short : buf.length < ospf.hdrLen
  · have refused : Summed.unpack ospf buf = .error .structError := by
      unfold Summed.unpack takeHeader
      rw [if_pos short]
      rfl
    rw [if_pos short]
    exact packetInit_short refused short
  · have unpacked : ∃ packet, Summed.unpack ospf buf = .ok packet := by
      unfold Summed.unpack takeHeader
      rw [if_neg short]
      exact ⟨_, rfl⟩
    obtain ⟨packet, unpacked⟩ := unpacked
    rw [if_neg short]
    exact ⟨packet, packetInit_eq_ok.mpr unpacked⟩

/-- What `OSPF` makes of a buffer: the error that is raised, if there is one. -/
theorem OSPF.ospf_outcome (buf : Bytes) :
    match OSPF.failure buf with
    | some problem => OSPF.parse buf = .error problem
    | none => ∃ packet, OSPF.parse buf = .ok packet := by
  fun_cases OSPF.failure buf with
  | case1 rest => exact (packet_ends version3 (3 :: rest)).bind OSPF.v3
  | case2 rest => exact (packet_ends version2 (2 :: rest)).bind OSPF.v2
  | case3 _buf not3 not2 =>
      have base : OSPF.parse buf = (do
          .ok (.base (← Summed.parse ospf buf))) := by
        unfold OSPF.parse
        split
        · exact (not3 _ rfl).elim
        · exact (not2 _ rfl).elim
        · rfl
      rw [base]
      exact (base_ends buf).bind OSPF.base

/-! ### What is written -/

/-- The message has nothing left over, or is an update that is written as the
bytes that it was read from. -/
def Message.Restores {version : Version} (data : Bytes) :
    Message version → Prop
  | .hello _ _ => (data.length - version.hello.size) % 4 = 0
  | .dbd _ _ => True
  | .lsr _ => data.length % (version.typeWidth + 8) = 0
  | .lsu update => LinkStateUpdate.bytes version.lsas update = .ok data
  | .lsAck _ => data.length % 20 = 0

def OSPFPacket.Restores {version : Version} (self : OSPFPacket version)
    (buf : Bytes) : Prop :=
  match self.data with
  | .raw _ => True
  | .packet message => message.Restores (buf.drop version.cls.hdrLen)

def OSPF.Restores (buf : Bytes) : OSPF → Prop
  | .base _ => True
  | .v2 packet => packet.Restores buf
  | .v3 packet => packet.Restores buf

def OSPF.sum : OSPF → Nat
  | .base packet => packet.sum
  | .v2 packet => packet.sum
  | .v3 packet => packet.sum

theorem join_read {α : Type} {format : RecordFormat α} (isExact : format.Exact)
    (positive : 0 < format.size) {pack : α → Except PyError Bytes}
    (packs : ∀ item, format.Fits item →
      pack item = .ok (format.bytes .big item)) (data : Bytes) :
    joinBytes pack ((recordsOf positive data).map (format.read .big)) =
      .ok (recordsOf positive data).flatten := by
  obtain ⟨_rest, _split, _short, sized⟩ := recordsOf_split positive data
  apply joinBytes_chunks
  rw [List.forall₂_map_right_iff, List.forall₂_same]
  intro record member
  have length := sized record member
  rw [packs _ (format.read_fits isExact length),
    RecordFormat.bytes_read isExact length]

theorem hello_restores {version : Version} {data : Bytes}
    {message : Message version}
    (unpacked : Message.unpackHello version data = .ok message) :
    message.bytes = .ok data ↔ message.Restores data := by
  obtain ⟨⟨header, rest⟩, hdr, done⟩ := bind_eq_ok.mp unpacked
  obtain ⟨packed, enough, behind⟩ :=
    StructFormat.repacked version.hello_exact hdr
  dsimp only at done
  rw [Except.ok.injEq] at done
  have whole := recordsOf_whole_iff addressFormat_size rest
  rw [behind, List.length_drop] at whole
  rw [← done]
  unfold Message.bytes Message.Restores
  dsimp only
  have neighbors := join_read addressFormat_exact addressFormat_size
    (fun _item fits => addressFormat.pack_ok .big fits) rest
  rw [packed, ok_bind, show packAll addressFormat .big _ = _ from neighbors,
    ok_bind, Except.ok.injEq, behind]
  change _ ↔ _ % addressFormat.size = 0
  rw [← whole]
  constructor
  · intro same
    refine List.append_cancel_left (same.trans ?_)
    exact (List.take_append_drop _ _).symm
  · intro same
    rw [same, List.take_append_drop]

theorem dbd_restores {version : Version} {data : Bytes}
    {message : Message version}
    (unpacked : Message.unpackDBD version data = .ok message) :
    message.bytes = .ok data ↔ message.Restores data := by
  obtain ⟨⟨header, rest⟩, hdr, done⟩ := bind_eq_ok.mp unpacked
  obtain ⟨packed, _enough, behind⟩ :=
    StructFormat.repacked version.dbd_exact hdr
  dsimp only at done
  rw [Except.ok.injEq] at done
  rw [← done]
  refine iff_of_true ?_ trivial
  rw [Message.bytes, packed, ok_bind, behind, List.take_append_drop]

/-- A message is written as it was read when it restores what was read. -/
theorem message_restores {version : Version} {cls : MessageClass} {data : Bytes}
    {message : Message version}
    (parsed : Message.parse version cls data = .ok message) :
    message.bytes = .ok data ↔ message.Restores data := by
  cases cls with
  | hello =>
      rw [Message.parse, packetInit_eq_ok] at parsed
      exact hello_restores parsed
  | dbd =>
      rw [Message.parse, packetInit_eq_ok] at parsed
      exact dbd_restores parsed
  | lsr =>
      rw [Message.parse, packetInit_eq_ok, Message.unpackLSR, Except.ok.injEq]
        at parsed
      have positive := Request.size_pos version.typeWidth
      have requests := join_read (Request.exact version.typeWidth) positive
        (fun _item fits => RecordFormat.pack_ok _ .big fits) data
      rw [← parsed, Message.bytes, packAll, requests, Except.ok.injEq,
        recordsOf_whole_iff]
      exact Iff.rfl
  | lsu =>
      obtain ⟨update, _found, done⟩ := bind_eq_ok.mp parsed
      rw [Except.ok.injEq] at done
      rw [← done]
      exact Iff.rfl
  | lsAck =>
      rw [Message.parse, packetInit_eq_ok, Message.unpackLSAck,
        Except.ok.injEq] at parsed
      have headers := join_read version.header_exact version.header_pos
        (fun _item fits => ByteOrder.big.packHdr_ok fits) data
      rw [← parsed, Message.bytes, headers, Except.ok.injEq,
        recordsOf_whole_iff]
      change data.length % version.header.size = 0 ↔ data.length % 20 = 0
      rw [version.header_size]

/-! ### Whole packets -/

theorem drop_written {cls : SummedClass} {packet : Summed cls}
    (fits : packet.Fits) (sum : Nat) :
    (packet.written sum).drop cls.hdrLen = packet.data := by
  have front := Summed.frontBytes_length fits
  have behind := @StructValues.bytes_length .big _ _ fits.behind
  have split : packet.written sum =
      (packet.frontBytes ++ (beBytes 2 sum ++
        StructValues.bytes .big cls.behind packet.behind)) ++ packet.data := by
    unfold Summed.written Summed.rest
    simp only [List.append_assoc]
  rw [split]
  apply List.drop_left'
  rw [List.length_append, List.length_append, front, beBytes_length, behind]
  rfl

namespace OSPFPacket

variable {version : Version} {buf : Bytes} {self : OSPFPacket version}

/-- A parsed packet is the packet of its family with another data. -/
theorem parse_summed (parsed : parse version buf = .ok self) :
    ∃ packet, Summed.parse version.cls buf = .ok packet ∧
      packet.data = buf.drop version.cls.hdrLen ∧ self.sum = packet.sum ∧
      (∀ data, self.toSummed data = { packet with data }) ∧
      ∃ type, unpackData version type packet.data = .ok self.data := by
  have unpacked := packetInit_eq_ok.mp parsed
  obtain ⟨packet, read, done⟩ := bind_eq_ok.mp unpacked
  obtain ⟨data, decoded, done⟩ := bind_eq_ok.mp done
  rw [Except.ok.injEq] at done
  have enough : version.cls.hdrLen ≤ buf.length := by
    obtain ⟨_taken, took, _rest⟩ := bind_eq_ok.mp read
    exact (takeHeader_eq_ok.mp took).1
  obtain ⟨same, again, _type, behind⟩ := summed_unpacked version enough
  rw [read, Except.ok.injEq] at again
  rw [← again] at behind
  rw [← done]
  obtain ⟨⟨v, type, len, router, area, _⟩, sum, fields, raw⟩ := packet
  exact ⟨_, packetInit_eq_ok.mpr read, behind, rfl, fun _data => rfl, _,
    decoded⟩

/-- Of a packet that was read the data are written as they were read when they
restore what was read. -/
theorem dataBytes_iff (parsed : parse version buf = .ok self) :
    self.dataBytes = .ok (buf.drop version.cls.hdrLen) ↔ self.Restores buf := by
  obtain ⟨packet, _read, behind, _sum, _same, type, decoded⟩ :=
    parse_summed parsed
  rw [behind] at decoded
  unfold dataBytes Restores
  unfold unpackData at decoded
  split at decoded
  · rename_i cls _registered
    split at decoded
    · rw [Except.ok.injEq] at decoded
      rw [← decoded]
      exact iff_of_true rfl trivial
    · obtain ⟨message, found, done⟩ := bind_eq_ok.mp decoded
      rw [Except.ok.injEq] at done
      rw [← done]
      exact message_restores found
  · rw [Except.ok.injEq] at decoded
    rw [← decoded]
    exact iff_of_true rfl trivial

theorem rewritten_iff (parsed : parse version buf = .ok self) :
    (∃ filled, self.bytes = .ok (filled, buf)) ↔
      self.Restores buf ∧ (self.sum ≠ 0 ∨ inCksum buf = 0) := by
  obtain ⟨packet, read, behind, sum, same, _decoded⟩ := parse_summed parsed
  obtain ⟨fits, word, whole⟩ := Summed.written_of_parse read
  have step : self.bytes = (do
      let data ← self.dataBytes
      let (filled, out) ← ({ packet with data } : Summed version.cls).bytes
      .ok ({ self with sum := filled.sum }, out)) := by
    have fitsEmpty : ({ packet with data := [] } : Summed version.cls).Fits :=
      ⟨fits.front, fits.behind⟩
    obtain ⟨_header, packed, _done⟩ :=
      bind_eq_ok.mp (Summed.packetBytes_ok fitsEmpty word)
    unfold bytes
    simp only [same]
    rw [packed, ok_bind]
  rw [← dataBytes_iff parsed, ← behind, sum, ← Summed.bytes_buf_iff buf read]
  constructor
  · rintro ⟨filled, wrote⟩
    rw [step] at wrote
    obtain ⟨data, packed, wrote⟩ := bind_eq_ok.mp wrote
    obtain ⟨⟨next, out⟩, written, done⟩ := bind_eq_ok.mp wrote
    have fitsData : ({ packet with data } : Summed version.cls).Fits :=
      ⟨fits.front, fits.behind⟩
    dsimp only at done
    rw [Except.ok.injEq, Prod.mk.injEq] at done
    rw [done.2] at written
    have outcome := Summed.bytes_ok fitsData word
    rw [written, Except.ok.injEq, Prod.mk.injEq] at outcome
    have kept : data = packet.data := by
      rw [behind, outcome.2, drop_written fitsData]
    rw [kept] at packed written
    exact ⟨packed, next, written⟩
  · rintro ⟨packed, next, written⟩
    refine ⟨{ self with sum := next.sum }, ?_⟩
    rw [step, packed, ok_bind,
      show ({ packet with data := packet.data } : Summed version.cls).bytes =
        .ok (next, buf) from written]
    rfl

end OSPFPacket

theorem wrote_iff {α β : Type} {result : Except PyError (α × Bytes)}
    {buf : Bytes} (make : α → β) :
    (∃ filled, (do
      let (filled, out) ← result
      .ok (make filled, out)) = Except.ok (filled, buf)) ↔
        ∃ filled, result = .ok (filled, buf) := by
  constructor
  · rintro ⟨filled, wrote⟩
    obtain ⟨⟨next, out⟩, written, done⟩ := bind_eq_ok.mp wrote
    dsimp only at done
    rw [Except.ok.injEq, Prod.mk.injEq] at done
    rw [done.2] at written
    exact ⟨next, written⟩
  · rintro ⟨next, written⟩
    rw [written]
    exact ⟨make next, rfl⟩

end DpktNg.Ospf
