/-
Messages of the GPRS tunnelling protocol, dpkt/gtp.py: `GTP`, which chooses the
version, with `GTPv1`, `GTPv2` and their information elements.
-/

import DpktNg.Python.Loops
import DpktNg.Python.StructFormat

namespace DpktNg.Gtp

open Library

inductive IeClass where
  | generic
  | imsi
  | apn
  | fteid
  | pdnType
  | ambr
deriving DecidableEq, Repr

def v1IeSw : List (Nat × IeClass) :=
  [(1, .imsi), (71, .apn), (99, .pdnType), (72, .ambr), (87, .fteid)]

def v2IeSw : List (Nat × IeClass) :=
  [(1, .imsi), (71, .apn), (99, .pdnType), (87, .fteid), (72, .ambr),
    (93, .generic)]

/-- What `GTPFTEIDIE` reads of a value that is long enough. -/
structure Fteid where
  iface : Nat
  v4 : Nat
  v6 : Nat
  teid : Nat
  ipv4 : Bytes
  ipv6 : Bytes
deriving DecidableEq, Repr

/-- The attributes that a class adds, `none` where the value is too short for
them. -/
inductive IeFields where
  | generic
  | imsi (imsi : Option Bytes)
  | apn (apn : Bytes)
  | fteid (fteid : Option Fteid)
  | pdnType (pdnType : Option Nat)
  | ambr (uplinkDownlink : Option (Nat × Nat))
deriving DecidableEq, Repr

def Fteid.unpack (value : Bytes) : Except PyError Fteid := do
  let flags ← byteAt value 0
  let teid ← unpackBe 4 (cut value 1 5)
  let v4 := flags >>> 4 &&& 1
  let v6 := flags >>> 5 &&& 1
  let v4AddrLen := if v4 ≠ 0 then 4 else 0
  let v6AddrLen := if v6 ≠ 0 then 16 else 0
  .ok
    { iface := flags &&& 0x0f
      v4
      v6
      teid
      ipv4 := cut value 5 (5 + v4AddrLen)
      ipv6 := cut value (5 + v4AddrLen) (5 + v4AddrLen + v6AddrLen) }

/-- What `unpack` of the class does with the value. -/
def IeClass.fields (cls : IeClass) (value : Bytes) :
    Except PyError IeFields :=
  match cls with
  | .generic => .ok .generic
  | .imsi => .ok (.imsi (if value ≠ [] then some value else none))
  | .apn => .ok (.apn value)
  | .fteid =>
      if value.length ≥ 9 then do .ok (.fteid (some (← Fteid.unpack value)))
      else .ok (.fteid none)
  | .pdnType =>
      if value ≠ [] then do .ok (.pdnType (some (← byteAt value 0)))
      else .ok (.pdnType none)
  | .ambr =>
      if value.length ≥ 8 then do
        let uplink ← unpackBe 4 (cut value 0 4)
        let downlink ← unpackBe 4 (cut value 4 8)
        .ok (.ambr (some (uplink, downlink)))
      else .ok (.ambr none)

structure GTPIE where
  type : Nat
  length : Nat
  value : Bytes
  v2 : Bool
  fields : IeFields
deriving DecidableEq, Repr

namespace GTPIE

def lengthWidth (v2 : Bool) : Nat := if v2 then 2 else 1

def hdrLen (v2 : Bool) : Nat := 1 + lengthWidth v2

def unpackLength (v2 : Bool) (buf : Bytes) : Except PyError Nat :=
  if v2 then unpackBe 2 (cut buf 1 3) else byteAt buf 1

def parse (v2 : Bool) (buf : Bytes) : Except PyError GTPIE := do
  let type ← byteAt buf 0
  let cls := ((if v2 then v2IeSw else v1IeSw).lookup type).getD .generic
  let length ← unpackLength v2 buf
  let value := cut buf (hdrLen v2) (hdrLen v2 + length)
  let fields ← cls.fields value
  .ok { type, length, value, v2, fields }

def bytes (self : GTPIE) : Except PyError Bytes := do
  let hdr ← packFields [(1, self.type), (lengthWidth self.v2, self.length)]
  .ok (hdr ++ self.value)

/-- How far the loop of `parse_ies` moves on behind an element. -/
def step (v2 : Bool) (self : GTPIE) : Nat := self.length + hdrLen v2

theorem step_pos (v2 : Bool) (self : GTPIE) : 0 < self.step v2 := by
  unfold step hdrLen
  omega

end GTPIE

def parseIes (v2 : Bool) : Bytes → Except PyError (List GTPIE) :=
  parseAll (GTPIE.parse v2) (GTPIE.step v2) (GTPIE.step_pos v2)

/-- `GTPV1_F_S` -/
def flagS : Nat := 0x02

/-- `GTPV1_F_PN` -/
def flagPN : Nat := 0x01

/-- `GTPV1_F_E` -/
def flagE : Nat := 0x04

/-- `GTPV1_F_PT` -/
def flagPT : Nat := 0x10

structure GTPv1Header where
  flagsMsg : Nat
  type : Nat
  length : Nat
  teid : Nat
deriving DecidableEq, Repr

def GTPv1Header.format : StructFormat GTPv1Header where
  items := [.int 1, .int 1, .int 2, .int 4]
  values header :=
    (header.flagsMsg, header.type, header.length, header.teid, ())
  ofValues := fun (flagsMsg, type, length, teid, _) =>
    { flagsMsg, type, length, teid }
  ofValues_values _ := rfl

/-- An optional field is there when its flag is set; elements are there in a
control message. -/
structure GTPv1 where
  header : GTPv1Header
  seq : Option Nat
  npdu : Option Nat
  nextExt : Option Nat
  ies : Option (List GTPIE)
  data : Bytes
deriving DecidableEq, Repr

section

variable (flags flag : Nat)

def optionalSize (size : Nat) : Nat := if flags &&& flag ≠ 0 then size else 0

def takeOptional (read : Except PyError Nat) : Except PyError (Option Nat) :=
  if flags &&& flag ≠ 0 then do .ok (some (← read)) else .ok none

/-- A field without a value is written as zero. -/
def packOptional (width : Nat) (value : Option Nat) : Except PyError Bytes :=
  if flags &&& flag ≠ 0 then packBe width (value.getD 0) else .ok []

end

namespace GTPv1

def isControl (flags : Nat) : Prop := flags &&& flagPT ≠ 0

instance (flags : Nat) : Decidable (isControl flags) :=
  inferInstanceAs (Decidable (flags &&& flagPT ≠ 0))

def optLen (flags : Nat) : Nat :=
  optionalSize flags flagS 2 + optionalSize flags flagPN 1 +
    optionalSize flags flagE 1

def unpack (buf : Bytes) : Except PyError GTPv1 := do
  let (header, data) ← GTPv1Header.format.unpackHdr .big buf
  let flags := header.flagsMsg
  let npduOff := optionalSize flags flagS 2
  let extOff := npduOff + optionalSize flags flagPN 1
  let seq ← takeOptional flags flagS (unpackBe 2 (cut data 0 2))
  let npdu ← takeOptional flags flagPN (byteAt data npduOff)
  let nextExt ← takeOptional flags flagE (byteAt data extOff)
  if isControl flags then do
    let ies ← parseIes false (data.drop (optLen flags))
    .ok { header, seq, npdu, nextExt, ies := some ies, data }
  else
    .ok
      { header, seq, npdu, nextExt, ies := none
        data := data.drop (optLen flags) }

def parse (buf : Bytes) : Except PyError GTPv1 :=
  packetInit "GTPv1" (some GTPv1Header.format.size) unpack buf

def size (self : GTPv1) : Nat :=
  GTPv1Header.format.size + optLen self.header.flagsMsg + self.data.length

def bytes (self : GTPv1) : Except PyError Bytes := do
  let flags := self.header.flagsMsg
  let hdr ← GTPv1Header.format.packHdr .big self.header
  let seq ← packOptional flags flagS 2 self.seq
  let npdu ← packOptional flags flagPN 1 self.npdu
  let nextExt ← packOptional flags flagE 1 self.nextExt
  .ok (hdr ++ (seq ++ npdu ++ nextExt) ++ self.data)

end GTPv1

structure GTPv2Header where
  flagsMsg : Nat
  type : Nat
  length : Nat
  teid : Nat
  seq : Bytes
  spare : Nat
deriving DecidableEq, Repr

def GTPv2Header.format : StructFormat GTPv2Header where
  items := [.int 1, .int 1, .int 2, .int 4, .str 3, .int 1]
  values header :=
    (header.flagsMsg, header.type, header.length, header.teid, header.seq,
      header.spare, ())
  ofValues := fun (flagsMsg, type, length, teid, seq, spare, _) =>
    { flagsMsg, type, length, teid, seq, spare }
  ofValues_values _ := rfl

/-- The bytes behind the header are kept as elements only. -/
structure GTPv2 where
  header : GTPv2Header
  ies : List GTPIE
deriving DecidableEq, Repr

namespace GTPv2

def unpack (buf : Bytes) : Except PyError GTPv2 := do
  let (header, data) ← GTPv2Header.format.unpackHdr .big buf
  let ies ← parseIes true data
  .ok { header, ies }

def parse (buf : Bytes) : Except PyError GTPv2 :=
  packetInit "GTPv2" (some GTPv2Header.format.size) unpack buf

def size (self : GTPv2) : Except PyError Nat := do
  let ieData ← joinBytes GTPIE.bytes self.ies
  .ok (GTPv2Header.format.size + ieData.length)

def bytes (self : GTPv2) : Except PyError Bytes := do
  let ieData ← joinBytes GTPIE.bytes self.ies
  .ok ((← GTPv2Header.format.packHdr .big self.header) ++ ieData)

end GTPv2

inductive GTP where
  | v1 (packet : GTPv1)
  | v2 (packet : GTPv2)
deriving DecidableEq, Repr

namespace GTP

/-- The version that `__new__` finds in the first byte. -/
def version (first : Nat) : Nat := first >>> 5 &&& 7

def parse (buf : Bytes) : Except PyError GTP :=
  match buf with
  | [] => .error .attributeError
  | first :: _ =>
      if version first.toNat = 2 then do .ok (.v2 (← GTPv2.parse buf))
      else if version first.toNat = 1 then do .ok (.v1 (← GTPv1.parse buf))
      else .error .attributeError

/-- The elements of a packet that has them. -/
def ies : GTP → List GTPIE
  | .v1 packet => packet.ies.getD []
  | .v2 packet => packet.ies

def size : GTP → Except PyError Nat
  | .v1 packet => .ok packet.size
  | .v2 packet => packet.size

def bytes : GTP → Except PyError Bytes
  | .v1 packet => packet.bytes
  | .v2 packet => packet.bytes

end GTP

end DpktNg.Gtp
