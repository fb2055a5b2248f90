/-
The bytes of frames: `pack_hdr` and `__bytes__` of `Ethernet` in
dpkt/ethernet.py, with those of the tags, and of `LLC` in dpkt/llc.py.
`zlib.crc32` stands in front.
-/

import DpktNg.Python.Struct
import DpktNg.Link.Ethernet

namespace DpktNg

def crcBit (crc : Nat) : Nat :=
  if crc % 2 = 1 then (crc / 2) ^^^ 0xedb88320 else crc / 2

def crcBits : Nat → Nat → Nat
  | 0, crc => crc
  | count + 1, crc => crcBits count (crcBit crc)

def crcByte (crc : Nat) (byte : UInt8) : Nat := crcBits 8 (crc ^^^ byte.toNat)

def crc32 (buf : Bytes) : Nat :=
  buf.foldl crcByte 0xffffffff ^^^ 0xffffffff

theorem crcBit_lt {crc : Nat} (word : crc < 2 ^ 32) : crcBit crc < 2 ^ 32 := by
  unfold crcBit
  split
  · exact Nat.xor_lt_two_pow (by omega) (by decide)
  · omega

theorem crcBits_lt {count crc : Nat} (word : crc < 2 ^ 32) :
    crcBits count crc < 2 ^ 32 := by
  induction count generalizing crc with
  | zero => exact word
  | succ count ih => exact ih (crcBit_lt word)

theorem crcByte_lt {crc : Nat} {byte : UInt8} (word : crc < 2 ^ 32) :
    crcByte crc byte < 2 ^ 32 := by
  have small := byte.toNat_lt
  exact crcBits_lt (Nat.xor_lt_two_pow word (by omega))

theorem crc32_lt (buf : Bytes) : crc32 buf < 2 ^ 32 := by
  have folded : ∀ (rest : Bytes) (crc : Nat), crc < 2 ^ 32 →
      rest.foldl crcByte crc < 2 ^ 32 := by
    intro rest
    induction rest with
    | nil =>
        intro crc word
        exact word
    | cons byte rest ih =>
        intro crc word
        exact ih _ (crcByte_lt word)
  exact Nat.xor_lt_two_pow (folded buf _ (by decide)) (by decide)

/-- The check value of the polynomial. -/
example : crc32 (asciiBytes "123456789") = 0xcbf43926 := by decide +kernel

end DpktNg

namespace DpktNg.Link

open Library

/-- `bytes`, `len` and `_typesw_rev` for packets. -/
structure Serialisers (Other : Type) where
  bytes : Packet Other → Except PyError Bytes
  size : Packet Other → Except PyError Nat
  typeswRev : Packet Other → Option Nat
  bytes_raw : ∀ data, bytes (.raw data) = .ok data
  size_raw : ∀ data, size (.raw data) = .ok data.length

/-- `isinstance(data, dpkt.Packet)` -/
def isPacket {Other : Type} : Packet Other → Bool
  | .raw _ => false
  | _ => true

def VLANtag8021Q.packHdr (self : VLANtag8021Q) : Except PyError Bytes :=
  DpktNg.packHdr [(2, self.priCfiId), (2, self.type)]

def VLANtagISL.packHdr (self : VLANtagISL) : Except PyError Bytes := do
  let typePri ← DpktNg.packHdr [(1, self.typePri)]
  let len ← DpktNg.packHdr [(2, self.len)]
  let rest ← DpktNg.packHdr [(2, self.idBpdu), (2, self.indx), (2, self.res)]
  .ok (packString 5 self.da ++ typePri ++ packString 6 self.sa ++ len ++
    packString 3 self.snap ++ packString 3 self.hsa ++ rest)

def MPLSlabel.packHdr (self : MPLSlabel) : Except PyError Bytes :=
  DpktNg.packHdr [(4, self.valExpSTtl)]

/-- The assignment `label.s = flag` of 0 or 1. -/
def MPLSlabel.setS (self : MPLSlabel) (flag : Nat) : MPLSlabel :=
  { valExpSTtl := flag * 2 ^ 8 + (self.valExpSTtl - self.s * 2 ^ 8) }

def VlanTag.packHdr : VlanTag → Except PyError Bytes
  | .dot1q tag => tag.packHdr
  | .isl tag => tag.packHdr

/-- The assignment `tag.type = type`, where the type of an ISL tag has four
bits. -/
def VlanTag.setType (type : Nat) : VlanTag → Except PyError VlanTag
  | .dot1q tag => .ok (.dot1q { tag with type })
  | .isl tag =>
      if type ≥ 16 then
        .error (.other "ValueError" ("value ".toList ++ decimal type ++
          " is too large for field type".toList))
      else .ok (.isl { tag with typePri := type * 16 + tag.typePri % 16 })

def VlanTag.isDot1q : VlanTag → Bool
  | .dot1q _ => true
  | .isl _ => false

/-- `b''.join(entry.pack_hdr() for entry in entries)` -/
def joinHdrs {Entry : Type} (packHdr : Entry → Except PyError Bytes) :
    List Entry → Except PyError Bytes
  | [] => .ok []
  | entry :: rest => do .ok ((← packHdr entry) ++ (← joinHdrs packHdr rest))

/-- No other class is registered. -/
def noOthers : Others Empty where
  typesw _ := none
  protosw _ := none
  ipx _ := .error .typeError
  stp _ := .error .typeError
  isis _ := .error .typeError

/-- Where there are no packets of other classes, and none but raw data is
written. -/
def rawSerialisers : Serialisers Empty where
  bytes
    | .raw data => .ok data
    | _ => .error .typeError
  size
    | .raw data => .ok data.length
    | _ => .error .typeError
  typeswRev _ := none
  bytes_raw _ := rfl
  size_raw _ := rfl

section Frames

variable {Other : Type} (serialisers : Serialisers Other)

def LLC.isSnap (self : LLC (Packet Other)) : Bool :=
  self.dsap = self.ssap ∧ self.ssap = 0xaa

def LLC.packHdr (self : LLC (Packet Other)) : Except PyError Bytes := do
  let buf ← DpktNg.packHdr [(1, self.dsap), (1, self.ssap), (1, self.ctl)]
  if self.isSnap then do
    let oui := self.oui.getD 0
    let type := self.type.getD 0
    let type :=
      if type = 0 ∧ isPacket self.data then
        (serialisers.typeswRev self.data).getD type
      else type
    let snap ← packFields [(4, oui), (2, type)]
    .ok (buf ++ snap.drop 1)
  else .ok buf

def LLC.bytes (self : LLC (Packet Other)) : Except PyError Bytes := do
  .ok ((← self.packHdr serialisers) ++ (← serialisers.bytes self.data))

def LLC.size (self : LLC (Packet Other)) : Except PyError Nat := do
  .ok (3 + (if self.isSnap then 5 else 0) + (← serialisers.size self.data))

def dataBytes (data : Packet Other) : Except PyError Bytes :=
  match data with
  | .llc packet => packet.bytes serialisers
  | other => serialisers.bytes other

/-- The tags in front of the data, the type of the header, and whether ISL
wraps the frame. -/
def Ethernet.packTags (self : Ethernet (Packet Other)) :
    Except PyError (Bytes × Nat × Bool) :=
  if self.mplsLabels ≠ [] then do
    let labels := self.mplsLabels.dropLast.map (MPLSlabel.setS · 0) ++
      (self.mplsLabels.getLast?.map (MPLSlabel.setS · 1)).toList
    let newType := if self.type ∈ ethTypesMpls then self.type else ethTypeMpls
    .ok (← joinHdrs MPLSlabel.packHdr labels, newType, false)
  else
    let lastTagType :=
      if isPacket self.data then
        (serialisers.typeswRev self.data).getD self.type
      else self.type
    match self.vlanTags with
    | [] =>
        .ok ([],
          if isPacket self.data then
            (serialisers.typeswRev self.data).getD self.type
          else self.type,
          false)
    | [.dot1q t1] => do
        let newType :=
          if self.type ∈ ethTypesQinQ then self.type else ethType8021Q
        let t1 ← VlanTag.setType lastTagType (.dot1q t1)
        .ok (← joinHdrs VlanTag.packHdr [t1], newType, false)
    | [.isl t1] => do
        let t1 ← VlanTag.setType 0 (.isl t1)
        .ok (← joinHdrs VlanTag.packHdr [t1], self.type, true)
    | [t1, t2] =>
        if t1.isDot1q ∧ t2.isDot1q then do
          let t1 ← t1.setType ethType8021Q
          let newType :=
            if self.type ∈ ethTypesQinQ then self.type else ethType8021AD
          let t2 ← t2.setType lastTagType
          .ok (← joinHdrs VlanTag.packHdr [t1, t2], newType, false)
        else do
          let t2 ← t2.setType lastTagType
          .ok (← joinHdrs VlanTag.packHdr [t1, t2], self.type, false)
    | _ => .error (.packError
        "maximum is 2 VLAN tags per Ethernet frame".toList)

def Ethernet.packHdr (self : Ethernet (Packet Other)) :
    Except PyError Bytes := do
  let (tagsBuf, newType, isIsl) ← self.packTags serialisers
  let newType ←
    (match self.data with
    | .llc packet => packet.size serialisers
    | _ => .ok newType)
  let _own ← DpktNg.packHdr [(2, self.type)]
  let type ← packBe 2 newType
  let hdrBuf := packString 6 self.dst ++ packString 6 self.src ++ type
  .ok (if isIsl then tagsBuf ++ hdrBuf else hdrBuf ++ tagsBuf)

/-- The frame in front of the FCS, without an ISL header. -/
def Ethernet.fcsBuf (self : Ethernet (Packet Other)) :
    Except PyError Bytes := do
  let buf := (← self.packHdr serialisers) ++
    (← dataBytes serialisers self.data)
  let buf :=
    match self.vlanTags with
    | .isl _ :: _ => buf.drop 26
    | _ => buf
  .ok (buf ++ self.padding)

/-- The FCS that is written, which stands in for one that is zero. -/
def Ethernet.writtenFcs (self : Ethernet (Packet Other)) :
    Except PyError Bytes :=
  match self.fcs with
  | none => .ok []
  | some fcs =>
      if fcs ≠ 0 then packBe 4 fcs
      else do
        let revcrc := crc32 (← self.fcsBuf serialisers)
        .ok (beBytes 4 revcrc).reverse

def Ethernet.bytes (self : Ethernet (Packet Other)) :
    Except PyError Bytes := do
  let tail ←
    (match self.data with
    | .llc _ => do
        let fcs ← self.writtenFcs serialisers
        .ok (self.padding ++ fcs ++ self.trailer)
    | _ => .ok [])
  let hdr ← self.packHdr serialisers
  let data ← dataBytes serialisers self.data
  .ok (hdr ++ data ++ tail)

end Frames

end DpktNg.Link
