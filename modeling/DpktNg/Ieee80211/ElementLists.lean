/-
Lists of information elements: the registries of dpkt/ieee80211_ie.py, and
`unpack_ies`, which makes one object of each element.
-/

import DpktNg.Ieee80211.Elements
import DpktNg.Library.Dict
import DpktNg.Packet.TypeLength

namespace DpktNg.Ieee80211

open Library TypeLengthValue

structure IE where
  cls : IeClass
  id : Nat
  len : Nat
  info : Bytes
  data : Bytes
  attributes : IeAttributes
deriving DecidableEq, Repr

def IE.unpack (cls : IeClass) (buf : Bytes) : Except PyError IE := do
  let header ← ByteOrder.little.unpackHdr [1, 1] buf
  let len := header.getD 1 0
  let info := cut buf 2 (2 + len)
  let attributes ← cls.unpackInfo info
  .ok { cls, id := header.getD 0 0, len, info, data := [], attributes }

def IE.init (cls : IeClass) (buf : Bytes) : Except PyError IE :=
  packetInit cls.name (some 2) (IE.unpack cls) buf

structure Registries where
  ie : Dict Nat IeClass
  ext : Dict Nat IeClass

namespace Registries

def registerIe (registries : Registries) (ieId : Nat) (ieCls : IeClass)
    (extId : Option Nat) : Registries :=
  match extId with
  | some extId => { registries with ext := registries.ext.set extId ieCls }
  | none => { registries with ie := registries.ie.set ieId ieCls }

def getIeParser (registries : Registries) (ieId : Nat) (extId : Option Nat) :
    IeClass :=
  match extId with
  | some extId =>
      if ieId = 255 then (registries.ext.get? extId).getD .base
      else (registries.ie.get? ieId).getD .base
  | none => (registries.ie.get? ieId).getD .base

end Registries

/-- The calls of `register_ie` when the module is loaded. -/
def registered : List (Nat × IeClass × Option Nat) :=
  [(45, .htCapability, none), (61, .htInfo, none), (191, .vhtCapability, none),
    (192, .vhtOperation, none), (42, .erp, none), (48, .rsn, none),
    (127, .extCap, none), (7, .country, none), (221, .wmm, none),
    (255, .heCapability, some 35), (255, .heOperation, some 36),
    (255, .heSpatialReuse, some 37), (255, .heBssColorChange, some 38),
    (255, .heTwt, some 39), (255, .he6GhzBand, some 32),
    (255, .heMcsNss, some 33), (255, .ehtCapability, some 106),
    (255, .ehtOperation, some 107), (255, .ehtTidLink, some 108),
    (255, .mlElement, some 101)]

/-- `_ie_registry` and `_ext_ie_registry` -/
def loaded : Registries :=
  registered.foldl
    (fun registries call => registries.registerIe call.1 call.2.1 call.2.2)
    { ie := .empty, ext := .empty }

/-- The object that the loop makes at an offset. -/
def ieAt (registries : Registries) (buf : Bytes) (off ieLen : Nat) :
    Except PyError IE := do
  let ieId ← byteAt buf off
  let buf' := cut buf off (off + 2 + ieLen)
  if ieId = 255 ∧ 1 ≤ ieLen then do
    let extId ← byteAt buf (off + 2)
    IE.init (registries.getIeParser ieId (some extId)) buf'
  else IE.init (registries.getIeParser ieId none) buf'

def unpackIes (registries : Registries) (buf : Bytes) :
    Except PyError (List IE) :=
  recordsFrom (ieAt registries) buf 0

section Elements

variable (registries : Registries) (element : TypeLengthValue)

/-- The class that is registered for the id of an element, or for the extension
id, with which the information of an element 255 begins. -/
def classFor : IeClass :=
  if element.type = 255 then
    match element.value with
    | [] => (registries.ie.get? 255).getD .base
    | extId :: _ => (registries.ext.get? extId.toNat).getD .base
  else (registries.ie.get? element.type.toNat).getD .base

/-- The object says what the element says, and has its class. -/
structure Describes (element : TypeLengthValue) (ie : IE) : Prop where
  cls : ie.cls = classFor registries element
  id : ie.id = element.type.toNat
  len : ie.len = element.value.length
  info : ie.info = element.value

variable {registries} {element}

theorem header_encoded :
    ByteOrder.little.unpackHdr [1, 1] element.encoded =
      .ok [element.type.toNat, element.value.length] := by
  have bytes : element.encoded =
      ByteOrder.little.fieldBytes
        [(1, element.type.toNat), (1, element.value.length)] ++
          element.value := by
    change _ = UInt8.ofNat element.type.toNat ::
      UInt8.ofNat element.value.length :: element.value
    rw [UInt8.ofNat_toNat]
    rfl
  have fits : FieldsFit
      [(1, element.type.toNat), (1, element.value.length)] :=
    fieldsFit_cons.mpr ⟨element.type.toNat_lt,
      fieldsFit_cons.mpr ⟨element.short, fieldsFit_nil⟩⟩
  rw [bytes]
  exact ByteOrder.little.unpackHdr_fieldBytes fits element.value

theorem init_encoded (cls : IeClass) (element : TypeLengthValue) :
    ∃ ie, IE.init cls element.encoded = .ok ie ∧ ie.cls = cls ∧
      ie.id = element.type.toNat ∧ ie.len = element.value.length ∧
      ie.info = element.value := by
  obtain ⟨attributes, unpacked⟩ := cls.unpackInfo_returns element.value
  refine ⟨
    { cls, id := element.type.toNat, len := element.value.length
      info := element.value, data := [], attributes },
    packetInit_eq_ok.mpr ?_, rfl, rfl, rfl, rfl⟩
  unfold IE.unpack
  rw [header_encoded, ok_bind]
  simp only [List.getD_cons_succ, List.getD_cons_zero]
  rw [element.cut_value, unpacked]
  rfl

theorem ieAt_encoded (front behind : Bytes) :
    ieAt registries (front ++ (element.encoded ++ behind)) front.length
        element.value.length =
      IE.init (classFor registries element) element.encoded := by
  have extended : element.type = 255 ↔ element.type.toNat = 255 :=
    UInt8.toNat_inj.symm
  unfold ieAt classFor
  rw [byteAt_type, ok_bind, cut_record]
  dsimp only
  by_cases type : element.type = 255
  · rw [if_pos type]
    cases value : element.value with
    | nil =>
        rw [if_neg (by simp), extended.mp type]
        rfl
    | cons extId rest =>
        have read : byteAt (front ++ (element.encoded ++ behind))
            (front.length + 2) = .ok extId.toNat := by
          rw [byteAt_place]
          unfold encoded
          rw [value]
          rfl
        rw [if_pos ⟨extended.mp type, Nat.succ_pos _⟩, read, ok_bind,
          extended.mp type]
        rfl
  · have other : ¬element.type.toNat = 255 := fun same =>
      type (extended.mpr same)
    rw [if_neg type, if_neg fun both => other both.1]
    rfl

theorem exists_ie (element : TypeLengthValue) :
    ∃ ie, ReadsRecord (ieAt registries) element ie ∧
      Describes registries element ie := by
  obtain ⟨ie, made, cls, id, len, info⟩ :=
    init_encoded (classFor registries element) element
  refine ⟨ie, ?_, ⟨cls, id, len, info⟩⟩
  intro front behind
  rw [ieAt_encoded]
  exact made

end Elements

/-- Elements in front of a rest without a whole element are taken apart, each
with the class that is registered for it. -/
theorem unpackIes_elements (registries : Registries)
    (elements : List TypeLengthValue) (tail : Bytes)
    (incomplete : CutShort tail) :
    ∃ ies, unpackIes registries (encodedAll elements ++ tail) = .ok ies ∧
      List.Forall₂ (Describes registries) elements ies := by
  obtain ⟨ies, all⟩ := exists_items exists_ie elements
  refine ⟨ies, ?_, all.imp fun _element _ie both => both.2⟩
  exact recordsFrom_encoded (all.imp fun _element _ie both => both.1)
    incomplete []

section Examples

def beaconElements : List TypeLengthValue :=
  [{ type := 7, value := [85, 83, 32, 1, 11, 200]
     short := Nat.le_of_ble_eq_true rfl },
    { type := 0, value := [97], short := Nat.le_of_ble_eq_true rfl },
    { type := 255, value := [38, 5], short := Nat.le_of_ble_eq_true rfl }]

theorem beacon_cutShort : CutShort [48, 2, 1] :=
  cutShort_of_stops (Cutter.ofHeader_eq_none.mpr
    (Or.inr (Or.inr (Nat.le_of_ble_eq_true rfl))))

theorem unpackIes_elements_beacon :
    ∃ ies, unpackIes loaded (encodedAll beaconElements ++ [48, 2, 1]) =
        .ok ies ∧
      List.Forall₂ (Describes loaded) beaconElements ies :=
  unpackIes_elements loaded beaconElements [48, 2, 1] beacon_cutShort

end Examples

end DpktNg.Ieee80211
