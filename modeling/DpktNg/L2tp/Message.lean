/-
Messages of dpkt/l2tp.py: attribute value pairs, their classes, the header and
the control messages; then pairs as they are encoded, and where the parser finds
them.
-/

import DpktNg.Python.StructFormat

namespace DpktNg.L2tp

open Library

/-! ### Attribute value pairs -/

structure L2TPAVP where
  m : Nat
  h : Nat
  length : Nat
  vendor : Nat
  type : Nat
  value : Bytes
deriving DecidableEq, Repr

inductive AVPClass where
  | generic
  | msgType
  | resultCode
  | protoVer
  | assignedTunnel
  | assignedSession
  | callSerial
  | hostName
  | vendorName
  | framingCap
  | bearerCap
  | tieBreaker
  | firmwareRev
  | receiveWindow
  | challenge
  | challengeResp
  | callingNumber
deriving DecidableEq, Repr

/-- What a class reads from the value. -/
inductive AVPRead where
  | none
  /-- An integer of some bytes, of a value that has at least as many as needed -/
  | number (needed width : Nat)
  /-- The bytes in front, if there are that many -/
  | slice (size : Nat)
  /-- The value itself -/
  | whole
deriving DecidableEq, Repr

def AVPClass.reads : AVPClass → String × AVPRead
  | .generic => ("", .none)
  | .msgType => ("msg_type", .number 2 2)
  | .resultCode => ("result", .number 4 2)
  | .protoVer => ("version", .number 2 2)
  | .assignedTunnel => ("tunnel_id", .number 2 2)
  | .assignedSession => ("session_id", .number 2 2)
  | .callSerial => ("serial", .number 4 4)
  | .hostName => ("hostname", .whole)
  | .vendorName => ("vendor_name", .whole)
  | .framingCap => ("caps", .number 4 4)
  | .bearerCap => ("caps", .number 4 4)
  | .tieBreaker => ("tie", .slice 8)
  | .firmwareRev => ("rev", .number 2 2)
  | .receiveWindow => ("window", .number 2 2)
  | .challenge => ("challenge", .whole)
  | .challengeResp => ("response", .whole)
  | .callingNumber => ("number", .whole)

inductive AVPAttr where
  | number (value : Nat)
  | bytes (value : Bytes)
deriving DecidableEq, Repr

/-- The attribute, unless the value is too short for it. -/
def AVPRead.attr (value : Bytes) : AVPRead → Option AVPAttr
  | .none => Option.none
  | .number needed width =>
      if value.length ≥ needed then some (.number (beNat (cut value 0 width)))
      else Option.none
  | .slice size =>
      if value.length ≥ size then some (.bytes (cut value 0 size))
      else Option.none
  | .whole => some (.bytes value)

/-- A pair with its class and the attribute that the class adds. -/
structure TypedAVP extends L2TPAVP where
  cls : AVPClass
  attr : Option AVPAttr
deriving DecidableEq, Repr

def L2TPAVP.unpack (buf : Bytes) : Except PyError L2TPAVP := do
  let flags ← unpackBe 2 (cut buf 0 2)
  let length := flags &&& 0x3ff
  let vendor ← unpackBe 2 (cut buf 2 4)
  let type ← unpackBe 2 (cut buf 4 6)
  .ok
    { m := flags >>> 15 &&& 1
      h := flags >>> 14 &&& 1
      length
      vendor
      type
      value := if length ≥ 6 then cut buf 6 length else [] }

def TypedAVP.ofAVP (cls : AVPClass) (avp : L2TPAVP) : TypedAVP :=
  { avp with cls, attr := cls.reads.2.attr avp.value }

/-- `cls(buf)`, on bytes that are not empty -/
def TypedAVP.parse (cls : AVPClass) (buf : Bytes) : Except PyError TypedAVP := do
  .ok (.ofAVP cls (← L2TPAVP.unpack buf))

def avpSw : List (Nat × AVPClass) :=
  [(0, .msgType), (1, .resultCode), (2, .protoVer), (7, .hostName),
    (3, .framingCap), (4, .bearerCap), (5, .tieBreaker), (6, .firmwareRev),
    (8, .vendorName), (9, .assignedTunnel), (10, .receiveWindow),
    (11, .challenge), (13, .challengeResp), (14, .assignedSession),
    (15, .callSerial), (22, .callingNumber)]

def getAvpParser (vendor avpType : Nat) : AVPClass :=
  if vendor ≠ 0 then .generic else (avpSw.lookup avpType).getD .generic

/-- `parse_avps`, where `off` is what has been dropped from the buffer. -/
def parseAvps (buf : Bytes) : Except PyError (List TypedAVP) :=
  if 6 ≤ buf.length then do
    let flags ← unpackBe 2 (cut buf 0 2)
    let avpLen := flags &&& 0x3ff
    if avpLen < 6 ∨ avpLen > buf.length then .ok []
    else do
      let vendor ← unpackBe 2 (cut buf 2 4)
      let avpType ← unpackBe 2 (cut buf 4 6)
      let avp ← TypedAVP.parse (getAvpParser vendor avpType) (cut buf 0 avpLen)
      let avps ← parseAvps (buf.drop avpLen)
      .ok (avp :: avps)
  else .ok []
termination_by buf.length
decreasing_by
  rw [List.length_drop]
  omega

/-! ### Messages -/

structure L2TPHeader where
  flags : Nat
  length : Nat
  tunnelId : Nat
  sessionId : Nat
deriving DecidableEq, Repr

def L2TPHeader.format : StructFormat L2TPHeader where
  items := [.int 2, .int 2, .int 2, .int 2]
  values header :=
    (header.flags, header.length, header.tunnelId, header.sessionId, ())
  ofValues := fun (flags, length, tunnelId, sessionId, _) =>
    { flags, length, tunnelId, sessionId }
  ofValues_values _ := rfl

def flagBit (flags shift : Nat) : Bool := flags >>> shift &&& 1 = 1

def isControl (flags : Nat) : Bool := flagBit flags 15

/-- The packet that a control message has as its data. -/
structure L2TPControl where
  className : String
  avps : List TypedAVP
  msgType : Option Nat
deriving DecidableEq, Repr

def msgSw : List (Nat × String) :=
  [(1, "L2TPSCCRQ"), (2, "L2TPSCCRP"), (3, "L2TPSCCCN"), (4, "L2TPStopCCN"),
    (6, "L2TPHello"), (7, "L2TPOCRQ"), (8, "L2TPOCRP"), (9, "L2TPOCCN"),
    (10, "L2TPICRQ"), (11, "L2TPICRP"), (12, "L2TPICCN"), (14, "L2TPCDN"),
    (15, "L2TPWEN"), (16, "L2TPSLI")]

/-- `msg_type` of the first pair of its class.  A pair without that attribute
raises `AttributeError`. -/
def findMsgType : List TypedAVP → Except PyError (Option Nat)
  | [] => .ok none
  | avp :: rest =>
      if avp.cls = .msgType then
        match avp.attr with
        | some (.number msgType) => .ok (some msgType)
        | _ => .error .attributeError
      else findMsgType rest

inductive L2TPData where
  | raw (payload : Bytes)
  | control (message : L2TPControl)
deriving DecidableEq, Repr

/-- A data message has no attributes `ns`, `nr` and `avps`. -/
structure L2TP extends L2TPHeader where
  ns : Option Nat
  nr : Option Nat
  avps : Option (List TypedAVP)
  data : L2TPData
deriving DecidableEq, Repr

namespace L2TP

def unpackControl (header : L2TPHeader) (data : Bytes) : Except PyError L2TP :=
  if data.length < 4 then
    .error (.needData "insufficient control payload".toList)
  else do
    let ns ← unpackBe 2 (cut data 0 2)
    let nr ← unpackBe 2 (cut data 2 4)
    let avps ← parseAvps (data.drop 4)
    let msgType ← findMsgType avps
    let className :=
      (msgType.bind fun number => msgSw.lookup number).getD "L2TPControl"
    .ok
      { header with
        ns := some ns
        nr := some nr
        avps := some avps
        data := .control { className, avps, msgType } }

def unpack (buf : Bytes) : Except PyError L2TP := do
  let (header, data) ← L2TPHeader.format.unpackHdr .big buf
  if isControl header.flags then unpackControl header data
  else
    .ok { header with ns := none, nr := none, avps := none, data := .raw data }

def parse (buf : Bytes) : Except PyError L2TP :=
  packetInit "L2TP" (some L2TPHeader.format.size) unpack buf

end L2TP

namespace L2TPAVP

/-- The first word of a pair, with the reserved bits clear. -/
def flags (avp : L2TPAVP) : Nat := avp.m * 2 ^ 15 + avp.h * 2 ^ 14 + avp.length

def content (avp : L2TPAVP) : Bytes :=
  beBytes 2 avp.vendor ++ (beBytes 2 avp.type ++ avp.value)

def encoded (avp : L2TPAVP) : Bytes := beBytes 2 avp.flags ++ avp.content

/-- The fields are in range, and the value of a message type has two bytes. -/
structure Wellformed (avp : L2TPAVP) : Prop where
  m : avp.m < 2
  h : avp.h < 2
  length : avp.length = 6 + avp.value.length
  short : avp.length < 1024
  vendor : avp.vendor < 256 ^ 2
  type : avp.type < 256 ^ 2
  msgType : avp.vendor = 0 → avp.type = 0 → avp.value.length = 2

def typed (avp : L2TPAVP) : TypedAVP :=
  .ofAVP (getAvpParser avp.vendor avp.type) avp

variable {avp : L2TPAVP}

theorem content_length (good : avp.Wellformed) :
    avp.content.length = avp.length - 2 := by
  unfold content
  rw [List.length_append, List.length_append, beBytes_length, beBytes_length,
    good.length]
  omega

theorem encoded_length (good : avp.Wellformed) :
    avp.encoded.length = avp.length := by
  have long := good.length
  unfold encoded
  rw [List.length_append, beBytes_length, content_length good]
  omega

end L2TPAVP

/-! ### Reading them -/

/-- The length in the flags of the pair in front. -/
def avpLen (buf : Bytes) : Nat := beNat (cut buf 0 2) % 1024

/-- A whole pair stands in front. -/
def AvpInFront (buf : Bytes) : Prop :=
  6 ≤ buf.length ∧ 6 ≤ avpLen buf ∧ avpLen buf ≤ buf.length

instance : DecidablePred AvpInFront := fun buf =>
  inferInstanceAs (Decidable
    (6 ≤ buf.length ∧ 6 ≤ avpLen buf ∧ avpLen buf ≤ buf.length))

def avpOf (buf : Bytes) : L2TPAVP :=
  { m := beNat (cut buf 0 2) / 2 ^ 15 % 2
    h := beNat (cut buf 0 2) / 2 ^ 14 % 2
    length := avpLen buf
    vendor := beNat (cut buf 2 4)
    type := beNat (cut buf 4 6)
    value := cut buf 6 (avpLen buf) }

theorem unpackBe_cut {buf : Bytes} {start stop : Nat} {width : Nat}
    (exactly : start + width = stop) (within : stop ≤ buf.length) :
    unpackBe width (cut buf start stop) = .ok (beNat (cut buf start stop)) := by
  unfold unpackBe
  rw [cut_length_of_le within, if_pos (by omega)]

theorem flags_and (flags : Nat) : flags &&& 0x3ff = flags % 1024 :=
  Nat.and_two_pow_sub_one_eq_mod flags 10

theorem unpack_front {buf : Bytes} (here : AvpInFront buf) :
    L2TPAVP.unpack (cut buf 0 (avpLen buf)) = .ok (avpOf buf) := by
  obtain ⟨_enough, long, within⟩ := here
  have length : (cut buf 0 (avpLen buf)).length = avpLen buf := by
    rw [cut_length_of_le within]
    omega
  have inner {start stop : Nat} (le : stop ≤ avpLen buf) :
      cut (cut buf 0 (avpLen buf)) start stop = cut buf start stop := by
    have whole : cut buf 0 (avpLen buf) = buf.take (avpLen buf) := rfl
    rw [whole, cut_take le]
  have six : (beNat (cut buf 0 2) &&& 0x3ff) = avpLen buf := flags_and _
  unfold L2TPAVP.unpack
  rw [unpackBe_cut (by omega) (by omega), ok_bind]
  dsimp only
  rw [unpackBe_cut (by omega) (by omega), ok_bind,
    unpackBe_cut (by omega) (by omega), ok_bind, inner (by omega),
    inner (by omega), inner (by omega), six, if_pos long, inner le_rfl,
    Nat.shiftRight_eq_div_pow, Nat.shiftRight_eq_div_pow, Nat.and_one_is_mod,
    Nat.and_one_is_mod]
  rfl

theorem parseAvps_none {buf : Bytes} (none : ¬AvpInFront buf) :
    parseAvps buf = .ok [] := by
  unfold AvpInFront at none
  rw [parseAvps]
  split
  · rename_i enough
    rw [unpackBe_cut (by omega) (by omega), ok_bind]
    dsimp only
    rw [flags_and]
    unfold avpLen at none
    rw [if_pos (by omega)]
  · rfl

theorem parseAvps_some {buf : Bytes} (here : AvpInFront buf) :
    parseAvps buf = (do
      let avps ← parseAvps (buf.drop (avpLen buf))
      .ok ((avpOf buf).typed :: avps)) := by
  have unpacked := unpack_front here
  obtain ⟨enough, long, within⟩ := here
  have parsed : TypedAVP.parse (getAvpParser (beNat (cut buf 2 4))
      (beNat (cut buf 4 6))) (cut buf 0 (avpLen buf)) =
        .ok (avpOf buf).typed := by
    unfold TypedAVP.parse
    rw [unpacked]
    rfl
  have flags : (beNat (cut buf 0 2) &&& 0x3ff) = avpLen buf := flags_and _
  rw [parseAvps, if_pos enough, unpackBe_cut (by omega) (by omega), ok_bind]
  dsimp only
  rw [flags, if_neg (by omega), unpackBe_cut (by omega) (by omega), ok_bind,
    unpackBe_cut (by omega) (by omega), ok_bind, parsed, ok_bind]

/-! ### Pairs that stand one after another -/

/-- The pair stands in front as it is encoded, but for the reserved bits of its
flags. -/
def L2TPAVP.Stands (avp : L2TPAVP) (buf : Bytes) : Prop :=
  avp.length ≤ buf.length ∧
    beNat (cut buf 0 2) / 2 ^ 14 * 2 ^ 14 + beNat (cut buf 0 2) % 1024 =
      avp.flags ∧
    cut buf 2 avp.length = avp.content

/-- The pairs stand one after another, and none stands behind them. -/
def AvpsStand : List L2TPAVP → Bytes → Prop
  | [], buf => ¬AvpInFront buf
  | avp :: avps, buf => avp.Stands buf ∧ AvpsStand avps (buf.drop avp.length)

namespace L2TPAVP

variable {avp : L2TPAVP}

theorem content_eq_iff {buf : Bytes} (good : avp.Wellformed)
    (within : avp.length ≤ buf.length) :
    cut buf 2 avp.length = avp.content ↔
      beNat (cut buf 2 4) = avp.vendor ∧ beNat (cut buf 4 6) = avp.type ∧
        cut buf 6 avp.length = avp.value := by
  have long := good.length
  have parts : cut buf 2 avp.length =
      cut buf 2 4 ++ (cut buf 4 6 ++ cut buf 6 avp.length) := by
    rw [cut_append_cut buf (by omega) (by omega),
      cut_append_cut buf (by omega) (by omega)]
  have vendorLength : (cut buf 2 4).length = 2 :=
    cut_length_of_le (by omega)
  have typeLength : (cut buf 4 6).length = 2 := cut_length_of_le (by omega)
  have number {bytes : Bytes} {value : Nat} (two : bytes.length = 2)
      (fits : value < 256 ^ 2) : bytes = beBytes 2 value ↔
        beNat bytes = value := by
    constructor
    · rintro rfl
      exact beNat_beBytes fits
    · rintro rfl
      exact (two ▸ beBytes_beNat bytes).symm
  rw [parts, ← number vendorLength good.vendor, ← number typeLength good.type]
  unfold content
  constructor
  · intro same
    obtain ⟨vendor, others⟩ := List.append_inj same
      (by rw [vendorLength, beBytes_length])
    obtain ⟨type, value⟩ := List.append_inj others
      (by rw [typeLength, beBytes_length])
    exact ⟨vendor, type, value⟩
  · rintro ⟨vendor, type, value⟩
    rw [vendor, type, value]

theorem stands_iff {buf : Bytes} (good : avp.Wellformed) :
    avp.Stands buf ↔ AvpInFront buf ∧ avpOf buf = avp := by
  have m := good.m
  have h := good.h
  have short := good.short
  have long := good.length
  constructor
  · rintro ⟨within, word, content⟩
    have wordLt := beNat_lt (cut buf 0 2)
    rw [cut_length_of_le (by omega)] at wordLt
    unfold flags at word
    have length : avpLen buf = avp.length := by
      unfold avpLen
      omega
    obtain ⟨vendor, type, value⟩ := (content_eq_iff good within).mp content
    refine ⟨⟨by omega, by omega, by omega⟩, ?_⟩
    unfold avpOf
    rw [vendor, type, length, value]
    have mBit : beNat (cut buf 0 2) / 2 ^ 15 % 2 = avp.m := by omega
    have hBit : beNat (cut buf 0 2) / 2 ^ 14 % 2 = avp.h := by omega
    rw [mBit, hBit]
  · rintro ⟨⟨_enough, _six, within⟩, rfl⟩
    have wordLt := beNat_lt (cut buf 0 2)
    rw [cut_length_of_le (by omega)] at wordLt
    refine ⟨within, ?_, (content_eq_iff good within).mpr ⟨rfl, rfl, rfl⟩⟩
    unfold flags avpOf avpLen
    dsimp only
    omega

theorem stands_encoded (good : avp.Wellformed) (behind : Bytes) :
    avp.Stands (avp.encoded ++ behind) := by
  have m := good.m
  have h := good.h
  have short := good.short
  have total := encoded_length good
  have front := beBytes_length 2 avp.flags
  have fits : avp.flags < 256 ^ 2 := by
    unfold flags
    omega
  refine ⟨?_, ?_, ?_⟩
  · rw [List.length_append, total]
    omega
  · have word : cut (avp.encoded ++ behind) 0 2 = beBytes 2 avp.flags := by
      unfold encoded
      rw [List.append_assoc, cut_front front]
    rw [word, beNat_beBytes fits]
    unfold flags
    omega
  · have contentLength := content_length good
    have long := good.length
    unfold encoded
    exact cut_middle front (by omega) behind

end L2TPAVP

theorem parseAvps_eq_ok_iff {avps : List L2TPAVP}
    (good : ∀ avp ∈ avps, avp.Wellformed) (buf : Bytes) :
    parseAvps buf = .ok (avps.map L2TPAVP.typed) ↔ AvpsStand avps buf := by
  induction avps generalizing buf with
  | nil =>
      unfold AvpsStand
      rw [List.map_nil]
      by_cases here : AvpInFront buf
      · rw [parseAvps_some here]
        constructor
        · intro parsed
          obtain ⟨others, _rest, impossible⟩ := bind_eq_ok.mp parsed
          cases impossible
        · exact absurd here
      · exact ⟨fun _parsed => here, fun _none => parseAvps_none here⟩
  | cons avp avps ih =>
      rw [List.forall_mem_cons] at good
      unfold AvpsStand
      rw [L2TPAVP.stands_iff good.1, ← ih good.2, List.map_cons]
      constructor
      · intro parsed
        by_cases here : AvpInFront buf
        · rw [parseAvps_some here] at parsed
          obtain ⟨others, rest, same⟩ := bind_eq_ok.mp parsed
          rw [Except.ok.injEq, List.cons.injEq] at same
          have first : avpOf buf = avp :=
            congrArg TypedAVP.toL2TPAVP same.1
          have length : avpLen buf = avp.length := by
            rw [← first]
            rfl
          rw [length, same.2] at rest
          exact ⟨⟨here, first⟩, rest⟩
        · rw [parseAvps_none here] at parsed
          cases parsed
      · rintro ⟨⟨here, rfl⟩, rest⟩
        have length : avpLen buf = (avpOf buf).length := rfl
        rw [parseAvps_some here, length, rest, ok_bind]

theorem avpsStand_length {avps : List L2TPAVP}
    (good : ∀ avp ∈ avps, avp.Wellformed) {buf : Bytes}
    (stand : AvpsStand avps buf) :
    (avps.flatMap L2TPAVP.encoded).length ≤ buf.length := by
  induction avps generalizing buf with
  | nil => exact Nat.zero_le _
  | cons avp avps ih =>
      rw [List.forall_mem_cons] at good
      have rest := ih good.2 stand.2
      have within := stand.1.1
      rw [List.length_drop] at rest
      rw [List.flatMap_cons, List.length_append,
        L2TPAVP.encoded_length good.1]
      omega

theorem avpsStand_encoded {avps : List L2TPAVP}
    (good : ∀ avp ∈ avps, avp.Wellformed) {behind : Bytes}
    (none : ¬AvpInFront behind) :
    AvpsStand avps (avps.flatMap L2TPAVP.encoded ++ behind) := by
  induction avps with
  | nil => exact none
  | cons avp avps ih =>
      rw [List.forall_mem_cons] at good
      rw [List.flatMap_cons, List.append_assoc]
      refine ⟨L2TPAVP.stands_encoded good.1 _, ?_⟩
      rw [List.drop_left' (L2TPAVP.encoded_length good.1)]
      exact ih good.2

theorem getAvpParser_msgType {vendor avpType : Nat}
    (parser : getAvpParser vendor avpType = .msgType) :
    vendor = 0 ∧ avpType = 0 := by
  have only : ∀ entry ∈ avpSw, entry.2 = .msgType → entry.1 = 0 := by decide
  unfold getAvpParser at parser
  split at parser
  · cases parser
  · rename_i standard
    cases found : avpSw.lookup avpType with
    | none =>
        rw [found] at parser
        cases parser
    | some cls =>
        rw [found, Option.getD_some] at parser
        obtain ⟨front, behind, same, _absent⟩ :=
          List.lookup_eq_some_iff.mp found
        have member : (avpType, cls) ∈ avpSw := by
          rw [same]
          exact List.mem_append_right front List.mem_cons_self
        exact ⟨not_not.mp standard, only _ member parser⟩

theorem findMsgType_ok {avps : List L2TPAVP}
    (good : ∀ avp ∈ avps, avp.Wellformed) :
    ∃ msgType, findMsgType (avps.map L2TPAVP.typed) = .ok msgType := by
  induction avps with
  | nil => exact ⟨none, rfl⟩
  | cons avp avps ih =>
      rw [List.forall_mem_cons] at good
      rw [List.map_cons, findMsgType]
      by_cases isType : avp.typed.cls = .msgType
      · obtain ⟨vendor, type⟩ := getAvpParser_msgType isType
        have two := good.1.msgType vendor type
        have cls : getAvpParser avp.vendor avp.type = .msgType := isType
        have attr : avp.typed.attr =
            some (.number (beNat (cut avp.value 0 2))) := by
          unfold L2TPAVP.typed TypedAVP.ofAVP
          rw [cls]
          exact if_pos (le_of_eq two.symm)
        rw [if_pos isType, attr]
        exact ⟨_, rfl⟩
      · rw [if_neg isType]
        exact ih good.2

end DpktNg.L2tp
