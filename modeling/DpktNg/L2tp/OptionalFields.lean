/-
Messages encoded with the fields that their flags select, and which of them are
parsed as they were encoded.  The parser reads a length always, and a sequence
number in every control message.
-/

import DpktNg.L2tp.Message

namespace DpktNg.L2tp

open Library

/-- The fields of a message.  A control message has the pairs, and any other the
payload. -/
structure L2TPMessage where
  flags : Nat
  length : Nat
  tunnelId : Nat
  sessionId : Nat
  ns : Nat
  nr : Nat
  pad : Bytes
  avps : List L2TPAVP
  payload : Bytes

namespace L2TPMessage

variable (message : L2TPMessage)

structure Wellformed : Prop where
  flags : message.flags < 256 ^ 2
  length : message.length < 256 ^ 2
  tunnelId : message.tunnelId < 256 ^ 2
  sessionId : message.sessionId < 256 ^ 2
  ns : message.ns < 256 ^ 2
  nr : message.nr < 256 ^ 2
  pad : message.pad.length < 256 ^ 2
  avps : ∀ avp ∈ message.avps, avp.Wellformed

def hasLength : Bool := flagBit message.flags 14

def hasSequence : Bool := flagBit message.flags 11

def hasOffset : Bool := flagBit message.flags 9

def fields : Bytes :=
  (if message.hasLength then beBytes 2 message.length else []) ++
    (beBytes 2 message.tunnelId ++ (beBytes 2 message.sessionId ++
      ((if message.hasSequence then
          beBytes 2 message.ns ++ beBytes 2 message.nr else []) ++
        if message.hasOffset then
          beBytes 2 message.pad.length ++ message.pad else [])))

def body : Bytes :=
  if isControl message.flags then message.avps.flatMap L2TPAVP.encoded
  else message.payload

def bytes : Bytes := beBytes 2 message.flags ++ (message.fields ++ message.body)

/-- The fields of the packet are those of the message, and behind them the pairs
or the payload begin. -/
structure Recovered (packet : L2TP) : Prop where
  tunnelId : packet.tunnelId = message.tunnelId
  sessionId : packet.sessionId = message.sessionId
  ns : message.hasSequence → packet.ns = some message.ns
  nr : message.hasSequence → packet.nr = some message.nr
  avps : isControl message.flags →
    packet.avps = some (message.avps.map L2TPAVP.typed)
  payload : ¬isControl message.flags → packet.data = .raw message.payload

/-- The numbers stand where the parser reads them. -/
structure IdsStand (buf : Bytes) : Prop where
  tunnelId : beNat (cut buf 2 4) = message.tunnelId
  sessionId : beNat (cut buf 4 6) = message.sessionId

/-- A data message without sequence numbers whose header has six bytes behind
its flags. -/
structure DataAligned : Prop where
  ids : message.IdsStand message.fields
  six : message.fields.length = 6
  sequence : ¬message.hasSequence

/-- A control message whose header has ten bytes behind its flags, or more if
the pairs are found in what is more as well. -/
structure ControlAligned : Prop where
  ids : message.IdsStand message.fields
  ten : 10 ≤ message.fields.length
  ns : message.hasSequence → beNat (cut message.fields 6 8) = message.ns
  nr : message.hasSequence → beNat (cut message.fields 8 10) = message.nr
  avps : AvpsStand message.avps (message.fields.drop 10 ++
    message.avps.flatMap L2TPAVP.encoded)

def Aligned : Prop :=
  if isControl message.flags then message.ControlAligned
  else message.DataAligned

variable {message}

/-- The header that is read from what stands behind the flags. -/
def headerOf (flags : Nat) (rest : Bytes) : L2TPHeader :=
  { flags, length := beNat (cut rest 0 2), tunnelId := beNat (cut rest 2 4)
    sessionId := beNat (cut rest 4 6) }

theorem unpackHdr_flags {flags : Nat} (fits : flags < 256 ^ 2) {rest : Bytes}
    (enough : 6 ≤ rest.length) :
    L2TPHeader.format.unpackHdr .big (beBytes 2 flags ++ rest) =
      .ok (headerOf flags rest, rest.drop 6) := by
  have word {start : Nat} (within : start + 2 ≤ 6) :
      beNat (cut rest start (start + 2)) < 256 ^ 2 ∧
        beBytes 2 (beNat (cut rest start (start + 2))) =
          cut rest start (start + 2) := by
    have length : (cut rest start (start + 2)).length = 2 := by
      rw [cut_length_of_le (by omega)]
      omega
    have lt := beNat_lt (cut rest start (start + 2))
    have again := beBytes_beNat (cut rest start (start + 2))
    rw [length] at lt again
    exact ⟨lt, again⟩
  have first := @word 0 (by omega)
  have second := @word 2 (by omega)
  have third := @word 4 (by omega)
  have headerFits : L2TPHeader.format.Fits (headerOf flags rest) :=
    ⟨fits, first.1, second.1, third.1, trivial⟩
  have written : L2TPHeader.format.bytes .big (headerOf flags rest) =
      beBytes 2 flags ++ (beBytes 2 (beNat (cut rest 0 2)) ++
        (beBytes 2 (beNat (cut rest 2 4)) ++
          (beBytes 2 (beNat (cut rest 4 6)) ++ []))) := rfl
  have whole : beBytes 2 flags ++ rest =
      L2TPHeader.format.bytes .big (headerOf flags rest) ++ rest.drop 6 := by
    rw [written, first.2, second.2, third.2, List.append_nil,
      cut_append_cut rest (by omega) (by omega),
      cut_append_cut rest (by omega) (by omega), List.append_assoc,
      cut_append_drop rest (by omega), List.drop_zero]
  rw [whole]
  exact StructFormat.unpackHdr_bytes headerFits (rest.drop 6)

theorem parse_eq_ok_iff {flags : Nat} (fits : flags < 256 ^ 2) {rest : Bytes}
    {packet : L2TP} :
    L2TP.parse (beBytes 2 flags ++ rest) = .ok packet ↔
      6 ≤ rest.length ∧
        (if isControl flags then
          L2TP.unpackControl (headerOf flags rest) (rest.drop 6)
        else .ok
          { headerOf flags rest with
            ns := none
            nr := none
            avps := none
            data := .raw (rest.drop 6) }) = .ok packet := by
  unfold L2TP.parse
  rw [packetInit_eq_ok]
  unfold L2TP.unpack
  by_cases enough : 6 ≤ rest.length
  · rw [unpackHdr_flags fits enough, ok_bind, and_iff_right enough]
    rfl
  · constructor
    · intro parsed
      obtain ⟨⟨header, data⟩, hdr, _rest⟩ := bind_eq_ok.mp parsed
      obtain ⟨long, _header, _data⟩ := StructFormat.unpackHdr_eq_ok.mp hdr
      have size : L2TPHeader.format.size = 8 := rfl
      rw [size, List.length_append, beBytes_length] at long
      omega
    · rintro ⟨long, _parsed⟩
      exact absurd long enough

theorem unpackControl_eq_ok {header : L2TPHeader} {data : Bytes}
    {packet : L2TP}
    (unpacked : L2TP.unpackControl header data = .ok packet) :
    4 ≤ data.length ∧ ∃ avps, parseAvps (data.drop 4) = .ok avps ∧
      packet.toL2TPHeader = header ∧ packet.avps = some avps ∧
      packet.ns = some (beNat (cut data 0 2)) ∧
      packet.nr = some (beNat (cut data 2 4)) := by
  unfold L2TP.unpackControl at unpacked
  split at unpacked
  · cases unpacked
  · rename_i enough
    rw [unpackBe_cut (by omega) (by omega), ok_bind,
      unpackBe_cut (by omega) (by omega), ok_bind] at unpacked
    obtain ⟨avps, parsed, others⟩ := bind_eq_ok.mp unpacked
    obtain ⟨msgType, _found, same⟩ := bind_eq_ok.mp others
    cases same
    exact ⟨by omega, avps, parsed, rfl, rfl, rfl, rfl⟩

theorem unpackControl_ok (header : L2TPHeader) {data : Bytes}
    {avps : List TypedAVP} {msgType : Option Nat} (enough : 4 ≤ data.length)
    (parsed : parseAvps (data.drop 4) = .ok avps)
    (found : findMsgType avps = .ok msgType) :
    ∃ packet, L2TP.unpackControl header data = .ok packet ∧
      packet.toL2TPHeader = header ∧ packet.avps = some avps ∧
      packet.ns = some (beNat (cut data 0 2)) ∧
      packet.nr = some (beNat (cut data 2 4)) := by
  unfold L2TP.unpackControl
  rw [if_neg (by omega), unpackBe_cut (by omega) (by omega), ok_bind,
    unpackBe_cut (by omega) (by omega), ok_bind, parsed, ok_bind, found,
    ok_bind]
  exact ⟨_, rfl, rfl, rfl, rfl, rfl⟩

theorem cut_fields {fields behind : Bytes} {start stop : Nat}
    (within : stop ≤ fields.length) :
    cut (fields ++ behind) start stop = cut fields start stop := by
  rw [← cut_take within, List.take_left]

theorem headerOf_fields (long : 6 ≤ message.fields.length) (flags : Nat)
    (behind : Bytes) :
    headerOf flags (message.fields ++ behind) =
      headerOf flags message.fields := by
  unfold headerOf
  rw [cut_fields (by omega), cut_fields (by omega), cut_fields (by omega)]

theorem data_recovered_iff (good : message.Wellformed)
    (data : ¬isControl message.flags) :
    (∃ packet, L2TP.parse message.bytes = .ok packet ∧
      message.Recovered packet) ↔ message.DataAligned := by
  have body : message.body = message.payload := if_neg data
  unfold bytes
  rw [body]
  constructor
  · rintro ⟨packet, parsed, recovered⟩
    obtain ⟨enough, same⟩ := (parse_eq_ok_iff good.flags).mp parsed
    rw [if_neg data] at same
    cases same
    have payload := recovered.payload data
    rw [L2TPData.raw.injEq] at payload
    have lengths := congrArg List.length payload
    rw [List.length_append] at enough
    rw [List.length_drop, List.length_append] at lengths
    have six : message.fields.length = 6 := by omega
    have tunnelId := recovered.tunnelId
    have sessionId := recovered.sessionId
    dsimp only at tunnelId sessionId
    rw [headerOf_fields (by omega)] at tunnelId sessionId
    refine ⟨⟨tunnelId, sessionId⟩, six, ?_⟩
    intro sequence
    cases recovered.ns sequence
  · intro aligned
    have six := aligned.six
    have enough : 6 ≤ (message.fields ++ message.payload).length := by
      rw [List.length_append]
      omega
    refine ⟨_, (parse_eq_ok_iff good.flags).mpr ⟨enough, if_neg data⟩, ?_⟩
    rw [headerOf_fields (by omega)]
    constructor
    · exact aligned.ids.tunnelId
    · exact aligned.ids.sessionId
    · exact fun sequence => absurd sequence aligned.sequence
    · exact fun sequence => absurd sequence aligned.sequence
    · exact fun control => absurd control data
    · intro _data
      rw [List.drop_left' six]

theorem control_reads (long : 10 ≤ message.fields.length) (behind : Bytes) :
    cut ((message.fields ++ behind).drop 6) 0 2 = cut message.fields 6 8 ∧
      cut ((message.fields ++ behind).drop 6) 2 4 = cut message.fields 8 10 ∧
      ((message.fields ++ behind).drop 6).drop 4 =
        message.fields.drop 10 ++ behind := by
  refine ⟨?_, ?_, ?_⟩
  · rw [cut_drop, cut_fields (by omega)]
  · rw [cut_drop, cut_fields (by omega)]
  · rw [List.drop_drop, List.drop_append_of_le_length long]

theorem control_bytes (control : isControl message.flags) :
    message.bytes = beBytes 2 message.flags ++
      (message.fields ++ message.avps.flatMap L2TPAVP.encoded) := by
  unfold bytes body
  rw [if_pos control]

theorem aligned_of_control (good : message.Wellformed)
    (control : isControl message.flags) {packet : L2TP}
    (parsed : L2TP.parse message.bytes = .ok packet)
    (recovered : message.Recovered packet) : message.ControlAligned := by
  rw [control_bytes control] at parsed
  obtain ⟨_six, unpacked⟩ := (parse_eq_ok_iff good.flags).mp parsed
  rw [if_pos control] at unpacked
  obtain ⟨enough, avps, read, header, found, ns, nr⟩ :=
    unpackControl_eq_ok unpacked
  have same := recovered.avps control
  rw [found, Option.some.injEq] at same
  rw [same] at read
  have stand := (parseAvps_eq_ok_iff good.avps _).mp read
  have long : 10 ≤ message.fields.length := by
    have within := avpsStand_length good.avps stand
    rw [List.length_drop, List.length_append] at enough
    rw [List.length_drop, List.length_drop, List.length_append] at within
    omega
  obtain ⟨readNs, readNr, behind⟩ :=
    control_reads long (message.avps.flatMap L2TPAVP.encoded)
  rw [behind] at stand
  rw [readNs] at ns
  rw [readNr] at nr
  have tunnelId := recovered.tunnelId
  have sessionId := recovered.sessionId
  rw [header, headerOf_fields (by omega)] at tunnelId sessionId
  refine ⟨⟨tunnelId, sessionId⟩, long, ?_, ?_, stand⟩
  · intro sequence
    rw [recovered.ns sequence, Option.some.injEq] at ns
    exact ns.symm
  · intro sequence
    rw [recovered.nr sequence, Option.some.injEq] at nr
    exact nr.symm

theorem control_of_aligned (good : message.Wellformed)
    (control : isControl message.flags) (aligned : message.ControlAligned) :
    ∃ packet, L2TP.parse message.bytes = .ok packet ∧
      message.Recovered packet := by
  rw [control_bytes control]
  have long := aligned.ten
  obtain ⟨readNs, readNr, behind⟩ :=
    control_reads long (message.avps.flatMap L2TPAVP.encoded)
  have enough : 6 ≤ (message.fields ++
      message.avps.flatMap L2TPAVP.encoded).length := by
    rw [List.length_append]
    omega
  have four : 4 ≤ ((message.fields ++
      message.avps.flatMap L2TPAVP.encoded).drop 6).length := by
    rw [List.length_drop, List.length_append]
    omega
  have read := (parseAvps_eq_ok_iff good.avps _).mpr aligned.avps
  rw [← behind] at read
  obtain ⟨msgType, type⟩ := findMsgType_ok good.avps
  obtain ⟨packet, unpacked, header, avps, ns, nr⟩ := unpackControl_ok
    (headerOf message.flags (message.fields ++
      message.avps.flatMap L2TPAVP.encoded)) four read type
  refine ⟨packet, (parse_eq_ok_iff good.flags).mpr
    ⟨enough, (if_pos control).trans unpacked⟩, ?_⟩
  rw [headerOf_fields (by omega)] at header
  constructor
  · rw [header]
    exact aligned.ids.tunnelId
  · rw [header]
    exact aligned.ids.sessionId
  · intro sequence
    rw [ns, readNs, aligned.ns sequence]
  · intro sequence
    rw [nr, readNr, aligned.nr sequence]
  · exact fun _control => avps
  · exact fun data => absurd control data

/-- A message is recovered exactly where its fields stand in the places of the
header that the parser takes for fixed. -/
theorem l2tp_recovered_iff (good : message.Wellformed) :
    (∃ packet, L2TP.parse message.bytes = .ok packet ∧
      message.Recovered packet) ↔ message.Aligned := by
  unfold Aligned
  split
  · rename_i control
    exact ⟨fun ⟨_packet, parsed, recovered⟩ =>
      aligned_of_control good control parsed recovered,
      control_of_aligned good control⟩
  · rename_i data
    exact data_recovered_iff good data

theorem idsStand_behind_length (good : message.Wellformed) {rest : Bytes}
    (fields : message.fields = beBytes 2 message.length ++
      (beBytes 2 message.tunnelId ++ (beBytes 2 message.sessionId ++ rest))) :
    message.IdsStand message.fields := by
  have tunnelId : cut message.fields 2 4 = beBytes 2 message.tunnelId := by
    rw [fields]
    rfl
  have sessionId : cut message.fields 4 6 = beBytes 2 message.sessionId := by
    rw [fields]
    rfl
  constructor
  · rw [tunnelId, beNat_beBytes good.tunnelId]
  · rw [sessionId, beNat_beBytes good.sessionId]

/-- Control messages with a length and sequence numbers, as they have to be. -/
theorem controlAligned_usual (good : message.Wellformed)
    (length : message.hasLength) (sequence : message.hasSequence)
    (offset : ¬message.hasOffset) : message.ControlAligned := by
  have fields : message.fields = beBytes 2 message.length ++
      (beBytes 2 message.tunnelId ++ (beBytes 2 message.sessionId ++
        ((beBytes 2 message.ns ++ beBytes 2 message.nr) ++ []))) := by
    unfold L2TPMessage.fields
    rw [if_pos length, if_pos sequence, if_neg offset]
  have two (value : Nat) : (beBytes 2 value).length = 2 :=
    beBytes_length 2 value
  have ten : message.fields.length = 10 := by
    rw [fields]
    rfl
  have ns : cut message.fields 6 8 = beBytes 2 message.ns := by
    rw [fields]
    rfl
  have nr : cut message.fields 8 10 = beBytes 2 message.nr := by
    rw [fields]
    rfl
  have stand : AvpsStand message.avps
      (message.avps.flatMap L2TPAVP.encoded ++ []) :=
    avpsStand_encoded good.avps (by decide)
  refine ⟨idsStand_behind_length good fields, le_of_eq ten.symm, ?_, ?_, ?_⟩
  · rw [ns, beNat_beBytes good.ns]
    exact fun _sequence => rfl
  · rw [nr, beNat_beBytes good.nr]
    exact fun _sequence => rfl
  · rw [List.append_nil] at stand
    rw [List.drop_of_length_le (le_of_eq ten), List.nil_append]
    exact stand

def startRequest : L2TPMessage :=
  { flags := 0xc802, length := 30, tunnelId := 1, sessionId := 0, ns := 5
    nr := 6, pad := []
    avps :=
      [{ m := 1, h := 0, length := 8, vendor := 0, type := 0, value := [0, 1] },
        { m := 1, h := 0, length := 10, vendor := 0, type := 7
          value := [104, 111, 115, 116] }]
    payload := [] }

theorem startRequest_wellformed : startRequest.Wellformed where
  flags := by decide
  length := by decide
  tunnelId := by decide
  sessionId := by decide
  ns := by decide
  nr := by decide
  pad := by decide
  avps := by
    intro avp member
    rcases List.mem_cons.mp member with rfl | member
    · constructor <;> decide
    · cases List.mem_singleton.mp member
      constructor <;> decide

theorem l2tp_recovered_request : ∃ packet,
    L2TP.parse startRequest.bytes = .ok packet ∧
      startRequest.Recovered packet :=
  (l2tp_recovered_iff startRequest_wellformed).mpr (controlAligned_usual
    startRequest_wellformed (by decide) (by decide) (by decide))

def plainData : L2TPMessage :=
  { flags := 0x0002, length := 0, tunnelId := 1, sessionId := 2, ns := 0
    nr := 0, pad := [], avps := [], payload := [9, 9] }

/-- Its tunnel is taken for the length. -/
theorem plainData_not_recovered :
    ¬∀ message : L2TPMessage, message.Wellformed →
      ∃ packet, L2TP.parse message.bytes = .ok packet ∧
        message.Recovered packet := by
  intro claimed
  have good : plainData.Wellformed :=
    ⟨by decide, by decide, by decide, by decide, by decide, by decide,
      by decide, List.forall_mem_nil _⟩
  obtain ⟨packet, parsed, recovered⟩ := claimed plainData good
  have read : L2TP.parse plainData.bytes = .ok
      { flags := 2, length := 1, tunnelId := 2, sessionId := 0x0909
        ns := none, nr := none, avps := none, data := .raw [] } := by
    decide +kernel
  rw [read] at parsed
  cases parsed
  have tunnelId := recovered.tunnelId
  revert tunnelId
  decide

end L2TPMessage

end DpktNg.L2tp
