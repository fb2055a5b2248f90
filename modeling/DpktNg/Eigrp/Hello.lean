/-
The parameters in an EIGRP Hello, dpkt/eigrp.py.  The loop over the TLVs hands
a buffer to every class; the constructor of the parameters takes it for the
first of them.
-/

import DpktNg.Eigrp.ExternalRoute

namespace DpktNg.Eigrp

open Library

/-- What an attribute of the parameters holds. -/
inductive ParamValue where
  | number (value : Nat)
  | buffer (bytes : Bytes)
deriving DecidableEq, Repr

/-- `struct.pack` of it in some bytes, which wants a number. -/
def ParamValue.pack (width : Nat) : ParamValue → Except PyError Bytes
  | .number value => packBe width value
  | .buffer _ => .error .structError

def tlvParam : Nat := 0x0001

structure EIGRPParamTLV where
  k1 : ParamValue := .number 0
  k2 : ParamValue := .number 0
  k3 : ParamValue := .number 1
  k4 : ParamValue := .number 0
  k5 : ParamValue := .number 0
  holdTime : ParamValue := .number 15
deriving DecidableEq, Repr

namespace EIGRPParamTLV

/-- `EIGRPParamTLV(arg)`: an argument is a parameter and is not unpacked. -/
def ofArg (arg : ParamValue) : EIGRPParamTLV := { k1 := arg }

/-- `bytes(tlv)`; `'BBBBB3sH'` is packed in the byte order of the host, and
needs no padding. -/
def bytes (host : ByteOrder) (self : EIGRPParamTLV) : Except PyError Bytes := do
  let k1 ← self.k1.pack 1
  let k2 ← self.k2.pack 1
  let k3 ← self.k3.pack 1
  let k4 ← self.k4.pack 1
  let k5 ← self.k5.pack 1
  let holdTime ← self.holdTime.pack 2
  let value := k1 ++ k2 ++ k3 ++ k4 ++ k5 ++ zeros 3 ++ host.arrange holdTime
  let header ← packFields [(2, tlvParam), (2, 4 + value.length)]
  .ok (header ++ value)

end EIGRPParamTLV

/-- A TLV of a message, by the class that `_tlv_sw` has for its type. -/
inductive MessageTLV where
  | param (tlv : EIGRPParamTLV)
  | internalRoute (tlv : EIGRPInternalRouteTLV)
  | externalRoute (tlv : EIGRPExternalRouteTLV)
  | generic (tlv : EIGRPTLV)

def MessageTLV.parse (type : Nat) (buf : Bytes) : Except PyError MessageTLV :=
  if type = tlvParam then .ok (.param (.ofArg (.buffer buf)))
  else if type = tlvInternalRoute then do
    .ok (.internalRoute (← EIGRPInternalRouteTLV.parse buf))
  else if type = tlvExternalRoute then do
    .ok (.externalRoute (← EIGRPExternalRouteTLV.parse buf))
  else do .ok (.generic (← EIGRPTLV.unpack buf))

/-- `_parse_tlvs`, from where the rest of the buffer begins. -/
def parseTlvs (rest : Bytes) : Except PyError (List MessageTLV) :=
  if 4 ≤ rest.length then
    let tlvLen := beNat (cut rest 2 4)
    if tlvLen < 4 ∨ rest.length < tlvLen then .ok []
    else do
      let tlv ← MessageTLV.parse (beNat (cut rest 0 2)) (rest.take tlvLen)
      let tlvs ← parseTlvs (rest.drop tlvLen)
      .ok (tlv :: tlvs)
  else .ok []
termination_by rest.length
decreasing_by
  rw [List.length_drop]
  omega

structure EIGRPHello where
  buf : Bytes
  tlvs : List MessageTLV

namespace EIGRPHello

def unpack (buf : Bytes) : Except PyError EIGRPHello := do
  .ok { buf, tlvs := ← parseTlvs buf }

/-- `EIGRPHello(buf)`, of a class without a header. -/
def parse : Bytes → Except PyError EIGRPHello :=
  packetInit "EIGRPHello" none unpack

end EIGRPHello

def ParamValue.Below (bound : Nat) (param : ParamValue) : Prop :=
  ∃ value < bound, param = .number value

namespace EIGRPParamTLV

structure InRange (param : EIGRPParamTLV) : Prop where
  k1 : param.k1.Below (256 ^ 1)
  k2 : param.k2.Below (256 ^ 1)
  k3 : param.k3.Below (256 ^ 1)
  k4 : param.k4.Below (256 ^ 1)
  k5 : param.k5.Below (256 ^ 1)
  holdTime : param.holdTime.Below (256 ^ 2)

variable {host : ByteOrder} {param : EIGRPParamTLV}

def valueBytes (host : ByteOrder) (k1 k2 k3 k4 k5 holdTime : Nat) : Bytes :=
  beBytes 1 k1 ++ beBytes 1 k2 ++ beBytes 1 k3 ++ beBytes 1 k4 ++
    beBytes 1 k5 ++ zeros 3 ++ host.arrange (beBytes 2 holdTime)

theorem valueBytes_length (host : ByteOrder) (k1 k2 k3 k4 k5 holdTime : Nat) :
    (valueBytes host k1 k2 k3 k4 k5 holdTime).length = 10 := by
  simp [valueBytes]

theorem written_value {value : Bytes} (ten : value.length = 10) :
    EIGRPTLV.Wellformed { type := tlvParam, length := 14, value } ∧
      (do
        let header ← packFields [(2, tlvParam), (2, 4 + value.length)]
        .ok (header ++ value) : Except PyError Bytes) =
        .ok (EIGRPTLV.encoded { type := tlvParam, length := 14, value }) := by
  have header : tlvParam < 256 ^ 2 ∧ 14 < 256 ^ 2 := by decide
  refine ⟨⟨header.1, header.2, congrArg (4 + ·) ten.symm⟩, ?_⟩
  rw [EIGRPTLV.written header.1, ten, if_pos header.2]

theorem bytes_numbers {k1 k2 k3 k4 k5 holdTime : Nat}
    (fits : FieldsFit [(1, k1), (1, k2), (1, k3), (1, k4), (1, k5),
      (2, holdTime)]) :
    EIGRPParamTLV.bytes host
        { k1 := .number k1, k2 := .number k2, k3 := .number k3
          k4 := .number k4, k5 := .number k5, holdTime := .number holdTime } =
      .ok (EIGRPTLV.encoded
        { type := tlvParam, length := 14
          value := valueBytes host k1 k2 k3 k4 k5 holdTime }) := by
  simp only [fieldsFit_cons] at fits
  obtain ⟨fits1, fits2, fits3, fits4, fits5, holdFits, _none⟩ := fits
  unfold bytes
  simp only [ParamValue.pack]
  rw [packBe_ok fits1, ok_bind, packBe_ok fits2, ok_bind, packBe_ok fits3,
    ok_bind, packBe_ok fits4, ok_bind, packBe_ok fits5, ok_bind,
    packBe_ok holdFits, ok_bind]
  exact (written_value (valueBytes_length host k1 k2 k3 k4 k5 holdTime)).2

theorem bytes_ok (host : ByteOrder) (inRange : param.InRange) :
    ∃ tlv, param.bytes host = .ok (EIGRPTLV.encoded tlv) ∧ tlv.Wellformed ∧
      tlv.type = tlvParam := by
  obtain ⟨⟨k1, fits1, isK1⟩, ⟨k2, fits2, isK2⟩, ⟨k3, fits3, isK3⟩,
    ⟨k4, fits4, isK4⟩, ⟨k5, fits5, isK5⟩, holdTime, holdFits, isHold⟩ := inRange
  have fits : FieldsFit [(1, k1), (1, k2), (1, k3), (1, k4), (1, k5),
      (2, holdTime)] := by
    simp only [fieldsFit_cons]
    exact ⟨fits1, fits2, fits3, fits4, fits5, holdFits, fieldsFit_nil⟩
  have good :=
    (written_value (valueBytes_length host k1 k2 k3 k4 k5 holdTime)).1
  have numbers : param =
      { k1 := .number k1, k2 := .number k2, k3 := .number k3
        k4 := .number k4, k5 := .number k5, holdTime := .number holdTime } := by
    cases param
    rw [EIGRPParamTLV.mk.injEq]
    exact ⟨isK1, isK2, isK3, isK4, isK5, isHold⟩
  exact ⟨_, numbers ▸ bytes_numbers fits, good, rfl⟩

end EIGRPParamTLV

theorem type_of_encoded {tlv : EIGRPTLV} (good : tlv.Wellformed)
    (rest : Bytes) : beNat (cut (tlv.encoded ++ rest) 0 2) = tlv.type := by
  unfold EIGRPTLV.encoded
  rw [List.append_assoc, cut_beBytes, beNat_beBytes good.type]

theorem parseTlvs_encoded {tlv : EIGRPTLV} (good : tlv.Wellformed)
    (rest : Bytes) :
    parseTlvs (tlv.encoded ++ rest) = (do
      let first ← MessageTLV.parse tlv.type tlv.encoded
      let others ← parseTlvs rest
      .ok (first :: others)) := by
  have size := EIGRPTLV.encoded_length good
  have header := good.length
  rw [parseTlvs, if_pos (by rw [List.length_append]; omega)]
  dsimp only
  rw [EIGRPTLV.length_of_encoded good,
    if_neg (by rw [List.length_append]; omega), type_of_encoded good, ← size,
    List.take_left, List.drop_left]

/-- A Hello of parameters: each one read is made of its own bytes, and has the
default values but for the first. -/
theorem parse_params (host : ByteOrder) {params : List EIGRPParamTLV}
    (inRange : ∀ param ∈ params, param.InRange) :
    ∃ chunks : List Bytes,
      joinBytes (EIGRPParamTLV.bytes host) params = .ok chunks.flatten ∧
        EIGRPHello.parse chunks.flatten = .ok
          { buf := chunks.flatten
            tlvs := chunks.map fun chunk => .param (.ofArg (.buffer chunk)) } ∧
        chunks.length = params.length := by
  have loop : ∃ chunks : List Bytes,
      joinBytes (EIGRPParamTLV.bytes host) params = .ok chunks.flatten ∧
        parseTlvs chunks.flatten = .ok
          (chunks.map fun chunk => .param (.ofArg (.buffer chunk))) ∧
        chunks.length = params.length := by
    induction params with
    | nil =>
        refine ⟨[], rfl, ?_, rfl⟩
        rw [List.flatten_nil, parseTlvs]
        rfl
    | cons param rest ih =>
        rw [List.forall_mem_cons] at inRange
        obtain ⟨chunks, written, read, length⟩ := ih inRange.2
        obtain ⟨tlv, bytes, good, isParam⟩ :=
          EIGRPParamTLV.bytes_ok host inRange.1
        refine ⟨tlv.encoded :: chunks, ?_, ?_, ?_⟩
        · rw [joinBytes, bytes, ok_bind, written, ok_bind, List.flatten_cons]
        · rw [List.flatten_cons, parseTlvs_encoded good, isParam,
            MessageTLV.parse, if_pos rfl, ok_bind, read, ok_bind, List.map_cons]
        · rw [List.length_cons, List.length_cons, length]
  obtain ⟨chunks, written, read, length⟩ := loop
  refine ⟨chunks, written, ?_, length⟩
  unfold EIGRPHello.parse
  rw [packetInit_eq_ok]
  unfold EIGRPHello.unpack
  rw [read, ok_bind]

/-- The Hello of the parameters' bytes has the parameters. -/
def HelloKeeps (host : ByteOrder) (params : List EIGRPParamTLV) : Prop :=
  ∃ data hello, joinBytes (EIGRPParamTLV.bytes host) params = .ok data ∧
    EIGRPHello.parse data = .ok hello ∧
    hello.tlvs = params.map MessageTLV.param

/-- A parameter that comes back is a buffer where it was a number. -/
theorem kept_nil {host : ByteOrder} {params : List EIGRPParamTLV}
    (inRange : ∀ param ∈ params, param.InRange)
    (keeps : HelloKeeps host params) : params = [] := by
  obtain ⟨chunks, written, read, length⟩ := parse_params host inRange
  obtain ⟨data, hello, joined, parsed, kept⟩ := keeps
  rw [written, Except.ok.injEq] at joined
  rw [← joined, read, Except.ok.injEq] at parsed
  rw [← parsed] at kept
  cases params with
  | nil => rfl
  | cons param rest =>
      cases chunks with
      | nil => cases length
      | cons chunk others =>
          obtain ⟨value, _small, isNumber⟩ :=
            (List.forall_mem_cons.mp inRange).1.k1
          have first := (List.cons_eq_cons.mp kept).1
          rw [MessageTLV.param.injEq] at first
          rw [← first] at isNumber
          cases isNumber

/-- No parameters come back, on a host of either byte order. -/
theorem hello_params_iff (host : ByteOrder) {params : List EIGRPParamTLV}
    (inRange : ∀ param ∈ params, param.InRange) :
    HelloKeeps host params ↔ params = [] := by
  constructor
  · exact kept_nil inRange
  · rintro rfl
    obtain ⟨chunks, written, read, length⟩ :=
      parse_params host inRange
    have none : chunks = [] := List.eq_nil_of_length_eq_zero length
    rw [none] at written read
    exact ⟨_, _, written, read, rfl⟩

theorem default_inRange : EIGRPParamTLV.InRange {} :=
  ⟨⟨0, by decide, rfl⟩, ⟨0, by decide, rfl⟩, ⟨1, by decide, rfl⟩,
    ⟨0, by decide, rfl⟩, ⟨0, by decide, rfl⟩, ⟨15, by decide, rfl⟩⟩

theorem hello_params_default :
    HelloKeeps .little [{}] ↔ [({} : EIGRPParamTLV)] = [] :=
  hello_params_iff .little (List.forall_mem_singleton.mpr default_inRange)

/-- One TLV with the default values. -/
theorem default_params_not_kept :
    EIGRPParamTLV.InRange {} ∧ ¬HelloKeeps .little [{}] ∧
      ¬HelloKeeps .big [{}] := by
  have every := List.forall_mem_singleton.mpr default_inRange
  have present : [({} : EIGRPParamTLV)] ≠ [] := List.cons_ne_nil _ _
  exact ⟨default_inRange, fun keeps => present (kept_nil every keeps),
    fun keeps => present (kept_nil every keeps)⟩

end DpktNg.Eigrp
