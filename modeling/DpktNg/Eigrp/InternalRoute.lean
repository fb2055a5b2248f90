/-
The EIGRP internal route, dpkt/eigrp.py: a TLV with a fixed part, a prefix of as
many bytes as its length asks for, and metrics that are TLVs again.
-/

import DpktNg.Python.ByteOrder
import DpktNg.Python.Loops

namespace DpktNg.Eigrp

open Library

structure EIGRPTLV where
  type : Nat
  length : Nat
  value : Bytes
  deriving DecidableEq

namespace EIGRPTLV

/-- `EIGRPTLV.unpack` of a buffer that has the four bytes of a header. -/
def ofBytes (buf : Bytes) : EIGRPTLV :=
  let length := beNat (cut buf 2 4)
  { type := beNat (cut buf 0 2), length, value := cut buf 4 length }

def unpack (buf : Bytes) : Except PyError EIGRPTLV :=
  if buf.length < 4 then .error .structError else .ok (ofBytes buf)

def bytes (self : EIGRPTLV) : Except PyError Bytes := do
  let header ← packFields [(2, self.type), (2, self.length)]
  .ok (header ++ self.value)

end EIGRPTLV

def metricScaled : Nat := 0x0601

def metricExtended : Nat := 0x0602

def tlvInternalRoute : Nat := 0x0102

/-- A metric TLV, with what the class that `_metric_sw` has for it reads off
its value. -/
structure EIGRPMetricTLV extends EIGRPTLV where
  /-- `scaled_delay` and `scaled_bandwidth` -/
  scaled : Option (Nat × Nat)
  /-- `jitter`, `energy` and `rflags` -/
  extended : Option (Nat × Nat × Nat)

def EIGRPMetricTLV.ofBytes (buf : Bytes) : EIGRPMetricTLV :=
  let tlv := EIGRPTLV.ofBytes buf
  { tlv with
    scaled :=
      if tlv.type = metricScaled ∧ tlv.value.length ≥ 8 then
        some (beNat (cut tlv.value 0 4), beNat (cut tlv.value 4 8))
      else none
    extended :=
      if tlv.type = metricExtended ∧ tlv.value.length ≥ 9 then
        some (beNat (cut tlv.value 0 4), beNat (cut tlv.value 4 8),
          (tlv.value.getD 8 0).toNat)
      else none }

/-- The loop over the metrics, from where the rest of the value begins. -/
def metricsFrom (rest : Bytes) : List EIGRPMetricTLV :=
  if 4 ≤ rest.length then
    let slen := beNat (cut rest 2 4)
    if slen < 4 ∨ rest.length < slen then []
    else
      EIGRPMetricTLV.ofBytes (rest.take slen) :: metricsFrom (rest.drop slen)
  else []
termination_by rest.length
decreasing_by
  rw [List.length_drop]
  omega

structure EIGRPInternalRouteTLV where
  nextHop : Nat := 0
  delay : Nat := 0
  bandwidth : Nat := 0
  mtu : Nat := 1500
  hopCount : Nat := 0
  reliability : Nat := 255
  load : Nat := 1
  prefixLength : Nat := 0
  prefix_ : Bytes := []
  metrics : List EIGRPMetricTLV := []

/-- `(prefix_length + 7) // 8` -/
def prefixBytes (prefixLength : Nat) : Nat := (prefixLength + 7) / 8

namespace EIGRPInternalRouteTLV

/-- `EIGRPInternalRouteTLV(buf)` -/
def parse (buf : Bytes) : Except PyError EIGRPInternalRouteTLV := do
  let tlv ← EIGRPTLV.unpack buf
  let value := tlv.value
  if value.length < 26 then .ok {}
  else
    let nextHop ← unpackBe 4 (cut value 0 4)
    let delay ← unpackBe 4 (cut value 4 8)
    let bandwidth ← unpackBe 4 (cut value 8 12)
    let mtu ← unpackBe 4 (cut value 12 15 ++ [0])
    let hopCount ← byteAt value 15
    let reliability ← byteAt value 16
    let load ← byteAt value 17
    let prefixLength ← byteAt value 20
    let offset := 21 + prefixBytes prefixLength
    .ok
      { nextHop
        delay
        bandwidth
        mtu := mtu >>> 8
        hopCount
        reliability
        load
        prefixLength
        prefix_ := cut value 21 offset
        metrics := metricsFrom (value.drop offset) }

def bytes (self : EIGRPInternalRouteTLV) : Except PyError Bytes := do
  let words ← packFields
    [(4, self.nextHop), (4, self.delay), (4, self.bandwidth)]
  let mtu ← packBe 4 (self.mtu <<< 8)
  let hopCount ← byteOf self.hopCount
  let reliability ← byteOf self.reliability
  let load ← byteOf self.load
  let prefixLength ← byteOf self.prefixLength
  let metrics ← joinBytes (fun metric => metric.bytes) self.metrics
  let value := words ++ mtu.take 3 ++
    (hopCount ++ reliability ++ load ++ zeros 2 ++ prefixLength) ++
    packString (prefixBytes self.prefixLength) self.prefix_ ++ metrics
  let header ← packFields [(2, tlvInternalRoute), (2, 4 + value.length)]
  .ok (header ++ value)

end EIGRPInternalRouteTLV

/-! ### One TLV -/

/-- The values fit their fields, and the length counts the header too. -/
structure EIGRPTLV.Wellformed (tlv : EIGRPTLV) : Prop where
  type : tlv.type < 256 ^ 2
  fits : tlv.length < 256 ^ 2
  length : tlv.length = 4 + tlv.value.length

namespace EIGRPTLV

def encoded (tlv : EIGRPTLV) : Bytes :=
  beBytes 2 tlv.type ++ (beBytes 2 tlv.length ++ tlv.value)

variable {tlv : EIGRPTLV}

theorem encoded_length (good : tlv.Wellformed) :
    tlv.encoded.length = tlv.length := by
  unfold encoded
  rw [List.length_append, List.length_append, beBytes_length, beBytes_length,
    good.length]
  omega

theorem bytes_ok (good : tlv.Wellformed) : tlv.bytes = .ok tlv.encoded := by
  have fits : FieldsFit [(2, tlv.type), (2, tlv.length)] := by
    rw [fieldsFit_cons, fieldsFit_cons]
    exact ⟨good.type, good.fits, fieldsFit_nil⟩
  unfold bytes encoded
  rw [packFields_eq_ok_iff.mpr ⟨fits, rfl⟩, ok_bind]
  simp

theorem written {type : Nat} (typeFits : type < 256 ^ 2) (value : Bytes) :
    (do
      let header ← packFields [(2, type), (2, 4 + value.length)]
      .ok (header ++ value) : Except PyError Bytes) =
      if 4 + value.length < 256 ^ 2 then
        .ok (encoded { type, length := 4 + value.length, value })
      else .error .structError := by
  split
  · rename_i fits
    have good : Wellformed { type, length := 4 + value.length, value } :=
      ⟨typeFits, fits, rfl⟩
    exact bytes_ok good
  · rename_i long
    have refused : packBe 2 (4 + value.length) = .error .structError :=
      if_neg long
    rw [packFields, packBe_ok typeFits, ok_bind, packFields, refused]
    rfl

theorem length_of_encoded (good : tlv.Wellformed) (rest : Bytes) :
    beNat (cut (tlv.encoded ++ rest) 2 4) = tlv.length := by
  unfold encoded
  rw [List.append_assoc, List.append_assoc, cut_behind_beBytes le_rfl,
    cut_beBytes, beNat_beBytes good.fits]

theorem ofBytes_encoded (good : tlv.Wellformed) :
    ofBytes tlv.encoded = tlv := by
  have length := length_of_encoded good []
  have type : cut tlv.encoded 0 2 = beBytes 2 tlv.type := cut_beBytes _ _ _
  have size := good.length
  rw [List.append_nil] at length
  have value : cut tlv.encoded 4 tlv.length = tlv.value := by
    unfold encoded
    rw [cut_behind_beBytes (by decide), cut_behind_beBytes (by decide), size]
    exact List.take_of_length_le (by rw [List.length_drop]; omega)
  unfold ofBytes
  dsimp only
  rw [length, type, beNat_beBytes good.type, value]

theorem unpack_encoded (good : tlv.Wellformed) :
    unpack tlv.encoded = .ok tlv := by
  have long : ¬tlv.encoded.length < 4 := by
    rw [encoded_length good, good.length]
    omega
  unfold unpack
  rw [if_neg long, ofBytes_encoded good]

end EIGRPTLV

theorem metricsFrom_encoded {metrics : List EIGRPMetricTLV}
    (good : ∀ metric ∈ metrics, metric.Wellformed) :
    metricsFrom (metrics.map fun metric => metric.encoded).flatten =
      metrics.map fun metric => .ofBytes metric.encoded := by
  induction metrics with
  | nil =>
      rw [List.map_nil, List.flatten_nil, metricsFrom]
      rfl
  | cons metric rest ih =>
      rw [List.forall_mem_cons] at good
      have size := EIGRPTLV.encoded_length good.1
      have header := good.1.length
      rw [List.map_cons, List.flatten_cons, metricsFrom,
        if_pos (by rw [List.length_append]; omega)]
      dsimp only
      rw [EIGRPTLV.length_of_encoded good.1,
        if_neg (by rw [List.length_append]; omega), ← size, List.take_left,
        List.drop_left, ih good.2]
      rfl

theorem joinBytes_encoded {metrics : List EIGRPMetricTLV}
    (good : ∀ metric ∈ metrics, metric.Wellformed) :
    joinBytes (fun metric => metric.bytes) metrics =
      .ok (metrics.map fun metric => metric.encoded).flatten := by
  refine joinBytes_chunks (List.forall₂_map_left_iff.mpr ?_)
  exact List.forall₂_same.mpr fun metric member =>
    EIGRPTLV.bytes_ok (good metric member)

theorem flatten_encoded_length {metrics : List EIGRPMetricTLV}
    (good : ∀ metric ∈ metrics, metric.Wellformed) :
    (metrics.map fun metric => metric.encoded).flatten.length =
      (metrics.map fun metric => metric.length).sum := by
  rw [List.length_flatten, List.map_map]
  refine congrArg List.sum (List.map_congr_left ?_)
  exact fun metric member => EIGRPTLV.encoded_length (good metric member)

/-! ### The route -/

namespace EIGRPInternalRouteTLV

/-- Fields in range, as many bytes of prefix as its length asks for, and metrics
whose length counts their value. -/
structure Wellformed (route : EIGRPInternalRouteTLV) : Prop where
  nextHop : route.nextHop < 256 ^ 4
  delay : route.delay < 256 ^ 4
  bandwidth : route.bandwidth < 256 ^ 4
  mtu : route.mtu < 256 ^ 3
  hopCount : route.hopCount < 256 ^ 1
  reliability : route.reliability < 256 ^ 1
  load : route.load < 256 ^ 1
  prefixLength : route.prefixLength ≤ 128
  prefix_ : route.prefix_.length = prefixBytes route.prefixLength
  metrics : ∀ metric ∈ route.metrics, metric.Wellformed

/-- The same route, with the same metrics by type, length and value. -/
structure SameRoute (read route : EIGRPInternalRouteTLV) : Prop where
  nextHop : read.nextHop = route.nextHop
  delay : read.delay = route.delay
  bandwidth : read.bandwidth = route.bandwidth
  mtu : read.mtu = route.mtu
  hopCount : read.hopCount = route.hopCount
  reliability : read.reliability = route.reliability
  load : read.load = route.load
  prefixLength : read.prefixLength = route.prefixLength
  prefix_ : read.prefix_ = route.prefix_
  metrics : read.metrics.map (·.toEIGRPTLV) = route.metrics.map (·.toEIGRPTLV)

/-- `EIGRPInternalRouteTLV(bytes(route))` is the same route. -/
def RoundTrips (route : EIGRPInternalRouteTLV) : Prop :=
  ∃ data read, route.bytes = .ok data ∧ parse data = .ok read ∧
    SameRoute read route

def size (route : EIGRPInternalRouteTLV) : Nat :=
  21 + prefixBytes route.prefixLength +
    (route.metrics.map fun metric => metric.length).sum

def fixedPart (route : EIGRPInternalRouteTLV) : Bytes :=
  beBytes 4 route.nextHop ++ (beBytes 4 route.delay ++
    (beBytes 4 route.bandwidth ++ (beBytes 3 route.mtu ++
      (beBytes 1 route.hopCount ++ (beBytes 1 route.reliability ++
        (beBytes 1 route.load ++
          (beBytes 2 0 ++ beBytes 1 route.prefixLength)))))))

def value (route : EIGRPInternalRouteTLV) : Bytes :=
  route.fixedPart ++ (route.prefix_ ++
    (route.metrics.map fun metric => metric.encoded).flatten)

def tlv (route : EIGRPInternalRouteTLV) : EIGRPTLV :=
  { type := tlvInternalRoute, length := 4 + route.size, value := route.value }

variable {route : EIGRPInternalRouteTLV}

theorem fixedPart_length (route : EIGRPInternalRouteTLV) :
    route.fixedPart.length = 21 := by
  simp [fixedPart]

theorem value_length (good : route.Wellformed) :
    route.value.length = route.size := by
  unfold value size
  rw [List.length_append, List.length_append, fixedPart_length, good.prefix_,
    flatten_encoded_length good.metrics]
  omega

theorem tlv_wellformed (good : route.Wellformed)
    (fits : 4 + route.size < 256 ^ 2) : route.tlv.Wellformed :=
  { type := (by decide : tlvInternalRoute < 256 ^ 2)
    fits := fits
    length := congrArg (4 + ·) (value_length good).symm }

theorem prefixLength_lt (good : route.Wellformed) : route.prefixLength < 256 :=
  lt_of_le_of_lt good.prefixLength (by decide)

theorem beBytes_shifted (mtu : Nat) :
    beBytes 4 (mtu <<< 8) = beBytes 3 mtu ++ [0] := by
  have high : (mtu <<< 8) / 256 = mtu := by
    rw [Nat.shiftLeft_eq]
    omega
  have low : UInt8.ofNat (mtu <<< 8) = 0 := by
    rw [← UInt8.toNat_inj, UInt8.toNat_ofNat', Nat.shiftLeft_eq]
    change mtu * 2 ^ 8 % 2 ^ 8 = 0
    omega
  rw [beBytes, high, low]

theorem shifted_lt {mtu : Nat} (fits : mtu < 256 ^ 3) :
    mtu <<< 8 < 256 ^ 4 := by
  rw [Nat.shiftLeft_eq]
  omega

/-- What `__bytes__` of both routes begins with: the fixed part and the
prefix. -/
def front (self : EIGRPInternalRouteTLV) : Except PyError Bytes := do
  let words ← packFields
    [(4, self.nextHop), (4, self.delay), (4, self.bandwidth)]
  let mtu ← packBe 4 (self.mtu <<< 8)
  let hopCount ← byteOf self.hopCount
  let reliability ← byteOf self.reliability
  let load ← byteOf self.load
  let prefixLength ← byteOf self.prefixLength
  .ok (words ++ mtu.take 3 ++
    (hopCount ++ reliability ++ load ++ zeros 2 ++ prefixLength) ++
    packString (prefixBytes self.prefixLength) self.prefix_)

theorem bytes_front (self : EIGRPInternalRouteTLV) :
    self.bytes = (do
      let front ← self.front
      let metrics ← joinBytes (fun metric => metric.bytes) self.metrics
      let value := front ++ metrics
      let header ← packFields [(2, tlvInternalRoute), (2, 4 + value.length)]
      .ok (header ++ value)) := by
  unfold bytes front
  simp only [bind_assoc]
  rfl

theorem front_ok (good : route.Wellformed) :
    route.front = .ok (route.fixedPart ++ route.prefix_) := by
  have words : FieldsFit
      [(4, route.nextHop), (4, route.delay), (4, route.bandwidth)] := by
    rw [fieldsFit_cons, fieldsFit_cons, fieldsFit_cons]
    exact ⟨good.nextHop, good.delay, good.bandwidth, fieldsFit_nil⟩
  have mtu : (beBytes 3 route.mtu ++ [0]).take 3 = beBytes 3 route.mtu :=
    List.take_left' (beBytes_length 3 _)
  have zero : zeros 2 = beBytes 2 0 := by decide
  unfold front
  rw [packFields_eq_ok_iff.mpr ⟨words, rfl⟩, ok_bind,
    packBe_ok (shifted_lt good.mtu), ok_bind, byteOf_ok good.hopCount, ok_bind,
    byteOf_ok good.reliability, ok_bind, byteOf_ok good.load, ok_bind,
    byteOf_ok (prefixLength_lt good), ok_bind, packString_exact good.prefix_,
    beBytes_shifted, mtu]
  simp only [List.flatMap_cons, List.flatMap_nil, List.append_nil, zero,
    fixedPart, List.append_assoc]

theorem bytes_eq (good : route.Wellformed) :
    route.bytes = if 4 + route.size < 256 ^ 2 then .ok route.tlv.encoded
      else .error .structError := by
  rw [bytes_front, front_ok good, ok_bind, joinBytes_encoded good.metrics,
    ok_bind]
  dsimp only
  rw [List.append_assoc, show route.fixedPart ++ (route.prefix_ ++ _) =
    route.value from rfl, EIGRPTLV.written (by decide), value_length good]
  rfl

/-! ### Reading -/

section Layout

variable (rest : Bytes)

theorem fixedPart_layout (route : EIGRPInternalRouteTLV) :
    route.fixedPart ++ rest = beBytes 4 route.nextHop ++
      (beBytes 4 route.delay ++ (beBytes 4 route.bandwidth ++
        (beBytes 3 route.mtu ++ (beBytes 1 route.hopCount ++
          (beBytes 1 route.reliability ++ (beBytes 1 route.load ++
            (beBytes 2 0 ++ (beBytes 1 route.prefixLength ++ rest)))))))) := by
  simp only [fixedPart, List.append_assoc]

theorem words_of_fixedPart (route : EIGRPInternalRouteTLV) :
    cut (route.fixedPart ++ rest) 0 4 = beBytes 4 route.nextHop ∧
      cut (route.fixedPart ++ rest) 4 8 = beBytes 4 route.delay ∧
      cut (route.fixedPart ++ rest) 8 12 = beBytes 4 route.bandwidth ∧
      cut (route.fixedPart ++ rest) 12 15 = beBytes 3 route.mtu := by
  rw [fixedPart_layout]
  simp (disch := decide) only [cut_behind_beBytes, cut_beBytes, Nat.reduceSub,
    and_self]

theorem octets_of_fixedPart (good : route.Wellformed) :
    byteAt (route.fixedPart ++ rest) 15 = .ok route.hopCount ∧
      byteAt (route.fixedPart ++ rest) 16 = .ok route.reliability ∧
      byteAt (route.fixedPart ++ rest) 17 = .ok route.load ∧
      byteAt (route.fixedPart ++ rest) 20 = .ok route.prefixLength := by
  rw [fixedPart_layout]
  simp (disch := decide) only [byteAt_behind_beBytes, Nat.reduceSub]
  exact ⟨byteAt_front good.hopCount _, byteAt_front good.reliability _,
    byteAt_front good.load _, byteAt_front (prefixLength_lt good) _⟩

theorem rest_of_fixedPart (good : route.Wellformed) :
    cut (route.fixedPart ++ (route.prefix_ ++ rest)) 21
        (21 + prefixBytes route.prefixLength) = route.prefix_ ∧
      (route.fixedPart ++ (route.prefix_ ++ rest)).drop
        (21 + prefixBytes route.prefixLength) = rest := by
  rw [cut_behind (fixedPart_length route) le_rfl,
    drop_behind (fixedPart_length route) (Nat.le_add_right _ _), Nat.sub_self,
    Nat.add_sub_cancel_left]
  exact ⟨cut_front good.prefix_ _, List.drop_left' good.prefix_⟩

end Layout

/-- What is read of a value that begins like that of the route: the route, with
the metrics that are found behind the prefix, where the value is long enough,
and else a route that nothing was read into. -/
theorem parse_value (good : route.Wellformed) {tlv : EIGRPTLV}
    (tlvGood : tlv.Wellformed) {rest : Bytes}
    (value : tlv.value = route.fixedPart ++ (route.prefix_ ++ rest)) :
    parse tlv.encoded = .ok
      (if tlv.value.length < 26 then {}
        else { route with metrics := metricsFrom rest }) := by
  obtain ⟨nextHop, delay, bandwidth, mtu⟩ :=
    words_of_fixedPart (route.prefix_ ++ rest) route
  obtain ⟨hopCount, reliability, load, prefixLength⟩ :=
    octets_of_fixedPart (route.prefix_ ++ rest) good
  obtain ⟨prefix_, behind⟩ := rest_of_fixedPart rest good
  rw [← value] at nextHop delay bandwidth mtu
  rw [← value] at hopCount reliability load prefixLength prefix_ behind
  unfold parse
  rw [EIGRPTLV.unpack_encoded tlvGood, ok_bind]
  dsimp only
  split
  · rfl
  · rw [nextHop, unpackBe_beBytes good.nextHop, ok_bind, delay,
      unpackBe_beBytes good.delay, ok_bind, bandwidth,
      unpackBe_beBytes good.bandwidth, ok_bind, mtu, ← beBytes_shifted,
      unpackBe_beBytes (shifted_lt good.mtu), ok_bind, hopCount, ok_bind,
      reliability, ok_bind, load, ok_bind, prefixLength, ok_bind,
      Nat.shiftLeft_shiftRight, prefix_, behind]

theorem parse_tlv (good : route.Wellformed) (fits : 4 + route.size < 256 ^ 2) :
    parse route.tlv.encoded = .ok
      (if route.size < 26 then {}
        else { route with
          metrics := route.metrics.map fun metric =>
            .ofBytes metric.encoded }) := by
  have read := parse_value good (tlv_wellformed good fits) rfl
  rw [show route.tlv.value = route.value from rfl, value_length good,
    metricsFrom_encoded good.metrics] at read
  exact read

theorem sameRoute_reread (good : route.Wellformed) :
    SameRoute { route with
      metrics := route.metrics.map fun metric => .ofBytes metric.encoded }
      route := by
  refine ⟨rfl, rfl, rfl, rfl, rfl, rfl, rfl, rfl, rfl, ?_⟩
  rw [List.map_map]
  exact List.map_congr_left fun metric member =>
    EIGRPTLV.ofBytes_encoded (good.metrics metric member)

/-- A route survives where its value has at least 26 bytes, five more than the
fixed part, and a length that can be written, and where nothing needs to be
read. -/
theorem roundTrips_iff (good : route.Wellformed) :
    route.RoundTrips ↔
      26 ≤ route.size ∧ 4 + route.size < 256 ^ 2 ∨ SameRoute {} route := by
  unfold RoundTrips
  rw [bytes_eq good]
  by_cases fits : 4 + route.size < 256 ^ 2
  · have read := parse_tlv good fits
    rw [if_pos fits]
    by_cases short : route.size < 26
    · rw [if_pos short] at read
      constructor
      · rintro ⟨data, found, written, parsed, same⟩
        cases written
        rw [read, Except.ok.injEq] at parsed
        subst parsed
        exact Or.inr same
      · rintro (⟨long, _fits⟩ | same)
        · omega
        · exact ⟨_, {}, rfl, read, same⟩
    · rw [if_neg short] at read
      refine iff_of_true ?_ (Or.inl ⟨by omega, fits⟩)
      exact ⟨_, _, rfl, read, sameRoute_reread good⟩
  · rw [if_neg fits]
    constructor
    · rintro ⟨data, found, impossible, _⟩
      cases impossible
    · rintro (⟨_long, short⟩ | same)
      · exact absurd short fits
      · -- a route that nothing was read into is short
        have none : route.metrics = [] :=
          List.map_eq_nil_iff.mp same.metrics.symm
        unfold size at fits
        rw [← same.prefixLength, none] at fits
        exact absurd (by decide) fits

def meteredRoute : EIGRPInternalRouteTLV :=
  { nextHop := 0x0a000001
    delay := 1000
    bandwidth := 100000
    prefixLength := 24
    prefix_ := [10, 0, 0]
    metrics :=
      [.ofBytes (beBytes 2 metricScaled ++ beBytes 2 12 ++ beBytes 4 100 ++
        beBytes 4 1000)] }

theorem meteredRoute_kept : meteredRoute.RoundTrips := by
  refine (roundTrips_iff ?_).mpr (Or.inl (by decide +kernel))
  constructor <;> try decide +kernel
  exact List.forall_mem_singleton.mpr
    ⟨by decide +kernel, by decide +kernel, by decide +kernel⟩

/-- A route to a host, without metrics. -/
def hostRoute : EIGRPInternalRouteTLV :=
  { nextHop := 0x0a000001
    delay := 1000
    bandwidth := 100000
    prefixLength := 32
    prefix_ := [10, 1, 2, 3] }

theorem hostRoute_wellformed : hostRoute.Wellformed where
  nextHop := by decide
  delay := by decide
  bandwidth := by decide
  mtu := by decide
  hopCount := by decide
  reliability := by decide
  load := by decide
  prefixLength := by decide
  prefix_ := rfl
  metrics := List.forall_mem_nil _

/-- What is read has no next hop, and is a route to everywhere. -/
theorem hostRoute_not_kept : hostRoute.Wellformed ∧ ¬hostRoute.RoundTrips := by
  refine ⟨hostRoute_wellformed, ?_⟩
  rintro ⟨data, read, written, parsed, same⟩
  rw [bytes_eq hostRoute_wellformed, if_pos (by decide)] at written
  cases written
  rw [parse_tlv hostRoute_wellformed (by decide), if_pos (by decide)] at parsed
  cases parsed
  exact absurd same.nextHop (by decide)

end EIGRPInternalRouteTLV

end DpktNg.Eigrp
