/-
The EIGRP external route, dpkt/eigrp.py.  It is written with 14 bytes between
the prefix and the metrics; the parser of the internal route, which it calls,
takes what stands there for metrics already.
-/

import DpktNg.Eigrp.InternalRoute
import DpktNg.Library.Chunks

namespace DpktNg.Eigrp

open Library

def tlvExternalRoute : Nat := 0x0103

structure EIGRPExternalRouteTLV extends EIGRPInternalRouteTLV where
  originRouter : Nat := 0
  originAs : Nat := 0
  tag : Nat := 0
  extProto : Nat := 0
  extFlags : Nat := 0

namespace EIGRPExternalRouteTLV

/-- `EIGRPExternalRouteTLV(buf)` -/
def parse (buf : Bytes) : Except PyError EIGRPExternalRouteTLV := do
  let route ← EIGRPInternalRouteTLV.parse buf
  let value := (EIGRPTLV.ofBytes buf).value
  let extOffset := 21 + prefixBytes route.prefixLength
  if extOffset + 13 ≤ value.length then do
    let originRouter ← unpackBe 4 (cut value extOffset (extOffset + 4))
    let originAs ← unpackBe 4 (cut value (extOffset + 4) (extOffset + 8))
    let tag ← unpackBe 4 (cut value (extOffset + 8) (extOffset + 12))
    let extProto ← byteAt value (extOffset + 12)
    let extFlags ← byteAt value (extOffset + 13)
    .ok
      { toEIGRPInternalRouteTLV := route
        originRouter
        originAs
        tag
        extProto
        extFlags }
  else .ok { toEIGRPInternalRouteTLV := route }

def bytes (self : EIGRPExternalRouteTLV) : Except PyError Bytes := do
  let front ← self.front
  let ext ← packFields
    [(4, self.originRouter), (4, self.originAs), (4, self.tag),
      (1, self.extProto), (1, self.extFlags)]
  let metrics ← joinBytes (fun metric => metric.bytes) self.metrics
  let value := front ++ ext ++ metrics
  let header ← packFields [(2, tlvExternalRoute), (2, 4 + value.length)]
  .ok (header ++ value)

end EIGRPExternalRouteTLV

/-- A TLV says how long it is, with its header. -/
def tlvCutter : Cutter UInt8 :=
  Cutter.ofHeader 4 (fun buf => beNat (cut buf 2 4)) (by decide)
    fun _buf _enough => by rw [cut_take le_rfl]

theorem tlvCutter_eq_some {buf : Bytes} {size : Nat} :
    tlvCutter.next buf = some size ↔
      4 ≤ buf.length ∧ 4 ≤ size ∧ size ≤ buf.length ∧
        beNat (cut buf 2 4) = size :=
  Cutter.ofHeader_eq_some

theorem tlvCutter_eq_none {buf : Bytes} :
    tlvCutter.next buf = none ↔
      buf.length < 4 ∨ beNat (cut buf 2 4) < 4 ∨
        buf.length < beNat (cut buf 2 4) :=
  Cutter.ofHeader_eq_none

theorem tlvCutter_encoded {tlv : EIGRPTLV} (good : tlv.Wellformed) :
    tlvCutter.Whole tlv.encoded := by
  have length := EIGRPTLV.length_of_encoded good []
  have size := EIGRPTLV.encoded_length good
  have header := good.length
  rw [List.append_nil] at length
  exact tlvCutter_eq_some.mpr
    ⟨by omega, by omega, le_rfl, length.trans size.symm⟩

theorem encoded_ofBytes {chunk : Bytes} (whole : tlvCutter.Whole chunk) :
    (EIGRPTLV.ofBytes chunk).encoded = chunk := by
  obtain ⟨enough, _least, _within, length⟩ :=
    tlvCutter_eq_some.mp whole
  have type : beBytes 2 (beNat (cut chunk 0 2)) = cut chunk 0 2 := by
    have again := beBytes_beNat (cut chunk 0 2)
    rw [cut_length_of_le (by omega)] at again
    exact again
  have size : beBytes 2 (beNat (cut chunk 2 4)) = cut chunk 2 4 := by
    have again := beBytes_beNat (cut chunk 2 4)
    rw [cut_length_of_le (by omega)] at again
    exact again
  have whole : cut chunk 0 chunk.length = chunk := List.take_length
  unfold EIGRPTLV.encoded EIGRPTLV.ofBytes
  dsimp only
  rw [type, size, length, cut_append_cut chunk (by omega) enough,
    cut_append_cut chunk (by omega) (by omega), whole]

theorem metricsFrom_chunks (rest : Bytes) :
    metricsFrom rest =
      (tlvCutter.chunks rest).map EIGRPMetricTLV.ofBytes := by
  fun_induction metricsFrom rest with
  | case1 rest enough slen stops =>
      have none : tlvCutter.next rest = none :=
        tlvCutter_eq_none.mpr (Or.inr stops)
      rw [Cutter.chunks_none none]
      rfl
  | case2 rest enough slen goes ih =>
      have here : tlvCutter.next rest = some slen := by
        refine tlvCutter_eq_some.mpr ⟨enough, ?_, ?_, rfl⟩
        · omega
        · omega
      rw [Cutter.chunks_some here, List.map_cons, ih]
  | case3 rest short =>
      have none : tlvCutter.next rest = none :=
        tlvCutter_eq_none.mpr (Or.inl (by omega))
      rw [Cutter.chunks_none none]
      rfl

theorem metricsFrom_same_iff {metrics : List EIGRPMetricTLV}
    (good : ∀ metric ∈ metrics, metric.Wellformed) (rest : Bytes) :
    (metricsFrom rest).map (·.toEIGRPTLV) = metrics.map (·.toEIGRPTLV) ↔
      tlvCutter.chunks rest = metrics.map fun metric => metric.encoded := by
  have tlvs : (metricsFrom rest).map (·.toEIGRPTLV) =
      (tlvCutter.chunks rest).map EIGRPTLV.ofBytes := by
    rw [metricsFrom_chunks, List.map_map]
    rfl
  rw [tlvs]
  constructor
  · intro same
    have encoded := congrArg (List.map EIGRPTLV.encoded) same
    rw [List.map_map, List.map_map] at encoded
    refine Eq.trans ?_ encoded
    refine ((List.map_congr_left ?_).trans (List.map_id _)).symm
    intro chunk member
    exact encoded_ofBytes ((Cutter.chunks_spec tlvCutter rest).1 chunk member)
  · intro same
    rw [same, List.map_map]
    exact List.map_congr_left fun metric member =>
      EIGRPTLV.ofBytes_encoded (good metric member)

namespace EIGRPExternalRouteTLV

structure Wellformed (route : EIGRPExternalRouteTLV) : Prop where
  internal : route.toEIGRPInternalRouteTLV.Wellformed
  originRouter : route.originRouter < 256 ^ 4
  originAs : route.originAs < 256 ^ 4
  tag : route.tag < 256 ^ 4
  extProto : route.extProto < 256 ^ 1
  extFlags : route.extFlags < 256 ^ 1

structure SameRoute (read route : EIGRPExternalRouteTLV) : Prop where
  internal : EIGRPInternalRouteTLV.SameRoute read.toEIGRPInternalRouteTLV
    route.toEIGRPInternalRouteTLV
  originRouter : read.originRouter = route.originRouter
  originAs : read.originAs = route.originAs
  tag : read.tag = route.tag
  extProto : read.extProto = route.extProto
  extFlags : read.extFlags = route.extFlags

/-- `EIGRPExternalRouteTLV(bytes(route))` is the same route. -/
def RoundTrips (route : EIGRPExternalRouteTLV) : Prop :=
  ∃ data read, route.bytes = .ok data ∧ parse data = .ok read ∧
    SameRoute read route

/-- The 14 bytes behind the prefix. -/
def external (route : EIGRPExternalRouteTLV) : Bytes :=
  beBytes 4 route.originRouter ++ (beBytes 4 route.originAs ++
    (beBytes 4 route.tag ++
      (beBytes 1 route.extProto ++ beBytes 1 route.extFlags)))

def metricBytes (route : EIGRPExternalRouteTLV) : Bytes :=
  (route.metrics.map fun metric => metric.encoded).flatten

def size (route : EIGRPExternalRouteTLV) : Nat :=
  route.toEIGRPInternalRouteTLV.size + 14

def value (route : EIGRPExternalRouteTLV) : Bytes :=
  route.fixedPart ++ (route.prefix_ ++ (route.external ++ route.metricBytes))

def tlv (route : EIGRPExternalRouteTLV) : EIGRPTLV :=
  { type := tlvExternalRoute, length := 4 + route.size, value := route.value }

/-- The metrics stand at the beginning of the external bytes as well, and the
length in the 14 bytes behind them there is no length of a metric. -/
structure MetricsStand (route : EIGRPExternalRouteTLV) : Prop where
  stand : route.metricBytes <+: route.external ++ route.metricBytes
  ends : ∀ length, length = beNat (cut ((route.external ++
    route.metricBytes).drop route.metricBytes.length) 2 4) →
      length < 4 ∨ 14 < length

variable {route : EIGRPExternalRouteTLV}

@[simp] theorem external_length (route : EIGRPExternalRouteTLV) :
    route.external.length = 14 := by
  simp [external]

theorem value_length (good : route.Wellformed) :
    route.value.length = route.size := by
  unfold value size EIGRPInternalRouteTLV.size metricBytes
  rw [List.length_append, List.length_append, List.length_append,
    EIGRPInternalRouteTLV.fixedPart_length, good.internal.prefix_,
    external_length, flatten_encoded_length good.internal.metrics]
  omega

theorem tlv_wellformed (good : route.Wellformed)
    (fits : 4 + route.size < 256 ^ 2) : route.tlv.Wellformed :=
  { type := (by decide : tlvExternalRoute < 256 ^ 2)
    fits := fits
    length := congrArg (4 + ·) (value_length good).symm }

theorem bytes_eq (good : route.Wellformed) :
    route.bytes = if 4 + route.size < 256 ^ 2 then .ok route.tlv.encoded
      else .error .structError := by
  have fits : FieldsFit
      [(4, route.originRouter), (4, route.originAs), (4, route.tag),
        (1, route.extProto), (1, route.extFlags)] := by
    rw [fieldsFit_cons, fieldsFit_cons, fieldsFit_cons, fieldsFit_cons,
      fieldsFit_cons]
    exact ⟨good.originRouter, good.originAs, good.tag, good.extProto,
      good.extFlags, fieldsFit_nil⟩
  have ext : packFields
      [(4, route.originRouter), (4, route.originAs), (4, route.tag),
        (1, route.extProto), (1, route.extFlags)] = .ok route.external := by
    rw [packFields_eq_ok_iff.mpr ⟨fits, rfl⟩]
    simp only [List.flatMap_cons, List.flatMap_nil, List.append_nil, external]
  have joined : route.fixedPart ++ route.prefix_ ++ route.external ++
      (route.metrics.map fun metric => metric.encoded).flatten =
        route.value := by
    simp only [value, metricBytes, List.append_assoc]
  unfold bytes
  rw [EIGRPInternalRouteTLV.front_ok good.internal, ok_bind, ext, ok_bind,
    joinBytes_encoded good.internal.metrics, ok_bind]
  dsimp only
  rw [joined, EIGRPTLV.written (by decide), value_length good]
  rfl

theorem external_of_value (good : route.Wellformed) :
    route.value.drop (21 + prefixBytes route.prefixLength) =
      route.external ++ route.metricBytes :=
  (EIGRPInternalRouteTLV.rest_of_fixedPart _ good.internal).2

theorem words_of_external (route : EIGRPExternalRouteTLV) (behind : Bytes) :
    cut (route.external ++ behind) 0 4 = beBytes 4 route.originRouter ∧
      cut (route.external ++ behind) 4 8 = beBytes 4 route.originAs ∧
      cut (route.external ++ behind) 8 12 = beBytes 4 route.tag := by
  unfold external
  simp (disch := decide) only [List.append_assoc, cut_behind_beBytes,
    cut_beBytes, Nat.reduceSub, and_self]

theorem octets_of_external (good : route.Wellformed) (behind : Bytes) :
    byteAt (route.external ++ behind) 12 = .ok route.extProto ∧
      byteAt (route.external ++ behind) 13 = .ok route.extFlags := by
  unfold external
  simp (disch := decide) only [List.append_assoc, byteAt_behind_beBytes,
    Nat.reduceSub]
  exact ⟨byteAt_front good.extProto _, byteAt_front good.extFlags _⟩

/-- Everything is read, but the metrics from the external bytes on. -/
theorem parse_tlv (good : route.Wellformed) (fits : 4 + route.size < 256 ^ 2) :
    parse route.tlv.encoded = .ok
      { route with
        metrics := metricsFrom (route.external ++ route.metricBytes) } := by
  have tlvGood := tlv_wellformed good fits
  have internal := EIGRPInternalRouteTLV.parse_value good.internal tlvGood
    (show route.tlv.value = _ from rfl)
  have size : route.tlv.value.length = route.size := value_length good
  have long : ¬route.size < 26 := by
    unfold EIGRPExternalRouteTLV.size EIGRPInternalRouteTLV.size
    omega
  have enough : 21 + prefixBytes route.prefixLength + 13 ≤ route.size := by
    unfold EIGRPExternalRouteTLV.size EIGRPInternalRouteTLV.size
    omega
  have here := external_of_value good
  have slice (start stop : Nat) :
      cut route.value (21 + prefixBytes route.prefixLength + start)
          (21 + prefixBytes route.prefixLength + stop) =
        cut (route.external ++ route.metricBytes) start stop := by
    rw [← here, cut_drop]
  have octet (index : Nat) :
      byteAt route.value (21 + prefixBytes route.prefixLength + index) =
        byteAt (route.external ++ route.metricBytes) index := by
    unfold byteAt
    rw [← here, List.getElem?_drop]
  obtain ⟨originRouter, originAs, tag⟩ :=
    words_of_external route route.metricBytes
  obtain ⟨extProto, extFlags⟩ := octets_of_external good route.metricBytes
  have first : cut route.value (21 + prefixBytes route.prefixLength)
      (21 + prefixBytes route.prefixLength + 4) =
        beBytes 4 route.originRouter := (slice 0 4).trans originRouter
  rw [size, if_neg long] at internal
  unfold parse
  rw [internal, ok_bind, EIGRPTLV.ofBytes_encoded tlvGood]
  dsimp only
  rw [size, if_pos enough, show route.tlv.value = route.value from rfl, first,
    unpackBe_beBytes good.originRouter, ok_bind, slice, originAs,
    unpackBe_beBytes good.originAs, ok_bind, slice, tag,
    unpackBe_beBytes good.tag, ok_bind, octet, extProto, ok_bind, octet,
    extFlags, ok_bind]

/-- The metrics are found where they stand in front of everything else. -/
theorem metrics_found_iff (good : route.Wellformed) :
    (metricsFrom (route.external ++ route.metricBytes)).map (·.toEIGRPTLV) =
        route.metrics.map (·.toEIGRPTLV) ↔ route.MetricsStand := by
  have whole : ∀ chunk ∈ route.metrics.map fun metric => metric.encoded,
      tlvCutter.Whole chunk := by
    rw [List.forall_mem_map]
    exact fun metric member => tlvCutter_encoded (good.internal.metrics metric
      member)
  have left : ((route.external ++ route.metricBytes).drop
      route.metricBytes.length).length = 14 := by
    rw [List.length_drop, List.length_append, external_length]
    omega
  rw [metricsFrom_same_iff good.internal.metrics, Cutter.chunks_eq_iff whole]
  change route.metricBytes <+: route.external ++ route.metricBytes ∧
    tlvCutter.next ((route.external ++ route.metricBytes).drop
      route.metricBytes.length) = none ↔ _
  rw [tlvCutter_eq_none, left]
  constructor
  · rintro ⟨stand, ends⟩
    refine ⟨stand, ?_⟩
    rintro length rfl
    omega
  · rintro ⟨stand, ends⟩
    exact ⟨stand, Or.inr (ends _ rfl)⟩

theorem sameRoute_reread :
    SameRoute { route with
      metrics := metricsFrom (route.external ++ route.metricBytes) } route ↔
      (metricsFrom (route.external ++ route.metricBytes)).map (·.toEIGRPTLV) =
        route.metrics.map (·.toEIGRPTLV) := by
  constructor
  · exact fun same => same.internal.metrics
  · intro same
    exact ⟨⟨rfl, rfl, rfl, rfl, rfl, rfl, rfl, rfl, rfl, same⟩, rfl, rfl, rfl,
      rfl, rfl⟩

/-- A route survives where its length can be written and the external bytes
begin with the metrics. -/
theorem external_round_trip_iff (good : route.Wellformed) :
    route.RoundTrips ↔ 4 + route.size < 256 ^ 2 ∧ route.MetricsStand := by
  unfold RoundTrips
  rw [bytes_eq good]
  by_cases fits : 4 + route.size < 256 ^ 2
  · have read := parse_tlv good fits
    rw [if_pos fits, and_iff_right fits, ← metrics_found_iff good,
      ← sameRoute_reread]
    constructor
    · rintro ⟨data, found, written, parsed, same⟩
      cases written
      rw [read, Except.ok.injEq] at parsed
      rw [parsed]
      exact same
    · intro same
      exact ⟨_, _, rfl, read, same⟩
  · rw [if_neg fits]
    refine iff_of_false ?_ fun both => fits both.1
    rintro ⟨data, found, impossible, _⟩
    cases impossible

def plainRoute : EIGRPExternalRouteTLV :=
  { nextHop := 0x0a000001
    prefixLength := 24
    prefix_ := [10, 0, 0]
    originRouter := 0x0a0000fe
    tag := 100 }

theorem plainRoute_kept : plainRoute.RoundTrips := by
  refine (external_round_trip_iff ?_).mpr ⟨by decide +kernel, ?_⟩
  · refine ⟨?_, by decide, by decide, by decide, by decide, by decide⟩
    exact ⟨by decide, by decide, by decide, by decide, by decide, by decide,
      by decide, by decide, rfl, List.forall_mem_nil _⟩
  · refine ⟨List.nil_prefix, ?_⟩
    rintro length rfl
    decide +kernel

def meteredRoute : EIGRPExternalRouteTLV :=
  { plainRoute with
    metrics :=
      [.ofBytes (beBytes 2 metricScaled ++ beBytes 2 12 ++ beBytes 4 100 ++
        beBytes 4 1000)] }

theorem meteredRoute_wellformed : meteredRoute.Wellformed := by
  refine ⟨?_, by decide, by decide, by decide, by decide, by decide⟩
  refine ⟨by decide, by decide, by decide, by decide, by decide, by decide,
    by decide, by decide, rfl, List.forall_mem_singleton.mpr ?_⟩
  exact ⟨by decide +kernel, by decide +kernel, by decide +kernel⟩

/-- What is read has no metrics. -/
theorem meteredRoute_loses_metric :
    meteredRoute.Wellformed ∧ ¬meteredRoute.RoundTrips := by
  refine ⟨meteredRoute_wellformed, ?_⟩
  rintro ⟨data, read, written, parsed, same⟩
  rw [bytes_eq meteredRoute_wellformed, if_pos (by decide +kernel)] at written
  cases written
  rw [parse_tlv meteredRoute_wellformed (by decide +kernel)] at parsed
  cases parsed
  have lengths := congrArg List.length same.internal.metrics
  revert lengths
  decide +kernel

end EIGRPExternalRouteTLV

end DpktNg.Eigrp
