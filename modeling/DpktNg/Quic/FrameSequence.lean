/-
Sequences of encoded frames, and what `parse_frames` makes of them.
-/

import DpktNg.Quic.Frames

namespace DpktNg.Quic

open Library

/-! ### Encoded frames -/

/-- An integer and a width that has room for it. -/
structure WireInt where
  width : Width
  value : Nat
  room : value < width.capacity

def WireInt.bytes (field : WireInt) : Bytes := varint field.width field.value

/-- Bytes and the width in which their length is encoded. -/
structure WireData where
  width : Width
  data : Bytes
  room : data.length < width.capacity

def WireData.length (content : WireData) : WireInt :=
  ⟨content.width, content.data.length, content.room⟩

def WireData.bytes (content : WireData) : Bytes :=
  content.length.bytes ++ content.data

/-- The gap and the length of an ACK range. -/
structure WireRange where
  gap : WireInt
  ackLen : WireInt

def WireRange.bytes (range : WireRange) : Bytes :=
  range.gap.bytes ++ range.ackLen.bytes

def WireRange.values (range : WireRange) : Nat × Nat :=
  (range.gap.value, range.ackLen.value)

structure WireAck where
  largestAck : WireInt
  ackDelay : WireInt
  countWidth : Width
  firstAckRange : WireInt
  ranges : List WireRange
  room : ranges.length < countWidth.capacity

def WireAck.count (acked : WireAck) : WireInt :=
  ⟨acked.countWidth, acked.ranges.length, acked.room⟩

def WireAck.bytes (acked : WireAck) : Bytes :=
  acked.largestAck.bytes ++ acked.ackDelay.bytes ++ acked.count.bytes ++
    acked.firstAckRange.bytes ++ acked.ranges.flatMap WireRange.bytes

inductive WireFrame where
  | padding
  | ping
  | ack (acked : WireAck)
  | ackEcn (acked : WireAck) (ect0 ect1 ce : WireInt)
  | crypto (offset : WireInt) (content : WireData)
  | stream (fin : Bool) (streamId : WireInt) (offset : Option WireInt)
      (content : WireData)
  | maxData (limit : WireInt)
  | maxStreamData (streamId limit : WireInt)
  | transportClose (errorCode frameType : WireInt) (reason : WireData)
  | applicationClose (errorCode : WireInt) (reason : WireData)

/-- The type byte of a STREAM frame, with the LEN bit. -/
def streamType (fin : Bool) (offset : Option WireInt) : Nat :=
  0x0a + (if offset.isSome then 4 else 0) + (if fin then 1 else 0)

namespace WireFrame

def type : WireFrame → Nat
  | .padding => framePadding
  | .ping => framePing
  | .ack _ => frameAck
  | .ackEcn _ _ _ _ => frameAckEcn
  | .crypto _ _ => frameCrypto
  | .stream fin _ offset _ => streamType fin offset
  | .maxData _ => frameMaxData
  | .maxStreamData _ _ => frameMaxStreamData
  | .transportClose _ _ _ => frameConnectionClose
  | .applicationClose _ _ => frameConnectionCloseApp

def fields : WireFrame → Bytes
  | .padding => []
  | .ping => []
  | .ack acked => acked.bytes
  | .ackEcn acked ect0 ect1 ce =>
      acked.bytes ++ ect0.bytes ++ ect1.bytes ++ ce.bytes
  | .crypto offset content => offset.bytes ++ content.bytes
  | .stream _ streamId offset content =>
      streamId.bytes ++ (offset.elim [] WireInt.bytes) ++ content.bytes
  | .maxData limit => limit.bytes
  | .maxStreamData streamId limit => streamId.bytes ++ limit.bytes
  | .transportClose errorCode frameType reason =>
      errorCode.bytes ++ frameType.bytes ++ reason.bytes
  | .applicationClose errorCode reason => errorCode.bytes ++ reason.bytes

def bytes (frame : WireFrame) : Bytes := UInt8.ofNat frame.type :: frame.fields

end WireFrame

/-- The field values of a frame. -/
inductive Content where
  | plain (type : Nat)
  | ack (largestAck ackDelay blockCount firstAckRange : Nat)
      (blocks : List (Nat × Nat)) (ecnCounts : Option (Nat × Nat × Nat))
  | crypto (offset length : Nat) (data : Bytes)
  | stream (type streamId offset length : Nat) (data : Bytes)
  | maxData (limit : Nat)
  | maxStreamData (streamId limit : Nat)
  | connectionClose (errorCode : Nat) (frameType : Option Nat) (reason : Bytes)
deriving DecidableEq, Repr

def WireAck.content (acked : WireAck)
    (ecnCounts : Option (Nat × Nat × Nat)) : Content :=
  .ack acked.largestAck.value acked.ackDelay.value acked.ranges.length
    acked.firstAckRange.value (acked.ranges.map WireRange.values) ecnCounts

/-- The encoded field values.  Padding has none. -/
def WireFrame.content : WireFrame → Option Content
  | .padding => none
  | .ping => some (.plain framePing)
  | .ack acked => some (acked.content none)
  | .ackEcn acked ect0 ect1 ce =>
      some (acked.content (some (ect0.value, ect1.value, ce.value)))
  | .crypto offset content =>
      some (.crypto offset.value content.data.length content.data)
  | .stream fin streamId offset content =>
      some (.stream (streamType fin offset) streamId.value
        (offset.elim 0 WireInt.value) content.data.length content.data)
  | .maxData limit => some (.maxData limit.value)
  | .maxStreamData streamId limit =>
      some (.maxStreamData streamId.value limit.value)
  | .transportClose errorCode frameType reason =>
      some (.connectionClose errorCode.value (some frameType.value) reason.data)
  | .applicationClose errorCode reason =>
      some (.connectionClose errorCode.value none reason.data)

/-- The field values that a parsed frame has.  No class has ECN counts. -/
def Frame.content : Frame → Content
  | .plain type => .plain type
  | .stream type streamId offset length data =>
      .stream type streamId offset length data
  | .crypto _ offset length data _ => .crypto offset length data
  | .ack _ largestAck ackDelay blockCount firstAckRange blocks =>
      .ack largestAck ackDelay blockCount firstAckRange blocks none
  | .maxData _ limit => .maxData limit
  | .maxStreamData _ streamId limit => .maxStreamData streamId limit
  | .connectionClose _ errorCode frameType reason =>
      .connectionClose errorCode frameType reason

/-- The frames that are not padding come back, with their field values. -/
def Recovers (frames : List WireFrame) : Prop :=
  ∃ parsed, parseFrames (frames.flatMap WireFrame.bytes) = .ok parsed ∧
    parsed.map Frame.content = frames.filterMap WireFrame.content

@[simp] theorem WireInt.bytes_length (field : WireInt) :
    field.bytes.length = field.width.octets :=
  varint_length _ _

theorem WireInt.small (field : WireInt) : field.value < 2 ^ 62 :=
  lt_of_lt_of_le field.room field.width.capacity_le

theorem decodeVarint_at {buf : Bytes} {off : Nat} (field : WireInt)
    (here : field.bytes <+: buf.drop off) :
    decodeVarint buf off = .ok (field.value, field.bytes.length) := by
  obtain ⟨behind, same⟩ := here
  have positive := field.width.octets_pos
  have lengths := congrArg List.length same
  rw [List.length_append, WireInt.bytes_length, List.length_drop] at lengths
  have front : (buf.take off).length = off := by
    rw [List.length_take]
    omega
  have whole : buf.take off ++ field.bytes ++ behind = buf := by
    rw [List.append_assoc, same, List.take_append_drop]
  have decoded := decodeVarint_varint field.room (buf.take off) behind
  rw [front] at decoded
  rw [WireInt.bytes_length, ← decoded]
  congr 1
  exact whole.symm

theorem cut_at {buf data : Bytes} {off : Nat} (here : data <+: buf.drop off) :
    cut buf off (off + data.length) = data := by
  unfold cut
  rw [Nat.add_sub_cancel_left]
  exact (prefix_eq_take here).symm

theorem ackRange_at {buf : Bytes} {off : Nat} (range : WireRange)
    (here : range.bytes <+: buf.drop off) :
    Frame.ackRange buf off = .ok (range.values, off + range.bytes.length) := by
  have parts := append_isPrefix_drop here
  unfold Frame.ackRange
  rw [decodeVarint_at range.gap parts.1, ok_bind]
  dsimp only
  rw [decodeVarint_at range.ackLen parts.2, ok_bind]
  unfold WireRange.bytes
  rw [List.length_append, ← Nat.add_assoc]
  rfl

theorem ackRanges_at {buf : Bytes} (ranges : List WireRange) {off : Nat}
    (here : ranges.flatMap WireRange.bytes <+: buf.drop off) :
    readMany Frame.ackRange buf off ranges.length =
      .ok (ranges.map WireRange.values,
        off + (ranges.flatMap WireRange.bytes).length) := by
  induction ranges generalizing off with
  | nil => rfl
  | cons range rest ih =>
      rw [List.flatMap_cons] at here ⊢
      have parts := append_isPrefix_drop here
      rw [List.length_cons, readMany, ackRange_at range parts.1, ok_bind]
      dsimp only
      rw [ih parts.2, ok_bind, List.length_append, ← Nat.add_assoc]
      rfl

/-! ### Parsing one frame -/

/-- The frame that is parsed when `behind` follows. -/
def WireFrame.parsed (behind : Bytes) (tlsRecords : List Tls.TLSRecord) :
    WireFrame → Frame
  | .padding => .plain framePadding
  | .ping => .plain framePing
  | .ack acked =>
      .ack frameAck acked.largestAck.value acked.ackDelay.value
        acked.ranges.length acked.firstAckRange.value
        (acked.ranges.map WireRange.values)
  | .ackEcn acked _ _ _ =>
      .ack frameAckEcn acked.largestAck.value acked.ackDelay.value
        acked.ranges.length acked.firstAckRange.value
        (acked.ranges.map WireRange.values)
  | .crypto offset content =>
      .crypto frameCrypto offset.value content.data.length content.data
        tlsRecords
  | .stream fin streamId offset content =>
      .stream (streamType fin offset) streamId.value
        (offset.elim 0 WireInt.value) content.data.length
        (if content.data = [] then behind else content.data)
  | .maxData limit => .maxData frameMaxData limit.value
  | .maxStreamData streamId limit =>
      .maxStreamData frameMaxStreamData streamId.value limit.value
  | .transportClose errorCode frameType reason =>
      .connectionClose frameConnectionClose errorCode.value
        (some frameType.value) reason.data
  | .applicationClose errorCode reason =>
      .connectionClose frameConnectionCloseApp errorCode.value none reason.data

section Parsing

variable {buf : Bytes} {type : Nat}

theorem unpackAck_at {acked : WireAck} (typed : byteAt buf 0 = .ok type)
    (here : acked.bytes <+: buf.drop 1) :
    Frame.unpackAck buf =
      .ok (.ack type acked.largestAck.value acked.ackDelay.value
        acked.ranges.length acked.firstAckRange.value
        (acked.ranges.map WireRange.values)) := by
  have ranges := append_isPrefix_drop here
  have first := append_isPrefix_drop ranges.1
  have count := append_isPrefix_drop first.1
  have delay := append_isPrefix_drop count.1
  unfold Frame.unpackAck
  rw [typed, ok_bind, decodeVarint_at acked.largestAck delay.1, ok_bind]
  dsimp only
  rw [decodeVarint_at acked.ackDelay delay.2, ok_bind]
  dsimp only
  rw [Nat.add_assoc, ← List.length_append]
  rw [decodeVarint_at acked.count count.2, ok_bind]
  dsimp only
  rw [Nat.add_assoc, ← List.length_append,
    decodeVarint_at acked.firstAckRange first.2, ok_bind]
  dsimp only
  have read := ackRanges_at acked.ranges ranges.2
  rw [Nat.add_assoc, ← List.length_append]
  change readMany Frame.ackRange buf _ acked.count.value = _ at read
  rw [read, ok_bind]
  rfl

theorem unpackCrypto_at {offset : WireInt} {content : WireData}
    (typed : byteAt buf 0 = .ok type)
    (here : offset.bytes ++ content.bytes <+: buf.drop 1) :
    ∃ tlsRecords, Frame.unpackCrypto buf =
      .ok (.crypto type offset.value content.data.length content.data
        tlsRecords) := by
  have outer := append_isPrefix_drop here
  have inner := append_isPrefix_drop outer.2
  obtain ⟨tlsRecords, extracted⟩ := Frame.extractTls_succeeds content.data
  refine ⟨tlsRecords, ?_⟩
  unfold Frame.unpackCrypto
  rw [typed, ok_bind, decodeVarint_at offset outer.1, ok_bind]
  dsimp only
  rw [decodeVarint_at content.length inner.1, ok_bind]
  dsimp only
  have data := cut_at inner.2
  change cut buf _ (_ + content.length.value) = _ at data
  rw [data, extracted, ok_bind]
  rfl

theorem streamType_off (fin : Bool) (offset : Option WireInt) :
    streamType fin offset &&& 0x04 ≠ 0 ↔ offset.isSome := by
  unfold streamType
  cases offset.isSome <;> cases fin <;> decide

theorem streamType_len (fin : Bool) (offset : Option WireInt) :
    streamType fin offset &&& 0x02 ≠ 0 := by
  unfold streamType
  cases offset.isSome <;> cases fin <;> decide

theorem decodeWhen_at {off : Nat} (fin : Bool) (offset : Option WireInt)
    (here : offset.elim [] WireInt.bytes <+: buf.drop off) :
    decodeWhen (streamType fin offset &&& 0x04 ≠ 0) buf off =
      .ok (offset.elim 0 WireInt.value,
        (offset.elim [] WireInt.bytes).length) := by
  have flag := streamType_off fin offset
  unfold decodeWhen
  cases offset with
  | none =>
      rw [if_neg]
      · rfl
      · intro set
        exact absurd (flag.mp set) (by decide)
  | some field =>
      rw [if_pos (flag.mpr rfl)]
      exact decodeVarint_at field here

theorem unpackStream_at {fin : Bool} {streamId : WireInt}
    {offset : Option WireInt} {content : WireData} {behind : Bytes}
    (typed : byteAt buf 0 = .ok (streamType fin offset))
    (whole : buf.drop 1 = streamId.bytes ++ offset.elim [] WireInt.bytes ++
      content.bytes ++ behind) :
    Frame.unpackStream buf =
      .ok (.stream (streamType fin offset) streamId.value
        (offset.elim 0 WireInt.value) content.data.length
        (if content.data = [] then behind else content.data)) := by
  have outer := append_isPrefix_drop ⟨behind, whole.symm⟩
  have front := append_isPrefix_drop outer.1
  have inner := append_isPrefix_drop outer.2
  unfold Frame.unpackStream
  rw [typed, ok_bind, decodeVarint_at streamId front.1, ok_bind]
  dsimp only
  rw [decodeWhen_at fin offset front.2, ok_bind]
  dsimp only
  have lengthField : decodeWhen (streamType fin offset &&& 0x02 ≠ 0) buf
      (1 + (streamId.bytes ++ offset.elim [] WireInt.bytes).length) =
        .ok (content.data.length, content.length.bytes.length) := by
    unfold decodeWhen
    rw [if_pos (streamType_len fin offset)]
    exact decodeVarint_at content.length inner.1
  rw [Nat.add_assoc, ← List.length_append, lengthField, ok_bind]
  dsimp only
  congr 2
  by_cases empty : content.data = []
  · have zero : content.data.length = 0 := by rw [empty, List.length_nil]
    have end_ : content.bytes = content.length.bytes := by
      unfold WireData.bytes
      rw [empty, List.append_nil]
    rw [if_pos empty, if_neg (by omega), Nat.add_assoc, ← List.length_append,
      ← List.drop_drop, whole, end_, List.drop_left]
  · have positive : content.data.length ≠ 0 := by
      intro zero
      exact empty (List.eq_nil_of_length_eq_zero zero)
    rw [if_neg empty, if_pos positive]
    exact cut_at inner.2

theorem unpackMaxData_at {limit : WireInt} (typed : byteAt buf 0 = .ok type)
    (here : limit.bytes <+: buf.drop 1) :
    Frame.unpackMaxData buf = .ok (.maxData type limit.value) := by
  unfold Frame.unpackMaxData
  rw [typed, ok_bind, decodeVarint_at limit here, ok_bind]

theorem unpackMaxStreamData_at {streamId limit : WireInt}
    (typed : byteAt buf 0 = .ok type)
    (here : streamId.bytes ++ limit.bytes <+: buf.drop 1) :
    Frame.unpackMaxStreamData buf =
      .ok (.maxStreamData type streamId.value limit.value) := by
  have parts := append_isPrefix_drop here
  unfold Frame.unpackMaxStreamData
  rw [typed, ok_bind, decodeVarint_at streamId parts.1, ok_bind]
  dsimp only
  rw [decodeVarint_at limit parts.2, ok_bind]

theorem reason_at {errorCode : Nat} {frameType : Option Nat} {off : Nat}
    {reason : WireData} (here : reason.bytes <+: buf.drop off) :
    (do
      let (reasonLen, n) ← decodeVarint buf off
      let off := off + n
      Except.ok (Frame.connectionClose type errorCode frameType
        (cut buf off (off + reasonLen)))) =
      .ok (.connectionClose type errorCode frameType reason.data) := by
  have parts := append_isPrefix_drop here
  rw [decodeVarint_at reason.length parts.1, ok_bind]
  have data := cut_at parts.2
  change cut buf _ (_ + reason.length.value) = _ at data
  dsimp only
  rw [data]

theorem unpackTransportClose_at {errorCode frameType : WireInt}
    {reason : WireData} (typed : byteAt buf 0 = .ok frameConnectionClose)
    (here : errorCode.bytes ++ frameType.bytes ++ reason.bytes <+:
      buf.drop 1) :
    Frame.unpackConnectionClose buf =
      .ok (.connectionClose frameConnectionClose errorCode.value
        (some frameType.value) reason.data) := by
  have outer := append_isPrefix_drop here
  have front := append_isPrefix_drop outer.1
  have read : Frame.closeFrameType frameConnectionClose buf
      (1 + errorCode.bytes.length) = .ok (some frameType.value,
        1 + (errorCode.bytes ++ frameType.bytes).length) := by
    unfold Frame.closeFrameType
    rw [if_pos rfl, decodeVarint_at frameType front.2, ok_bind,
      List.length_append, ← Nat.add_assoc]
  unfold Frame.unpackConnectionClose
  rw [typed, ok_bind, decodeVarint_at errorCode front.1, ok_bind]
  dsimp only
  rw [read, ok_bind]
  exact reason_at outer.2

theorem unpackApplicationClose_at {errorCode : WireInt} {reason : WireData}
    (typed : byteAt buf 0 = .ok frameConnectionCloseApp)
    (here : errorCode.bytes ++ reason.bytes <+: buf.drop 1) :
    Frame.unpackConnectionClose buf =
      .ok (.connectionClose frameConnectionCloseApp errorCode.value none
        reason.data) := by
  have parts := append_isPrefix_drop here
  have read : Frame.closeFrameType frameConnectionCloseApp buf
      (1 + errorCode.bytes.length) =
        .ok (none, 1 + errorCode.bytes.length) := rfl
  unfold Frame.unpackConnectionClose
  rw [typed, ok_bind, decodeVarint_at errorCode parts.1, ok_bind]
  dsimp only
  rw [read, ok_bind]
  exact reason_at parts.2

end Parsing

theorem WireFrame.type_toNat (frame : WireFrame) :
    (UInt8.ofNat frame.type).toNat = frame.type := by
  cases frame with
  | stream fin streamId offset content =>
      cases offset with
      | none => cases fin <;> rfl
      | some field => cases fin <;> rfl
  | _ => rfl

theorem streamType_class (fin : Bool) (offset : Option WireInt) :
    getFrameParser (streamType fin offset) = Frame.unpackStream := by
  cases offset with
  | none => cases fin <;> rfl
  | some field => cases fin <;> rfl

/-- Every encoded frame is parsed with its field values, but a STREAM frame
without data takes all that is behind it. -/
theorem WireFrame.parses (frame : WireFrame) (behind : Bytes) :
    ∃ tlsRecords, getFrameParser frame.type (frame.bytes ++ behind) =
      .ok (frame.parsed behind tlsRecords) := by
  have typed : byteAt (frame.bytes ++ behind) 0 = .ok frame.type := by
    change Except.ok (UInt8.ofNat frame.type).toNat = _
    rw [frame.type_toNat]
  have here : frame.fields <+: (frame.bytes ++ behind).drop 1 :=
    List.prefix_append _ _
  cases frame with
  | padding => exact ⟨[], by rfl⟩
  | ping => exact ⟨[], by rfl⟩
  | ack acked => exact ⟨[], unpackAck_at typed here⟩
  | ackEcn acked ect0 ect1 ce =>
      have first := append_isPrefix_drop here
      have second := append_isPrefix_drop first.1
      have third := append_isPrefix_drop second.1
      exact ⟨[], unpackAck_at typed third.1⟩
  | crypto offset content => exact unpackCrypto_at typed here
  | stream fin streamId offset content =>
      change ∃ tlsRecords, getFrameParser (streamType fin offset) _ = _
      rw [streamType_class]
      exact ⟨[], unpackStream_at typed rfl⟩
  | maxData limit => exact ⟨[], unpackMaxData_at typed here⟩
  | maxStreamData streamId limit =>
      exact ⟨[], unpackMaxStreamData_at typed here⟩
  | transportClose errorCode frameType reason =>
      exact ⟨[], unpackTransportClose_at typed here⟩
  | applicationClose errorCode reason =>
      exact ⟨[], unpackApplicationClose_at typed here⟩

/-! ### Stepping over one frame -/

/-- The bytes of `encode_varint(v)`. -/
def narrowSize (v : Nat) : Nat := (Width.narrowest v).octets

theorem varintSize_eq {v : Nat} (small : v < 2 ^ 62) :
    varintSize v = .ok (narrowSize v) := by
  unfold varintSize
  rw [encodeVarint_of_lt small, ok_bind, varint_length]
  rfl

theorem WireInt.size (field : WireInt) :
    varintSize field.value = .ok (narrowSize field.value) :=
  varintSize_eq field.small

theorem WireInt.narrowSize_le (field : WireInt) :
    narrowSize field.value ≤ field.bytes.length := by
  rw [WireInt.bytes_length]
  exact Width.narrowest_le field.room

def WireRange.narrowSize (range : WireRange) : Nat :=
  Quic.narrowSize range.gap.value + Quic.narrowSize range.ackLen.value

def WireAck.narrowSize (acked : WireAck) : Nat :=
  1 + Quic.narrowSize acked.largestAck.value +
    Quic.narrowSize acked.ackDelay.value + Quic.narrowSize acked.ranges.length +
    Quic.narrowSize acked.firstAckRange.value +
    (acked.ranges.map WireRange.narrowSize).sum

/-- The bytes of a frame that `parse_frames` steps over: as many as its
integers need at least, and the type byte alone for the classes without a
size. -/
def WireFrame.stepped : WireFrame → Nat
  | .ack acked => acked.narrowSize
  | .ackEcn acked _ _ _ => acked.narrowSize
  | .crypto offset content =>
      1 + narrowSize offset.value + narrowSize content.data.length +
        content.data.length
  | .stream _ streamId offset content =>
      1 + narrowSize streamId.value +
        offset.elim 0 (fun field => narrowSize field.value) +
        narrowSize content.data.length + content.data.length
  | _ => 1

/-- A STREAM frame without data, which takes what is behind it. -/
def WireFrame.TakesRest : WireFrame → Prop
  | .stream _ _ _ content => content.data = []
  | _ => False

instance : DecidablePred WireFrame.TakesRest := fun frame => by
  cases frame <;> unfold WireFrame.TakesRest <;> infer_instance

def WireFrame.IsAckEcn : WireFrame → Prop
  | .ackEcn _ _ _ _ => True
  | _ => False

theorem blockSizes_eq (ranges : List WireRange) :
    blockSizes (ranges.map WireRange.values) =
      .ok (ranges.map WireRange.narrowSize).sum := by
  induction ranges with
  | nil => rfl
  | cons range rest ih =>
      rw [List.map_cons, List.map_cons, List.sum_cons]
      unfold blockSizes WireRange.values
      dsimp only
      rw [range.gap.size, ok_bind, range.ackLen.size, ok_bind]
      change blockSizes (rest.map WireRange.values) >>= _ = _
      rw [ih, ok_bind]
      rfl

theorem ackSize_eq (type : Nat) (acked : WireAck) (typed : type ≠ framePadding) :
    frameByteSize (.ack type acked.largestAck.value acked.ackDelay.value
      acked.ranges.length acked.firstAckRange.value
      (acked.ranges.map WireRange.values)) = .ok acked.narrowSize := by
  have count := acked.count.size
  change varintSize acked.ranges.length = _ at count
  unfold frameByteSize
  apply Eq.trans (if_neg typed)
  dsimp only
  rw [acked.largestAck.size, ok_bind, acked.ackDelay.size, ok_bind, count,
    ok_bind, acked.firstAckRange.size, ok_bind, blockSizes_eq, ok_bind]
  rfl

theorem streamType_pos (fin : Bool) (offset : Option WireInt) :
    streamType fin offset ≠ framePadding := by
  unfold streamType framePadding
  omega

theorem streamSize_eq (fin : Bool) (streamId : WireInt)
    (offset : Option WireInt) (content : WireData) (data : Bytes) :
    frameByteSize (.stream (streamType fin offset) streamId.value
      (offset.elim 0 WireInt.value) content.data.length data) =
      .ok (1 + narrowSize streamId.value +
        offset.elim 0 (fun field => narrowSize field.value) +
        narrowSize content.data.length + data.length) := by
  have length := content.length.size
  change varintSize content.data.length = _ at length
  have off : varintSizeWhen (streamType fin offset &&& 0x04 ≠ 0)
      (offset.elim 0 WireInt.value) =
        .ok (offset.elim 0 fun field => narrowSize field.value) := by
    have flag := streamType_off fin offset
    unfold varintSizeWhen
    cases offset with
    | none =>
        rw [if_neg]
        · rfl
        · intro set
          exact absurd (flag.mp set) (by decide)
    | some field =>
        rw [if_pos (flag.mpr rfl)]
        exact field.size
  unfold frameByteSize
  apply Eq.trans (if_neg (streamType_pos fin offset))
  dsimp only
  rw [streamId.size, ok_bind, off, ok_bind]
  unfold varintSizeWhen
  rw [if_pos (streamType_len fin offset), length, ok_bind]
  rfl

theorem WireFrame.size (frame : WireFrame) (behind : Bytes)
    (tlsRecords : List Tls.TLSRecord) :
    frameByteSize (frame.parsed behind tlsRecords) =
      .ok (frame.stepped + if frame.TakesRest then behind.length else 0) := by
  cases frame with
  | padding => rfl
  | ping => rfl
  | ack acked => exact ackSize_eq frameAck acked (by decide)
  | ackEcn acked ect0 ect1 ce => exact ackSize_eq frameAckEcn acked (by decide)
  | crypto offset content =>
      have length := content.length.size
      change varintSize content.data.length = _ at length
      change (do
        Except.ok (1 + (← varintSize offset.value) +
          (← varintSize content.data.length) + content.data.length)) = _
      rw [offset.size, ok_bind, length, ok_bind]
      rfl
  | stream fin streamId offset content =>
      have size := streamSize_eq fin streamId offset content
        (if content.data = [] then behind else content.data)
      change frameByteSize (.stream _ _ _ _ _) = _
      rw [size]
      by_cases empty : content.data = []
      · have rest : (WireFrame.stream fin streamId offset content).TakesRest :=
          empty
        have zero : content.data.length = 0 := by rw [empty, List.length_nil]
        have stepped_eq :
            (WireFrame.stream fin streamId offset content).stepped =
              1 + narrowSize streamId.value +
                offset.elim 0 (fun field => narrowSize field.value) +
                narrowSize content.data.length := by
          unfold stepped
          dsimp only
          rw [zero, Nat.add_zero]
        rw [if_pos empty, if_pos rest, stepped_eq]
      · have kept : ¬(WireFrame.stream fin streamId offset content).TakesRest :=
          empty
        rw [if_neg empty, if_neg kept]
        rfl
  | maxData limit => rfl
  | maxStreamData streamId limit => rfl
  | transportClose errorCode frameType reason => rfl
  | applicationClose errorCode reason => rfl

theorem ranges_narrowSize_le (ranges : List WireRange) :
    (ranges.map WireRange.narrowSize).sum ≤
      (ranges.flatMap WireRange.bytes).length := by
  induction ranges with
  | nil => exact Nat.le_refl 0
  | cons range rest ih =>
      have gap := range.gap.narrowSize_le
      have ackLen := range.ackLen.narrowSize_le
      rw [List.map_cons, List.sum_cons, List.flatMap_cons, List.length_append]
      unfold WireRange.narrowSize WireRange.bytes
      rw [List.length_append]
      unfold WireRange.narrowSize WireRange.bytes at ih
      omega

theorem WireAck.narrowSize_le (acked : WireAck) :
    acked.narrowSize ≤ 1 + acked.bytes.length := by
  have largest := acked.largestAck.narrowSize_le
  have delay := acked.ackDelay.narrowSize_le
  have count := acked.count.narrowSize_le
  have first := acked.firstAckRange.narrowSize_le
  have ranges := ranges_narrowSize_le acked.ranges
  change Quic.narrowSize acked.ranges.length ≤ _ at count
  unfold narrowSize bytes
  simp only [List.length_append]
  omega

theorem WireFrame.stepped_le (frame : WireFrame) :
    frame.stepped ≤ frame.bytes.length := by
  unfold bytes
  rw [List.length_cons]
  cases frame with
  | ack acked =>
      have narrow := acked.narrowSize_le
      change acked.narrowSize ≤ acked.bytes.length + 1
      omega
  | ackEcn acked ect0 ect1 ce =>
      have narrow := acked.narrowSize_le
      change acked.narrowSize ≤
        (acked.bytes ++ ect0.bytes ++ ect1.bytes ++ ce.bytes).length + 1
      simp only [List.length_append]
      omega
  | crypto offset content =>
      have first := offset.narrowSize_le
      have second := content.length.narrowSize_le
      change narrowSize content.data.length ≤ _ at second
      unfold stepped fields WireData.bytes
      simp only [List.length_append]
      omega
  | stream fin streamId offset content =>
      have first := streamId.narrowSize_le
      have third := content.length.narrowSize_le
      change narrowSize content.data.length ≤ _ at third
      have second : offset.elim 0 (fun field => narrowSize field.value) ≤
          (offset.elim [] WireInt.bytes).length := by
        cases offset with
        | none => exact Nat.le_refl 0
        | some field => exact field.narrowSize_le
      unfold stepped fields WireData.bytes
      simp only [List.length_append]
      omega
  | _ => exact Nat.succ_le_succ (Nat.zero_le _)

/-! ### Sequences -/

theorem parseFrames_padding (rest : Bytes) :
    parseFrames (0 :: rest) = parseFrames rest := by
  rw [parseFrames]
  exact if_pos rfl

theorem parseFrames_zeros {skipped : Bytes} (zero : ∀ byte ∈ skipped, byte = 0)
    (rest : Bytes) : parseFrames (skipped ++ rest) = parseFrames rest := by
  induction skipped with
  | nil => rfl
  | cons first others ih =>
      rw [List.forall_mem_cons] at zero
      rw [zero.1, List.cons_append, parseFrames_padding, ih zero.2]

theorem parseFrames_round {byte : UInt8} {rest : Bytes} {f : Frame} {size : Nat}
    (typed : byte.toNat ≠ framePadding)
    (parsed : getFrameParser byte.toNat (byte :: rest) = .ok f)
    (sized : frameByteSize f = .ok size) :
    parseFrames (byte :: rest) =
      parseFrames ((byte :: rest).drop size) >>= fun frames =>
        .ok (f :: frames) := by
  rw [parseFrames, if_neg typed, parsed]
  dsimp only
  split
  · rename_i problem raised
    rw [sized] at raised
    cases raised
  · rename_i found same
    rw [sized, Except.ok.injEq] at same
    rw [same]

theorem WireFrame.parseFrames_eq {frame : WireFrame}
    (typed : frame.type ≠ framePadding) (behind : Bytes) :
    ∃ tlsRecords, parseFrames (frame.bytes ++ behind) =
      parseFrames ((frame.bytes ++ behind).drop
        (frame.stepped + if frame.TakesRest then behind.length else 0)) >>=
        fun frames => .ok (frame.parsed behind tlsRecords :: frames) := by
  obtain ⟨tlsRecords, parsed⟩ := frame.parses behind
  refine ⟨tlsRecords, ?_⟩
  have same := frame.type_toNat
  apply parseFrames_round
  · rw [same]
    exact typed
  · rw [same]
    exact parsed
  · exact frame.size behind tlsRecords

/-- What is not stepped over is skipped as padding. -/
def WireFrame.SteppedOver (frame : WireFrame) : Prop :=
  ∀ byte ∈ frame.bytes.drop frame.stepped, byte = 0

/-- `parse_frames` goes on at the next frame. -/
def WireFrame.InSync (frame : WireFrame) : Prop :=
  ¬frame.IsAckEcn ∧ ¬frame.TakesRest ∧ frame.SteppedOver

/-- Each frame is followed by the next one; a STREAM frame without data is the
last. -/
def AllInSync : List WireFrame → Prop
  | [] => True
  | frame :: behind =>
      (frame.InSync ∨ frame.TakesRest ∧ frame.SteppedOver ∧ behind = []) ∧
        AllInSync behind

theorem WireFrame.parsed_content {frame : WireFrame} {behind : Bytes}
    (typed : frame.type ≠ framePadding) (counted : ¬frame.IsAckEcn)
    (whole : frame.TakesRest → behind = []) (tlsRecords : List Tls.TLSRecord) :
    frame.content = some (frame.parsed behind tlsRecords).content := by
  cases frame with
  | padding => exact absurd rfl typed
  | ackEcn acked ect0 ect1 ce => exact absurd trivial counted
  | stream fin streamId offset content =>
      have taken : (if content.data = [] then behind else content.data) =
          content.data := by
        split
        · rename_i empty
          rw [whole empty, empty]
        · rfl
      change _ = some (Content.stream _ _ _ _ (if content.data = [] then behind
        else content.data))
      rw [taken]
      rfl
  | _ => rfl

theorem padding_of_type {frame : WireFrame} (typed : frame.type = framePadding) :
    frame = .padding := by
  cases frame with
  | padding => rfl
  | stream fin streamId offset content =>
      exact absurd typed (streamType_pos fin offset)
  | _ => exact absurd typed (Nat.succ_ne_zero _)

theorem bind_nil_append (result : Except PyError (List Frame)) :
    (result >>= fun frames => .ok ([] ++ frames)) = result := by
  cases result with
  | error problem => rfl
  | ok frames => rfl

theorem WireFrame.InSync.parse {frame : WireFrame} (inSync : frame.InSync)
    (behind : Bytes) :
    ∃ front : List Frame,
      front.map Frame.content = frame.content.toList ∧
        parseFrames (frame.bytes ++ behind) =
          parseFrames behind >>= fun frames => .ok (front ++ frames) := by
  by_cases typed : frame.type = framePadding
  · refine ⟨[], ?_, ?_⟩
    · rw [padding_of_type typed]
      rfl
    · have padding := parseFrames_padding behind
      rw [padding_of_type typed]
      change parseFrames (0 :: behind) = _
      rw [padding, bind_nil_append]
  · obtain ⟨counted, kept, skipped⟩ := inSync
    obtain ⟨tlsRecords, parsed⟩ := frame.parseFrames_eq typed behind
    refine ⟨[frame.parsed behind tlsRecords], ?_, ?_⟩
    · rw [frame.parsed_content typed counted (fun rest => absurd rest kept)
        tlsRecords]
      rfl
    · rw [if_neg kept, Nat.add_zero,
        List.drop_append_of_le_length frame.stepped_le,
        parseFrames_zeros skipped] at parsed
      exact parsed

theorem WireFrame.parse_last {frame : WireFrame} (rest : frame.TakesRest)
    (skipped : frame.SteppedOver) :
    ∃ front : List Frame,
      front.map Frame.content = frame.content.toList ∧
        parseFrames frame.bytes = .ok front := by
  have typed : frame.type ≠ framePadding := by
    intro padding
    rw [padding_of_type padding] at rest
    exact rest
  have counted : ¬frame.IsAckEcn := by
    intro counts
    cases frame with
    | ackEcn acked ect0 ect1 ce => exact rest
    | _ => exact counts
  obtain ⟨tlsRecords, parsed⟩ := frame.parseFrames_eq typed []
  refine ⟨[frame.parsed [] tlsRecords], ?_, ?_⟩
  · rw [frame.parsed_content typed counted (fun _rest => rfl) tlsRecords]
    rfl
  · have tail := parseFrames_zeros skipped []
    rw [List.append_nil] at tail
    rw [List.length_nil, ite_self, Nat.add_zero, List.append_nil, tail] at parsed
    rw [parsed, parseFrames]
    rfl

theorem filterMap_cons_content (frame : WireFrame) (rest : List WireFrame) :
    (frame :: rest).filterMap WireFrame.content =
      frame.content.toList ++ rest.filterMap WireFrame.content := by
  cases found : frame.content with
  | none => rw [List.filterMap_cons_none found, Option.toList_none, List.nil_append]
  | some content =>
      rw [List.filterMap_cons_some found, Option.toList_some,
        List.singleton_append]

theorem recovers_of_allInSync {frames : List WireFrame}
    (inSync : AllInSync frames) : Recovers frames := by
  induction frames with
  | nil => exact ⟨[], by rw [List.flatMap_nil, parseFrames], rfl⟩
  | cons frame behind ih =>
      obtain ⟨here, others⟩ := inSync
      unfold Recovers
      rw [List.flatMap_cons, filterMap_cons_content]
      rcases here with synced | last
      · obtain ⟨parsed, parses, same⟩ := ih others
        obtain ⟨front, first, step⟩ := synced.parse
          (behind.flatMap WireFrame.bytes)
        refine ⟨front ++ parsed, ?_, ?_⟩
        · rw [step, parses, ok_bind]
        · rw [List.map_append, first, same]
      · obtain ⟨rest, skipped, nothing⟩ := last
        obtain ⟨front, first, parses⟩ := WireFrame.parse_last rest skipped
        refine ⟨front, ?_, ?_⟩
        · rw [nothing, List.flatMap_nil, List.append_nil, parses]
        · rw [nothing, List.filterMap_nil, List.append_nil, first]

theorem parse_inSync (before : List WireFrame)
    (inSync : ∀ frame ∈ before, frame.InSync) (behind : Bytes) :
    ∃ front : List Frame,
      front.map Frame.content = before.filterMap WireFrame.content ∧
        parseFrames (before.flatMap WireFrame.bytes ++ behind) =
          parseFrames behind >>= fun frames => .ok (front ++ frames) := by
  induction before with
  | nil =>
      refine ⟨[], rfl, ?_⟩
      rw [bind_nil_append]
      rfl
  | cons frame rest ih =>
      rw [List.forall_mem_cons] at inSync
      obtain ⟨front, first, step⟩ := inSync.1.parse
        (rest.flatMap WireFrame.bytes ++ behind)
      obtain ⟨others, same, parses⟩ := ih inSync.2
      refine ⟨front ++ others, ?_, ?_⟩
      · rw [List.map_append, filterMap_cons_content, first, same]
      · rw [List.flatMap_cons, List.append_assoc, step, parses]
        cases parseFrames behind with
        | error problem => rfl
        | ok frames =>
            rw [ok_bind, ok_bind, ok_bind, List.append_assoc]

/-- ECN counts do not come back. -/
theorem not_ackEcn_of_recovers {frames : List WireFrame}
    (recovers : Recovers frames) {frame : WireFrame} (member : frame ∈ frames) :
    ¬frame.IsAckEcn := by
  intro counts
  obtain ⟨parsed, _parses, same⟩ := recovers
  cases frame with
  | ackEcn acked ect0 ect1 ce =>
      have expected : acked.content (some (ect0.value, ect1.value, ce.value)) ∈
          frames.filterMap WireFrame.content :=
        List.mem_filterMap.mpr ⟨_, member, rfl⟩
      rw [← same] at expected
      obtain ⟨f, _present, found⟩ := List.mem_map.mp expected
      cases f <;> cases found
  | _ => exact counts

/-- A STREAM frame without data does not come back when another frame
follows. -/
theorem last_of_recovers {before behind : List WireFrame} {frame : WireFrame}
    (recovers : Recovers (before ++ frame :: behind))
    (inSync : ∀ frame ∈ before, frame.InSync) (rest : frame.TakesRest) :
    behind = [] := by
  obtain ⟨parsed, parses, same⟩ := recovers
  rw [List.flatMap_append, List.flatMap_cons] at parses
  obtain ⟨front, first, step⟩ := parse_inSync before inSync
    (frame.bytes ++ behind.flatMap WireFrame.bytes)
  rw [step] at parses
  cases frame with
  | stream fin streamId offset content =>
      have empty : content.data = [] := rest
      have typed : (WireFrame.stream fin streamId offset content).type ≠
          framePadding := streamType_pos fin offset
      obtain ⟨tlsRecords, here⟩ := WireFrame.parseFrames_eq typed
        (behind.flatMap WireFrame.bytes)
      rw [here] at parses
      obtain ⟨frames, found, joined⟩ := bind_eq_ok.mp parses
      obtain ⟨others, _later, headed⟩ := bind_eq_ok.mp found
      cases headed
      cases joined
      rw [List.map_append, List.filterMap_append, first,
        List.append_cancel_left_eq, filterMap_cons_content, List.map_cons]
        at same
      have taken := List.head_eq_of_cons_eq same
      change Content.stream _ _ _ _ (if content.data = [] then
        behind.flatMap WireFrame.bytes else content.data) =
          Content.stream _ _ _ _ content.data at taken
      rw [if_pos empty, Content.stream.injEq] at taken
      have data := taken.2.2.2.2
      rw [empty] at data
      cases behind with
      | nil => rfl
      | cons next later => cases data
  | _ => exact False.elim rest

/-- `parse_frames` recovers a sequence when it is in step with every frame:
there is no ACK_ECN frame, a STREAM frame without data is the last frame, and
the bytes of a frame that are not stepped over are zero.  The first two are
needed; without the third the bytes behind may still parse by accident. -/
theorem parse_frames_recovers (frames : List WireFrame) :
    (AllInSync frames → Recovers frames) ∧
      (Recovers frames →
        (∀ frame ∈ frames, ¬frame.IsAckEcn) ∧
          ∀ before frame behind, frames = before ++ frame :: behind →
            (∀ early ∈ before, early.InSync) → frame.TakesRest →
              behind = []) := by
  constructor
  · exact recovers_of_allInSync
  · intro recovers
    constructor
    · intro frame member
      exact not_ackEcn_of_recovers recovers member
    · intro before frame behind split inSync rest
      rw [split] at recovers
      exact last_of_recovers recovers inSync rest

/-- MAX_DATA with the limit 1: the limit is parsed again, as a PING. -/
def reparsedLimit : List WireFrame := [.maxData ⟨.one, 1, by decide⟩]

theorem reparsedLimit_parses :
    parseFrames (reparsedLimit.flatMap WireFrame.bytes) =
      .ok [.maxData frameMaxData 1, .plain framePing] := by decide +kernel

theorem limit_parsed_as_ping : ¬∀ frames : List WireFrame, Recovers frames := by
  intro always
  obtain ⟨parsed, parses, same⟩ := always reparsedLimit
  rw [reparsedLimit_parses, Except.ok.injEq] at parses
  rw [← parses] at same
  exact absurd same (by decide)

/-- With the limit 6 the bytes behind are an incomplete frame, which ends the
loop: the sequence comes back by accident. -/
example : Recovers [.maxData ⟨.one, 6, by decide⟩] :=
  ⟨[.maxData frameMaxData 6], by decide +kernel, rfl⟩

end DpktNg.Quic
