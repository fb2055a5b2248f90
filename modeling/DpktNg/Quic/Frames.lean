/-
Frames of dpkt/quic.py.  `parse_frames` parses a frame with one function and
steps over it with another, `_frame_byte_size`, which encodes the fields again
to see how many bytes they took.
-/

import DpktNg.Quic.Varint
import DpktNg.Tls.Record

namespace DpktNg.Quic

open Library

def framePadding : Nat := 0

def framePing : Nat := 1

def frameAck : Nat := 2

def frameAckEcn : Nat := 3

def frameCrypto : Nat := 6

def frameStream : Nat := 8

def frameMaxData : Nat := 16

def frameMaxStreamData : Nat := 17

def frameConnectionClose : Nat := 0x1c

def frameConnectionCloseApp : Nat := 0x1d

/-- The frame classes.  A `QUICFrame` of any other type keeps the type alone. -/
inductive Frame where
  | plain (type : Nat)
  | stream (type streamId offset length : Nat) (data : Bytes)
  | crypto (type offset length : Nat) (data : Bytes)
      (tlsRecords : List Tls.TLSRecord)
  | ack (type largestAck ackDelay blockCount firstAckRange : Nat)
      (blocks : List (Nat × Nat))
  | maxData (type maxData : Nat)
  | maxStreamData (type streamId maxData : Nat)
  | connectionClose (type errorCode : Nat) (frameType : Option Nat)
      (reason : Bytes)
deriving DecidableEq, Repr

/-- The value of an optional field: zero when its flag is not set. -/
def decodeWhen (flag : Prop) [Decidable flag] (buf : Bytes) (off : Nat) :
    Except PyError (Nat × Nat) :=
  if flag then decodeVarint buf off else .ok (0, 0)

namespace Frame

def unpackPlain (buf : Bytes) : Except PyError Frame := do
  .ok (.plain (← byteAt buf 0))

def unpackStream (buf : Bytes) : Except PyError Frame := do
  let type ← byteAt buf 0
  let (streamId, n) ← decodeVarint buf 1
  let off := 1 + n
  let (offset, n) ← decodeWhen (type &&& 0x04 ≠ 0) buf off
  let off := off + n
  let (length, n) ← decodeWhen (type &&& 0x02 ≠ 0) buf off
  let off := off + n
  let data := if length ≠ 0 then cut buf off (off + length) else buf.drop off
  .ok (.stream type streamId offset length data)

/-- The errors that `_extract_tls` catches. -/
def caughtByTls : PyError → Bool
  | .unpackError _ => true
  | .needData _ => true
  | .structError => true
  | .indexError => true
  | _ => false

/-- `_extract_tls`, from the bytes that are left on. -/
def extractTls (buf : Bytes) : Except PyError (List Tls.TLSRecord) :=
  if 5 ≤ buf.length then
    match Tls.tlsRecord buf with
    | .ok record => do
        let records ← extractTls (buf.drop (5 + record.length))
        .ok (record :: records)
    | .error problem => if caughtByTls problem then .ok [] else .error problem
  else .ok []
termination_by buf.length
decreasing_by
  rw [List.length_drop]
  omega

def unpackCrypto (buf : Bytes) : Except PyError Frame := do
  let type ← byteAt buf 0
  let (offset, n) ← decodeVarint buf 1
  let off := 1 + n
  let (length, n) ← decodeVarint buf off
  let off := off + n
  let data := cut buf off (off + length)
  let tlsRecords ← extractTls data
  .ok (.crypto type offset length data tlsRecords)

/-- One round of the `for` loop over the ACK ranges. -/
def ackRange (buf : Bytes) (off : Nat) :
    Except PyError ((Nat × Nat) × Nat) := do
  let (gap, n) ← decodeVarint buf off
  let off := off + n
  let (ackLen, n) ← decodeVarint buf off
  .ok ((gap, ackLen), off + n)

def unpackAck (buf : Bytes) : Except PyError Frame := do
  let type ← byteAt buf 0
  let (largestAck, n) ← decodeVarint buf 1
  let off := 1 + n
  let (ackDelay, n) ← decodeVarint buf off
  let off := off + n
  let (blockCount, n) ← decodeVarint buf off
  let off := off + n
  let (firstAckRange, n) ← decodeVarint buf off
  let off := off + n
  let (blocks, _) ← readMany ackRange buf off blockCount
  .ok (.ack type largestAck ackDelay blockCount firstAckRange blocks)

def unpackMaxData (buf : Bytes) : Except PyError Frame := do
  let type ← byteAt buf 0
  let (limit, _) ← decodeVarint buf 1
  .ok (.maxData type limit)

def unpackMaxStreamData (buf : Bytes) : Except PyError Frame := do
  let type ← byteAt buf 0
  let (streamId, n) ← decodeVarint buf 1
  let (limit, _) ← decodeVarint buf (1 + n)
  .ok (.maxStreamData type streamId limit)

/-- The `frame_type` of a transport close, and the offset behind it.  An
application close has none. -/
def closeFrameType (type : Nat) (buf : Bytes) (off : Nat) :
    Except PyError (Option Nat × Nat) :=
  if type = frameConnectionClose then do
    let (frameType, n) ← decodeVarint buf off
    .ok (some frameType, off + n)
  else .ok (none, off)

def unpackConnectionClose (buf : Bytes) : Except PyError Frame := do
  let type ← byteAt buf 0
  let (errorCode, n) ← decodeVarint buf 1
  let (frameType, off) ← closeFrameType type buf (1 + n)
  let (reasonLen, n) ← decodeVarint buf off
  let off := off + n
  .ok (.connectionClose type errorCode frameType (cut buf off (off + reasonLen)))

end Frame

/-- `get_frame_parser` with the dispatch table. -/
def getFrameParser (frameType : Nat) : Bytes → Except PyError Frame :=
  if frameType = frameStream then Frame.unpackStream
  else if 0x08 ≤ frameType ∧ frameType ≤ 0x0f then Frame.unpackStream
  else if frameType = frameAck then Frame.unpackAck
  else if frameType = frameAckEcn then Frame.unpackAck
  else if frameType = frameCrypto then Frame.unpackCrypto
  else if frameType = frameConnectionClose then Frame.unpackConnectionClose
  else if frameType = frameConnectionCloseApp then Frame.unpackConnectionClose
  else if frameType = frameMaxData then Frame.unpackMaxData
  else if frameType = frameMaxStreamData then Frame.unpackMaxStreamData
  else Frame.unpackPlain

/-- `len(encode_varint(v))` -/
def varintSize (v : Nat) : Except PyError Nat := do
  .ok (← encodeVarint v).length

def varintSizeWhen (flag : Prop) [Decidable flag] (v : Nat) :
    Except PyError Nat :=
  if flag then varintSize v else .ok 0

def blockSizes : List (Nat × Nat) → Except PyError Nat
  | [] => .ok 0
  | (gap, ackLen) :: rest => do
      .ok ((← varintSize gap) + (← varintSize ackLen) + (← blockSizes rest))

def Frame.type : Frame → Nat
  | .plain type => type
  | .stream type _ _ _ _ => type
  | .crypto type _ _ _ _ => type
  | .ack type _ _ _ _ _ => type
  | .maxData type _ => type
  | .maxStreamData type _ _ => type
  | .connectionClose type _ _ _ => type

/-- `_frame_byte_size`.  The classes without a case have the length of a
`QUICFrame`, which is one. -/
def frameByteSize (f : Frame) : Except PyError Nat :=
  if f.type = framePadding then .ok 1
  else
    match f with
    | .crypto _ offset length _ _ => do
        .ok (1 + (← varintSize offset) + (← varintSize length) + length)
    | .stream type streamId offset length data => do
        let id ← varintSize streamId
        let off ← varintSizeWhen (type &&& 0x04 ≠ 0) offset
        let len ← varintSizeWhen (type &&& 0x02 ≠ 0) length
        .ok (1 + id + off + len + data.length)
    | .ack _ largestAck ackDelay blockCount firstAckRange blocks => do
        .ok (1 + (← varintSize largestAck) + (← varintSize ackDelay) +
          (← varintSize blockCount) + (← varintSize firstAckRange) +
          (← blockSizes blocks))
    | _ => .ok 1

/-- The errors that end the loop of `parse_frames`. -/
def caughtByFrames : PyError → Bool
  | .needData _ => true
  | .indexError => true
  | .structError => true
  | _ => false

theorem frameByteSize_pos {f : Frame} {size : Nat}
    (sized : frameByteSize f = .ok size) : 0 < size := by
  unfold frameByteSize at sized
  split at sized
  · cases sized
    exact Nat.one_pos
  · cases f with
    | crypto type offset length data tlsRecords =>
        obtain ⟨first, _first, sized⟩ := bind_eq_ok.mp sized
        obtain ⟨second, _second, sized⟩ := bind_eq_ok.mp sized
        cases sized
        omega
    | stream type streamId offset length data =>
        obtain ⟨first, _first, sized⟩ := bind_eq_ok.mp sized
        obtain ⟨second, _second, sized⟩ := bind_eq_ok.mp sized
        obtain ⟨third, _third, sized⟩ := bind_eq_ok.mp sized
        cases sized
        omega
    | ack type largestAck ackDelay blockCount firstAckRange blocks =>
        obtain ⟨first, _first, sized⟩ := bind_eq_ok.mp sized
        obtain ⟨second, _second, sized⟩ := bind_eq_ok.mp sized
        obtain ⟨third, _third, sized⟩ := bind_eq_ok.mp sized
        obtain ⟨fourth, _fourth, sized⟩ := bind_eq_ok.mp sized
        obtain ⟨fifth, _fifth, sized⟩ := bind_eq_ok.mp sized
        cases sized
        omega
    | plain type =>
        cases sized
        exact Nat.one_pos
    | maxData type maxData =>
        cases sized
        exact Nat.one_pos
    | maxStreamData type streamId maxData =>
        cases sized
        exact Nat.one_pos
    | connectionClose type errorCode frameType reason =>
        cases sized
        exact Nat.one_pos

/-- `parse_frames`, from the bytes that are left on. -/
def parseFrames (buf : Bytes) : Except PyError (List Frame) :=
  match buf with
  | [] => .ok []
  | byte :: rest =>
      if byte.toNat = framePadding then parseFrames rest
      else
        match getFrameParser byte.toNat (byte :: rest) with
        | .error problem =>
            if caughtByFrames problem then .ok [] else .error problem
        | .ok f =>
            match _sized : frameByteSize f with
            | .error problem =>
                if caughtByFrames problem then .ok [f] else .error problem
            | .ok size => do
                let frames ← parseFrames ((byte :: rest).drop size)
                .ok (f :: frames)
termination_by buf.length
decreasing_by
  · exact Nat.lt_succ_self rest.length
  · have positive := frameByteSize_pos _sized
    rw [List.length_drop, List.length_cons]
    omega

/-! ### What the parsers raise -/

/-- The errors that end the loop of `parse_frames`. -/
def FrameError (problem : PyError) : Prop := caughtByFrames problem = true

theorem decodeWide_raisesOnly (width mask : Nat) (buf : Bytes) (offset : Nat) :
    RaisesOnly FrameError (decodeWide width mask buf offset) := by
  unfold decodeWide
  split
  · exact raisesOnly_error.mpr rfl
  · apply RaisesOnly.bind
    · unfold unpackBe
      split
      · exact raisesOnly_ok _
      · exact raisesOnly_error.mpr rfl
    · intro value _unpacked
      exact raisesOnly_ok _

theorem decodeVarint_raisesOnly (buf : Bytes) (offset : Nat) :
    RaisesOnly FrameError (decodeVarint buf offset) := by
  unfold decodeVarint
  split
  · exact raisesOnly_error.mpr rfl
  · dsimp only
    split
    · exact raisesOnly_ok _
    · split
      · exact decodeWide_raisesOnly 2 _ buf offset
      · split
        · exact decodeWide_raisesOnly 4 _ buf offset
        · exact decodeWide_raisesOnly 8 _ buf offset

theorem byteAt_raisesOnly (buf : Bytes) (index : Nat) :
    RaisesOnly FrameError (byteAt buf index) := by
  unfold byteAt
  split
  · exact raisesOnly_error.mpr rfl
  · exact raisesOnly_ok _

theorem field_raisesOnly {α : Type} {buf : Bytes} {offset : Nat}
    {rest : Nat × Nat → Except PyError α}
    (behind : ∀ field, RaisesOnly FrameError (rest field)) :
    RaisesOnly FrameError (decodeVarint buf offset >>= rest) :=
  (decodeVarint_raisesOnly buf offset).bind fun field _decoded => behind field

theorem optionalField_raisesOnly {α : Type} {flag : Prop} [Decidable flag]
    {buf : Bytes} {offset : Nat} {rest : Nat × Nat → Except PyError α}
    (behind : ∀ field, RaisesOnly FrameError (rest field)) :
    RaisesOnly FrameError (decodeWhen flag buf offset >>= rest) := by
  unfold decodeWhen
  split
  · exact field_raisesOnly behind
  · exact behind (0, 0)

theorem type_raisesOnly {α : Type} {buf : Bytes}
    {rest : Nat → Except PyError α}
    (behind : ∀ type, RaisesOnly FrameError (rest type)) :
    RaisesOnly FrameError (byteAt buf 0 >>= rest) :=
  (byteAt_raisesOnly buf 0).bind fun type _present => behind type

namespace Frame

theorem extractTls_succeeds (buf : Bytes) :
    ∃ records, extractTls buf = .ok records := by
  fun_induction extractTls buf with
  | case1 buf long record parsed ih =>
      obtain ⟨records, extracted⟩ := ih
      exact ⟨record :: records, by rw [extracted, ok_bind]⟩
  | case2 => exact ⟨[], rfl⟩
  | case3 buf long problem raised escaped =>
      have library := Tls.tlsRecord_raisesOnly buf problem raised
      cases problem with
      | needData message => exact absurd rfl escaped
      | unpackError message => exact absurd rfl escaped
      | _ => exact False.elim library
  | case4 => exact ⟨[], rfl⟩

theorem unpackStream_raisesOnly (buf : Bytes) :
    RaisesOnly FrameError (unpackStream buf) := by
  unfold unpackStream
  apply type_raisesOnly
  intro type
  apply field_raisesOnly
  intro streamId
  apply optionalField_raisesOnly
  intro offset
  apply optionalField_raisesOnly
  intro length
  exact raisesOnly_ok _

theorem unpackCrypto_raisesOnly (buf : Bytes) :
    RaisesOnly FrameError (unpackCrypto buf) := by
  unfold unpackCrypto
  apply type_raisesOnly
  intro type
  apply field_raisesOnly
  intro offset
  apply field_raisesOnly
  intro length
  apply RaisesOnly.bind
  · obtain ⟨records, extracted⟩ := extractTls_succeeds
      (cut buf (1 + offset.2 + length.2) (1 + offset.2 + length.2 + length.1))
    rw [extracted]
    exact raisesOnly_ok _
  · intro records _extracted
    exact raisesOnly_ok _

theorem ackRanges_raisesOnly (buf : Bytes) (off count : Nat) :
    RaisesOnly FrameError (readMany ackRange buf off count) := by
  induction count generalizing off with
  | zero => exact raisesOnly_ok _
  | succ count ih =>
      rw [readMany]
      apply RaisesOnly.bind
      · unfold ackRange
        apply field_raisesOnly
        intro gap
        apply field_raisesOnly
        intro ackLen
        exact raisesOnly_ok _
      · intro range _read
        apply (ih range.2).bind
        intro ranges _readRest
        exact raisesOnly_ok _

theorem unpackAck_raisesOnly (buf : Bytes) :
    RaisesOnly FrameError (unpackAck buf) := by
  unfold unpackAck
  apply type_raisesOnly
  intro type
  apply field_raisesOnly
  intro largestAck
  apply field_raisesOnly
  intro ackDelay
  apply field_raisesOnly
  intro blockCount
  apply field_raisesOnly
  intro firstAckRange
  apply (ackRanges_raisesOnly buf _ _).bind
  intro blocks _read
  exact raisesOnly_ok _

theorem unpackConnectionClose_raisesOnly (buf : Bytes) :
    RaisesOnly FrameError (unpackConnectionClose buf) := by
  unfold unpackConnectionClose
  apply type_raisesOnly
  intro type
  apply field_raisesOnly
  intro errorCode
  apply RaisesOnly.bind
  · unfold closeFrameType
    split
    · apply field_raisesOnly
      intro frameType
      exact raisesOnly_ok _
    · exact raisesOnly_ok _
  · intro frameType _read
    apply field_raisesOnly
    intro reasonLen
    exact raisesOnly_ok _

end Frame

theorem getFrameParser_raisesOnly (frameType : Nat) (buf : Bytes) :
    RaisesOnly FrameError (getFrameParser frameType buf) := by
  unfold getFrameParser
  split
  · exact Frame.unpackStream_raisesOnly buf
  · split
    · exact Frame.unpackStream_raisesOnly buf
    · split
      · exact Frame.unpackAck_raisesOnly buf
      · split
        · exact Frame.unpackAck_raisesOnly buf
        · split
          · exact Frame.unpackCrypto_raisesOnly buf
          · split
            · exact Frame.unpackConnectionClose_raisesOnly buf
            · split
              · exact Frame.unpackConnectionClose_raisesOnly buf
              · split
                · apply type_raisesOnly
                  intro type
                  apply field_raisesOnly
                  intro limit
                  exact raisesOnly_ok _
                · split
                  · apply type_raisesOnly
                    intro type
                    apply field_raisesOnly
                    intro streamId
                    apply field_raisesOnly
                    intro limit
                    exact raisesOnly_ok _
                  · apply type_raisesOnly
                    intro type
                    exact raisesOnly_ok _

theorem varintSize_raisesOnly (v : Nat) :
    RaisesOnly FrameError (varintSize v) := by
  have packs : ∀ width value, RaisesOnly FrameError (packBe width value) := by
    intro width value
    unfold packBe
    split
    · exact raisesOnly_ok _
    · exact raisesOnly_error.mpr rfl
  unfold varintSize
  apply RaisesOnly.bind
  · unfold encodeVarint
    split
    · exact raisesOnly_ok _
    · split
      · exact packs 2 _
      · split
        · exact packs 4 _
        · exact packs 8 _
  · intro encoded _encodes
    exact raisesOnly_ok _

theorem size_raisesOnly {α : Type} {v : Nat} {rest : Nat → Except PyError α}
    (behind : ∀ size, RaisesOnly FrameError (rest size)) :
    RaisesOnly FrameError (varintSize v >>= rest) :=
  (varintSize_raisesOnly v).bind fun size _sized => behind size

theorem optionalSize_raisesOnly {α : Type} {flag : Prop} [Decidable flag]
    {v : Nat} {rest : Nat → Except PyError α}
    (behind : ∀ size, RaisesOnly FrameError (rest size)) :
    RaisesOnly FrameError (varintSizeWhen flag v >>= rest) := by
  unfold varintSizeWhen
  split
  · exact size_raisesOnly behind
  · exact behind 0

theorem blockSizes_raisesOnly (blocks : List (Nat × Nat)) :
    RaisesOnly FrameError (blockSizes blocks) := by
  induction blocks with
  | nil => exact raisesOnly_ok _
  | cons block rest ih =>
      obtain ⟨gap, ackLen⟩ := block
      apply size_raisesOnly
      intro gapSize
      apply size_raisesOnly
      intro ackSize
      apply ih.bind
      intro others _sized
      exact raisesOnly_ok _

theorem frameByteSize_raisesOnly (f : Frame) :
    RaisesOnly FrameError (frameByteSize f) := by
  unfold frameByteSize
  split
  · exact raisesOnly_ok _
  · cases f with
    | crypto type offset length data tlsRecords =>
        apply size_raisesOnly
        intro offsetSize
        apply size_raisesOnly
        intro lengthSize
        exact raisesOnly_ok _
    | stream type streamId offset length data =>
        apply size_raisesOnly
        intro idSize
        apply optionalSize_raisesOnly
        intro offsetSize
        apply optionalSize_raisesOnly
        intro lengthSize
        exact raisesOnly_ok _
    | ack type largestAck ackDelay blockCount firstAckRange blocks =>
        apply size_raisesOnly
        intro largestSize
        apply size_raisesOnly
        intro delaySize
        apply size_raisesOnly
        intro countSize
        apply size_raisesOnly
        intro firstSize
        apply (blockSizes_raisesOnly blocks).bind
        intro others _sized
        exact raisesOnly_ok _
    | plain type => exact raisesOnly_ok _
    | maxData type maxData => exact raisesOnly_ok _
    | maxStreamData type streamId maxData => exact raisesOnly_ok _
    | connectionClose type errorCode frameType reason => exact raisesOnly_ok _

/-- Every error of a frame ends the loop, so no error leaves it. -/
theorem parseFrames_succeeds (buf : Bytes) :
    ∃ frames, parseFrames buf = .ok frames := by
  fun_induction parseFrames buf with
  | case1 => exact ⟨[], rfl⟩
  | case2 byte rest padding ih => exact ih
  | case3 => exact ⟨[], rfl⟩
  | case4 byte rest notPadding problem raised escaped =>
      exact absurd (getFrameParser_raisesOnly _ _ problem raised) escaped
  | case5 byte rest notPadding f parsed => exact ⟨[f], rfl⟩
  | case6 byte rest notPadding f parsed problem raised escaped =>
      exact absurd (frameByteSize_raisesOnly f problem raised) escaped
  | case7 byte rest notPadding f parsed size sized ih =>
      obtain ⟨frames, parsedRest⟩ := ih
      exact ⟨f :: frames, by rw [parsedRest, ok_bind]⟩

end DpktNg.Quic
