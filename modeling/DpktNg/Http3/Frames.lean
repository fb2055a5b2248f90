/-
HTTP/3 frames of dpkt/http3.py.  `parse_http3_frames` measures a frame by its
type and its length, and hands it to the class of its type, which reads both
of them again.
-/

import DpktNg.Quic.FrameSequence

namespace DpktNg.Http3

open Library Quic

def http3Data : Nat := 0x00

def http3Headers : Nat := 0x01

def http3CancelPush : Nat := 0x03

def http3Settings : Nat := 0x04

def http3PushPromise : Nat := 0x05

def http3Goaway : Nat := 0x07

def http3MaxPushId : Nat := 0x0d

inductive Http3Class where
  | frame
  | data
  | headers
  | settings
  | goaway
  | pushPromise
  | cancelPush
  | maxPushId
deriving DecidableEq, Repr

/-- The objects of the frame classes. -/
inductive Http3Frame where
  /-- Built without a buffer, so that no field was unpacked. -/
  | blank (cls : Http3Class)
  | frame (type length : Nat)
  | data (type length : Nat) (payload : Bytes)
  | headers (type length : Nat) (encodedHeaders : Bytes)
  | settings (type length : Nat) (settings : List (Nat × Nat))
  | goaway (type length lastStreamId : Nat)
  | pushPromise (type length pushId : Nat) (encodedHeaders : Bytes)
  | cancelPush (type length pushId : Nat)
  | maxPushId (type length limit : Nat)
deriving DecidableEq, Repr

/-- The type and the length at an offset, and the bytes that they take. -/
def typeAndLength (buf : Bytes) (off : Nat) :
    Except PyError (Nat × Nat × Nat) := do
  let (type, n) ← decodeVarint buf off
  let (length, m) ← decodeVarint buf (off + n)
  .ok (type, length, n + m)

/-- An identifier and its value, and the offset behind them. -/
def setting (buf : Bytes) (off : Nat) :
    Except PyError ((Nat × Nat) × Nat) := do
  let (sid, sn) ← decodeVarint buf off
  let off := off + sn
  let (sval, sv) ← decodeVarint buf off
  .ok ((sid, sval), off + sv)

theorem decodeWide_used {width mask : Nat} {buf : Bytes} {offset v used : Nat}
    (decoded : decodeWide width mask buf offset = .ok (v, used)) :
    used = width := by
  unfold decodeWide at decoded
  split at decoded
  · cases decoded
  · obtain ⟨value, _unpacked, same⟩ := bind_eq_ok.mp decoded
    rw [Except.ok.injEq, Prod.mk.injEq] at same
    exact same.2.symm

theorem decodeVarint_used {buf : Bytes} {offset v used : Nat}
    (decoded : decodeVarint buf offset = .ok (v, used)) : 0 < used := by
  unfold decodeVarint at decoded
  split at decoded
  · cases decoded
  · dsimp only at decoded
    split at decoded
    · rw [Except.ok.injEq, Prod.mk.injEq] at decoded
      rw [← decoded.2]
      exact Nat.one_pos
    · split at decoded
      · rw [decodeWide_used decoded]
        exact Nat.two_pos
      · split at decoded
        · rw [decodeWide_used decoded]
          decide
        · rw [decodeWide_used decoded]
          decide

theorem typeAndLength_used {buf : Bytes} {off type length used : Nat}
    (decoded : typeAndLength buf off = .ok (type, length, used)) :
    0 < used := by
  obtain ⟨⟨type', n⟩, first, rest⟩ := bind_eq_ok.mp decoded
  obtain ⟨⟨length', m⟩, _second, same⟩ := bind_eq_ok.mp rest
  cases same
  have positive := decodeVarint_used first
  omega

theorem setting_advances {buf : Bytes} {off next : Nat} {pair : Nat × Nat}
    (decoded : setting buf off = .ok (pair, next)) : off < next := by
  obtain ⟨⟨sid, sn⟩, first, rest⟩ := bind_eq_ok.mp decoded
  obtain ⟨⟨sval, sv⟩, _second, same⟩ := bind_eq_ok.mp rest
  cases same
  have positive := decodeVarint_used first
  omega

def settingsFrom (buf : Bytes) (off stop : Nat) :
    Except PyError (List (Nat × Nat)) :=
  if off + 2 ≤ stop then
    match _decoded : setting buf off with
    | .error problem => .error problem
    | .ok (pair, next) => do
        let pairs ← settingsFrom buf next stop
        .ok (pair :: pairs)
  else .ok []
termination_by stop - off
decreasing_by
  have advances := setting_advances _decoded
  omega

def Http3Class.unpack : Http3Class → Bytes → Except PyError Http3Frame
  | .frame, buf => do
      let (type, length, _) ← typeAndLength buf 0
      .ok (.frame type length)
  | .data, buf => do
      let (type, length, off) ← typeAndLength buf 0
      .ok (.data type length (cut buf off (off + length)))
  | .headers, buf => do
      let (type, length, off) ← typeAndLength buf 0
      .ok (.headers type length (cut buf off (off + length)))
  | .settings, buf => do
      let (type, length, off) ← typeAndLength buf 0
      let settings ← settingsFrom buf off (off + length)
      .ok (.settings type length settings)
  | .goaway, buf => do
      let (type, length, off) ← typeAndLength buf 0
      let (lastStreamId, _) ← decodeVarint buf off
      .ok (.goaway type length lastStreamId)
  | .pushPromise, buf => do
      let (type, length, off) ← typeAndLength buf 0
      let (pushId, p) ← decodeVarint buf off
      .ok (.pushPromise type length pushId
        (cut buf (off + p) (off + p + length - p)))
  | .cancelPush, buf => do
      let (type, length, off) ← typeAndLength buf 0
      let (pushId, _) ← decodeVarint buf off
      .ok (.cancelPush type length pushId)
  | .maxPushId, buf => do
      let (type, length, off) ← typeAndLength buf 0
      let (limit, _) ← decodeVarint buf off
      .ok (.maxPushId type length limit)

def Http3Class.construct (cls : Http3Class) (buf : Bytes) :
    Except PyError Http3Frame :=
  if buf = [] then .ok (.blank cls) else cls.unpack buf

def http3Sw (ftype : Nat) : Http3Class :=
  if ftype = http3Data then .data
  else if ftype = http3Headers then .headers
  else if ftype = http3Settings then .settings
  else if ftype = http3Goaway then .goaway
  else if ftype = http3PushPromise then .pushPromise
  else if ftype = http3CancelPush then .cancelPush
  else if ftype = http3MaxPushId then .maxPushId
  else .frame

def framesFrom (buf : Bytes) (off : Nat) : Except PyError (List Http3Frame) :=
  if off < buf.length then
    match _decoded : typeAndLength buf off with
    | .error problem => .error problem
    | .ok (ftype, flen, used) => do
        let total := used + flen
        let frame ← (http3Sw ftype).construct (cut buf off (off + total))
        let frames ← framesFrom buf (off + total)
        .ok (frame :: frames)
  else .ok []
termination_by buf.length - off
decreasing_by
  have positive := typeAndLength_used _decoded
  omega

def parseHttp3Frames (buf : Bytes) : Except PyError (List Http3Frame) :=
  framesFrom buf 0

/-! ### Encoded frames -/

/-- What a frame holds, with the widths of the integers in its payload. -/
inductive Content where
  | data (payload : Bytes)
  | headers (encodedHeaders : Bytes)
  | settings (pairs : List (WireInt × WireInt))
  | pushPromise (pushId : WireInt) (encodedHeaders : Bytes)
  | cancelPush (pushId : WireInt)
  | goaway (lastStreamId : WireInt)
  | maxPushId (limit : WireInt)
  /-- Of a type that no class is registered for. -/
  | unknown (type : Nat) (payload : Bytes)
      (unregistered : type ∉ [http3Data, http3Headers, http3Settings,
        http3Goaway, http3PushPromise, http3CancelPush, http3MaxPushId])

def pairBytes (pair : WireInt × WireInt) : Bytes :=
  pair.1.bytes ++ pair.2.bytes

def pairValues (pair : WireInt × WireInt) : Nat × Nat :=
  (pair.1.value, pair.2.value)

namespace Content

def type : Content → Nat
  | .data _ => http3Data
  | .headers _ => http3Headers
  | .settings _ => http3Settings
  | .pushPromise _ _ => http3PushPromise
  | .cancelPush _ => http3CancelPush
  | .goaway _ => http3Goaway
  | .maxPushId _ => http3MaxPushId
  | .unknown type _ _ => type

def payload : Content → Bytes
  | .data payload => payload
  | .headers encodedHeaders => encodedHeaders
  | .settings pairs => pairs.flatMap pairBytes
  | .pushPromise pushId encodedHeaders => pushId.bytes ++ encodedHeaders
  | .cancelPush pushId => pushId.bytes
  | .goaway lastStreamId => lastStreamId.bytes
  | .maxPushId limit => limit.bytes
  | .unknown _ payload _ => payload

/-- The object of the class of the type, with the encoded fields. -/
def decoded (content : Content) : Http3Frame :=
  match content with
  | .data payload => .data http3Data payload.length payload
  | .headers encodedHeaders =>
      .headers http3Headers encodedHeaders.length encodedHeaders
  | .settings pairs =>
      .settings http3Settings (pairs.flatMap pairBytes).length
        (pairs.map pairValues)
  | .pushPromise pushId encodedHeaders =>
      .pushPromise http3PushPromise
        (pushId.width.octets + encodedHeaders.length) pushId.value
        encodedHeaders
  | .cancelPush pushId =>
      .cancelPush http3CancelPush pushId.width.octets pushId.value
  | .goaway lastStreamId =>
      .goaway http3Goaway lastStreamId.width.octets lastStreamId.value
  | .maxPushId limit =>
      .maxPushId http3MaxPushId limit.width.octets limit.value
  | .unknown type payload _ => .frame type payload.length

end Content

/-- A frame with the widths of its type and of its length. -/
structure WireFrame where
  content : Content
  typeWidth : Width
  lengthWidth : Width
  typeRoom : content.type < typeWidth.capacity
  lengthRoom : content.payload.length < lengthWidth.capacity

namespace WireFrame

def type (frame : WireFrame) : WireInt :=
  ⟨frame.typeWidth, frame.content.type, frame.typeRoom⟩

def length (frame : WireFrame) : WireInt :=
  ⟨frame.lengthWidth, frame.content.payload.length, frame.lengthRoom⟩

def bytes (frame : WireFrame) : Bytes :=
  frame.type.bytes ++ frame.length.bytes ++ frame.content.payload

end WireFrame

/-! ### Reading one frame -/

theorem typeAndLength_at {buf : Bytes} {off : Nat} {type length : WireInt}
    (here : type.bytes ++ length.bytes <+: buf.drop off) :
    typeAndLength buf off =
      .ok (type.value, length.value, (type.bytes ++ length.bytes).length) := by
  have parts := append_isPrefix_drop here
  unfold typeAndLength
  rw [decodeVarint_at type parts.1, ok_bind]
  dsimp only
  rw [decodeVarint_at length parts.2, ok_bind, List.length_append]

theorem setting_at {buf : Bytes} {off : Nat} {pair : WireInt × WireInt}
    (here : pairBytes pair <+: buf.drop off) :
    setting buf off =
      .ok (pairValues pair, off + (pairBytes pair).length) := by
  have parts := append_isPrefix_drop here
  unfold setting
  rw [decodeVarint_at pair.1 parts.1, ok_bind]
  dsimp only
  rw [decodeVarint_at pair.2 parts.2, ok_bind]
  unfold pairBytes
  rw [List.length_append, ← Nat.add_assoc]
  rfl

/-- An identifier and a value take a byte each at least, which the bound of the
loop relies on. -/
theorem pairBytes_length (pair : WireInt × WireInt) :
    2 ≤ (pairBytes pair).length := by
  have first := pair.1.width.octets_pos
  have second := pair.2.width.octets_pos
  unfold pairBytes
  rw [List.length_append, WireInt.bytes_length, WireInt.bytes_length]
  omega

theorem settingsFrom_at {buf : Bytes} (pairs : List (WireInt × WireInt))
    {off : Nat} (here : pairs.flatMap pairBytes <+: buf.drop off) :
    settingsFrom buf off (off + (pairs.flatMap pairBytes).length) =
      .ok (pairs.map pairValues) := by
  induction pairs generalizing off with
  | nil =>
      rw [settingsFrom, if_neg]
      · rfl
      · rw [List.flatMap_nil, List.length_nil]
        omega
  | cons pair rest ih =>
      rw [List.flatMap_cons] at here ⊢
      have parts := append_isPrefix_drop here
      have room := pairBytes_length pair
      have read := setting_at parts.1
      have others := ih parts.2
      rw [settingsFrom, if_pos (by rw [List.length_append]; omega)]
      rw [List.length_append, ← Nat.add_assoc]
      split
      · rename_i raised
        rw [read] at raised
        cases raised
      · rename_i got next decoded
        rw [read, Except.ok.injEq, Prod.mk.injEq] at decoded
        rw [← decoded.1, ← decoded.2, others, ok_bind, List.map_cons]

def Content.cls : Content → Http3Class
  | .data _ => .data
  | .headers _ => .headers
  | .settings _ => .settings
  | .pushPromise _ _ => .pushPromise
  | .cancelPush _ => .cancelPush
  | .goaway _ => .goaway
  | .maxPushId _ => .maxPushId
  | .unknown _ _ _ => .frame

theorem http3Sw_type (content : Content) :
    http3Sw content.type = content.cls := by
  cases content with
  | unknown type payload unregistered =>
      simp only [List.mem_cons, List.not_mem_nil, or_false, not_or]
        at unregistered
      obtain ⟨data, headers, settings, goaway, promise, cancel, limit⟩ :=
        unregistered
      change http3Sw type = .frame
      unfold http3Sw
      rw [if_neg data, if_neg headers, if_neg settings, if_neg goaway,
        if_neg promise, if_neg cancel, if_neg limit]
  | data payload => rfl
  | headers encodedHeaders => rfl
  | settings pairs => rfl
  | pushPromise pushId encodedHeaders => rfl
  | cancelPush pushId => rfl
  | goaway lastStreamId => rfl
  | maxPushId limit => rfl

theorem Content.unpack_at {content : Content} {buf : Bytes} {off : Nat}
    (head : typeAndLength buf 0 =
      .ok (content.type, content.payload.length, off))
    (here : content.payload <+: buf.drop off) :
    content.cls.unpack buf = .ok content.decoded := by
  unfold Content.cls Http3Class.unpack
  cases content with
  | data payload =>
      dsimp only
      rw [head, ok_bind]
      dsimp only [Content.payload] at here ⊢
      rw [cut_at here]
      rfl
  | headers encodedHeaders =>
      dsimp only
      rw [head, ok_bind]
      dsimp only [Content.payload] at here ⊢
      rw [cut_at here]
      rfl
  | settings pairs =>
      dsimp only
      rw [head, ok_bind]
      dsimp only [Content.payload] at here ⊢
      rw [settingsFrom_at pairs here, ok_bind]
      rfl
  | pushPromise pushId encodedHeaders =>
      dsimp only
      rw [head, ok_bind]
      dsimp only [Content.payload] at here ⊢
      have parts := append_isPrefix_drop here
      have rest := cut_at parts.2
      -- the rest of the payload, without the integer in front of it
      have stop : off + pushId.bytes.length +
          (pushId.bytes ++ encodedHeaders).length - pushId.bytes.length =
            off + pushId.bytes.length + encodedHeaders.length := by
        rw [List.length_append]
        omega
      rw [decodeVarint_at pushId parts.1, ok_bind]
      dsimp only
      rw [stop, rest, List.length_append, WireInt.bytes_length]
      rfl
  | cancelPush pushId =>
      dsimp only
      rw [head, ok_bind]
      dsimp only [Content.payload] at here ⊢
      rw [decodeVarint_at pushId here, ok_bind, WireInt.bytes_length]
      rfl
  | goaway lastStreamId =>
      dsimp only
      rw [head, ok_bind]
      dsimp only [Content.payload] at here ⊢
      rw [decodeVarint_at lastStreamId here, ok_bind, WireInt.bytes_length]
      rfl
  | maxPushId limit =>
      dsimp only
      rw [head, ok_bind]
      dsimp only [Content.payload] at here ⊢
      rw [decodeVarint_at limit here, ok_bind, WireInt.bytes_length]
      rfl
  | unknown type payload unregistered =>
      dsimp only
      rw [head, ok_bind]
      rfl

theorem WireFrame.head (frame : WireFrame) {buf : Bytes} {off : Nat}
    (here : frame.bytes <+: buf.drop off) :
    typeAndLength buf off =
      .ok (frame.content.type, frame.content.payload.length,
        (frame.type.bytes ++ frame.length.bytes).length) :=
  typeAndLength_at (append_isPrefix_drop here).1

theorem WireFrame.construct_bytes (frame : WireFrame) :
    (http3Sw frame.content.type).construct frame.bytes =
      .ok frame.content.decoded := by
  have whole : frame.bytes <+: frame.bytes.drop 0 := List.prefix_rfl
  have parts := append_isPrefix_drop whole
  rw [Nat.zero_add] at parts
  have nonempty : frame.bytes ≠ [] := by
    intro empty
    have positive := frame.typeWidth.octets_pos
    have lengths := congrArg List.length empty
    unfold WireFrame.bytes at lengths
    rw [List.length_append, List.length_append, WireInt.bytes_length,
      List.length_nil] at lengths
    change frame.typeWidth.octets + _ + _ = 0 at lengths
    omega
  unfold Http3Class.construct
  rw [if_neg nonempty, http3Sw_type]
  exact Content.unpack_at (frame.head whole) parts.2

theorem framesFrom_frame {buf : Bytes} {off : Nat} (frame : WireFrame)
    (here : frame.bytes <+: buf.drop off) :
    framesFrom buf off = (do
      let frames ← framesFrom buf (off + frame.bytes.length)
      .ok (frame.content.decoded :: frames)) := by
  have head := frame.head here
  have positive := typeAndLength_used head
  have size : (frame.type.bytes ++ frame.length.bytes).length +
      frame.content.payload.length = frame.bytes.length := by
    exact List.length_append.symm
  have within : off < buf.length := by
    have lengths := here.length_le
    rw [List.length_drop] at lengths
    omega
  rw [framesFrom, if_pos within]
  split
  · rename_i raised
    rw [head] at raised
    cases raised
  · rename_i ftype flen used decoded
    rw [head, Except.ok.injEq, Prod.mk.injEq, Prod.mk.injEq] at decoded
    obtain ⟨sameType, sameLength, sameUsed⟩ := decoded
    dsimp only
    rw [← sameType, ← sameLength, ← sameUsed, size, cut_at here,
      frame.construct_bytes, ok_bind]

theorem framesFrom_at {buf : Bytes} (frames : List WireFrame) {off : Nat}
    (rest : buf.drop off = frames.flatMap WireFrame.bytes) :
    framesFrom buf off =
      .ok (frames.map fun frame => frame.content.decoded) := by
  induction frames generalizing off with
  | nil =>
      rw [List.flatMap_nil, List.drop_eq_nil_iff] at rest
      rw [framesFrom, if_neg (by omega)]
      rfl
  | cons frame others ih =>
      rw [List.flatMap_cons] at rest
      have here : frame.bytes <+: buf.drop off := by
        rw [rest]
        exact List.prefix_append _ _
      have behind : buf.drop (off + frame.bytes.length) =
          others.flatMap WireFrame.bytes := by
        rw [← List.drop_drop, rest, List.drop_left]
      rw [framesFrom_frame frame here, ih behind, ok_bind, List.map_cons]

/-- Whatever widths are chosen, the frames come back in order, each as an
object of the class of its type. -/
theorem parse_http3_frames_decodes (frames : List WireFrame) :
    parseHttp3Frames (frames.flatMap WireFrame.bytes) =
      .ok (frames.map fun frame => frame.content.decoded) :=
  framesFrom_at frames rfl

end DpktNg.Http3
