/-
Frames of the Hypertext Transfer Protocol version 2, dpkt/http2.py.
-/

import DpktNg.Python.Struct

namespace DpktNg.Http2

open Library

def http2Preface : Bytes :=
  asciiBytes "PRI * HTTP/2.0\r\n\r\nSM\r\n\r\n"

def http2FlagPadded : Nat := 0x08

def http2FlagPriority : Nat := 0x20

def http2Exception (message : String) : PyError :=
  .other "HTTP2Exception" message.toList

/-- `dpkt.NeedData`, raised without a message. -/
def needData : PyError := .needData []

/-- `Preface(buf)`; the value is its `len`. -/
def preface : Bytes → Except PyError Nat :=
  packetInit "Preface" (some 24) fun buf => do
    let (hdr, _) ← takeHeader 24 buf
    if hdr ≠ http2Preface then .error (http2Exception "Invalid HTTP/2 preface")
    else .ok 24

structure FrameHeader where
  lengthBytes : Bytes
  type : Nat
  flags : Nat
  streamId : Nat
  data : Bytes
deriving DecidableEq, Repr

def FrameHeader.length (self : FrameHeader) : Nat :=
  beNat (0 :: self.lengthBytes)

def FrameHeader.unpack (buf : Bytes) : Except PyError FrameHeader := do
  let (hdr, data) ← takeHeader 9 buf
  let length := beNat (0 :: hdr.take 3)
  let data := data.take length
  if data.length ≠ length then .error needData
  else
    .ok
      { lengthBytes := hdr.take 3
        type := beNat (cut hdr 3 4)
        flags := beNat (cut hdr 4 5)
        streamId := beNat (cut hdr 5 9)
        data }

def FrameHeader.bytes (self : FrameHeader) : Except PyError Bytes := do
  let hdr ← packHdr [(1, self.type), (1, self.flags), (4, self.streamId)]
  .ok (packString 3 self.lengthBytes ++ hdr ++ self.data)

def FrameHeader.size (self : FrameHeader) : Nat := 9 + self.data.length

structure Priority where
  exclusive : Bool
  streamDep : Nat
  weight : Nat
deriving DecidableEq, Repr

def priority : Bytes → Except PyError Priority :=
  packetInit "Priority" (some 5) fun buf => do
    let (hdr, data) ← takeHeader 5 buf
    let streamDep := beNat (cut hdr 0 4)
    if data.length ≠ 0 then
      .error (http2Exception "Invalid number of bytes in PRIORITY frame")
    else
      .ok
        { exclusive := streamDep &&& 0x80000000 ≠ 0
          streamDep := streamDep &&& 0x7fffffff
          weight := beNat (cut hdr 4 5) + 1 }

structure Setting where
  identifier : Nat
  value : Nat
  data : Bytes
deriving DecidableEq, Repr

def setting : Bytes → Except PyError Setting :=
  packetInit "Setting" (some 6) fun buf => do
    let (hdr, data) ← takeHeader 6 buf
    .ok { identifier := beNat (cut hdr 0 2), value := beNat (cut hdr 2 6), data }

inductive Fields where
  | data (padLength : Option Nat) (payload : Bytes)
  | headers (padLength : Option Nat) (priority : Option Priority)
      (blockFragment : Bytes)
  | priority (priority : Priority)
  | rstStream (errorCode : Nat)
  | settings (settings : List Setting)
  | pushPromise (padLength : Option Nat) (promisedId : Nat)
      (blockFragment : Bytes)
  | ping
  | goAway (lastStreamId errorCode : Nat) (debugData : Bytes)
  | windowUpdate (windowIncrement : Nat)
  | continuation (blockFragment : Bytes)
deriving DecidableEq, Repr

structure Frame where
  header : FrameHeader
  fields : Fields
deriving DecidableEq, Repr

/-- `data[1:-pad_length]`.  For zero the slice ends at the start. -/
def withoutPadding (data : Bytes) (padLength : Nat) : Bytes :=
  cut data 1 (if padLength = 0 then 0 else data.length - padLength)

/-- `PaddedFrame.unpack` behind the header: the pad length and the unpadded
data. -/
def padded (self : FrameHeader) : Except PyError (Option Nat × Bytes) :=
  if self.flags &&& http2FlagPadded ≠ 0 then
    if self.length = 0 then
      .error (http2Exception "Missing padding length in PADDED frame")
    else do
      let padLength ← unpackBe 1 (self.data.take 1)
      if self.length ≤ padLength then
        .error (http2Exception "Missing padding bytes in PADDED frame")
      else .ok (some padLength, withoutPadding self.data padLength)
  else .ok (none, self.data)

def dataFields (self : FrameHeader) : Except PyError Fields := do
  let (padLength, unpaddedData) ← padded self
  .ok (.data padLength unpaddedData)

def headersFields (self : FrameHeader) : Except PyError Fields := do
  let (padLength, unpaddedData) ← padded self
  if self.flags &&& http2FlagPriority ≠ 0 then
    if unpaddedData.length < 5 then
      .error (http2Exception
        "Missing stream dependency in HEADERS frame with PRIORITY flag")
    else do
      let dependency ← priority (unpaddedData.take 5)
      .ok (.headers padLength (some dependency) (unpaddedData.drop 5))
  else .ok (.headers padLength none unpaddedData)

def priorityFields (self : FrameHeader) : Except PyError Fields := do
  .ok (.priority (← priority self.data))

def rstStreamFields (self : FrameHeader) : Except PyError Fields :=
  if self.length ≠ 4 then
    .error (http2Exception
      "Invalid number of bytes in RST_STREAM frame (must be 4)")
  else do .ok (.rstStream (← unpackBe 4 self.data))

/-- The loop of `SettingsFrame`, six bytes a round. -/
def settingList (data : Bytes) : Nat → Except PyError (List Setting)
  | 0 => .ok []
  | count + 1 => do
      let first ← setting (data.take 6)
      let rest ← settingList (data.drop 6) count
      .ok (first :: rest)

def settingsFields (self : FrameHeader) : Except PyError Fields :=
  if self.length % 6 ≠ 0 then
    .error (http2Exception
      "Invalid number of bytes in SETTINGS frame (must be multiple of 6)")
  else do .ok (.settings (← settingList self.data (self.length / 6)))

def pushPromiseFields (self : FrameHeader) : Except PyError Fields := do
  let (padLength, unpaddedData) ← padded self
  if unpaddedData.length < 4 then
    .error (http2Exception
      "Missing promised stream ID in PUSH_PROMISE frame")
  else do
    let promisedId ← unpackBe 4 (self.data.take 4)
    .ok (.pushPromise padLength promisedId (unpaddedData.drop 4))

def pingFields (self : FrameHeader) : Except PyError Fields :=
  if self.length ≠ 8 then
    .error (http2Exception "Invalid number of bytes in PING frame (must be 8)")
  else .ok .ping

def goAwayFields (self : FrameHeader) : Except PyError Fields :=
  if self.length < 8 then
    .error (http2Exception "Invalid number of bytes in GO_AWAY frame")
  else do
    let lastStreamId ← unpackBe 4 (self.data.take 4)
    let errorCode ← unpackBe 4 (cut self.data 4 8)
    .ok (.goAway lastStreamId errorCode (self.data.drop 8))

def windowUpdateFields (self : FrameHeader) : Except PyError Fields :=
  if self.length ≠ 4 then
    .error (http2Exception
      "Invalid number of bytes in WINDOW_UPDATE frame (must be 4)")
  else do .ok (.windowUpdate (← unpackBe 4 self.data))

def continuationFields (self : FrameHeader) : Except PyError Fields :=
  .ok (.continuation self.data)

def frameTypes : Nat →
    Option (String × (FrameHeader → Except PyError Fields))
  | 0 => some ("DataFrame", dataFields)
  | 1 => some ("HeadersFrame", headersFields)
  | 2 => some ("PriorityFrame", priorityFields)
  | 3 => some ("RSTStreamFrame", rstStreamFields)
  | 4 => some ("SettingsFrame", settingsFields)
  | 5 => some ("PushPromiseFrame", pushPromiseFields)
  | 6 => some ("PingFrame", pingFields)
  | 7 => some ("GoAwayFrame", goAwayFields)
  | 8 => some ("WindowUpdateFrame", windowUpdateFields)
  | 9 => some ("ContinuationFrame", continuationFields)
  | _ => none

def frameClass (className : String)
    (fields : FrameHeader → Except PyError Fields) :
    Bytes → Except PyError Frame :=
  packetInit className (some 9) fun buf => do
    let header ← FrameHeader.unpack buf
    .ok { header, fields := ← fields header }

def hex (n : Nat) : PyStr := "0x".toList ++ Nat.toDigits 16 n

def frameFactory (buf : Bytes) : Except PyError Frame :=
  if buf.length < 4 then .error needData
  else do
    let t ← unpackBe 1 (cut buf 3 4)
    match frameTypes t with
    | none =>
        .error (.other "HTTP2Exception" ("Invalid frame type: ".toList ++ hex t))
    | some (className, fields) => frameClass className fields buf

/-- The loop of `frame_multi_factory`, from the bytes that are left on: the
frames, and the bytes that they take. -/
def framesFrom (buf : Bytes) : Except PyError (List Frame × Nat) :=
  if 0 < buf.length then
    match frameFactory buf with
    | .error (.needData _) => .ok ([], 0)
    | .error problem => .error problem
    | .ok frame => do
        let (frames, used) ← framesFrom (buf.drop frame.header.size)
        .ok (frame :: frames, frame.header.size + used)
  else .ok ([], 0)
termination_by buf.length
decreasing_by
  unfold FrameHeader.size
  rw [List.length_drop]
  omega

def frameMultiFactory (buf : Bytes) (expected : Bool) :
    Except PyError (List Frame × Nat) :=
  if expected then
    match preface buf with
    | .error (.needData _) => .ok ([], 0)
    | .error problem => .error problem
    | .ok i => do
        let (frames, used) ← framesFrom (buf.drop i)
        .ok (frames, i + used)
  else framesFrom buf

end DpktNg.Http2
