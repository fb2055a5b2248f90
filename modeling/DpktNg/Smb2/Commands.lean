/-
The commands of dpkt/smb2.py behind the header of a message.
-/

import DpktNg.Python.Records
import DpktNg.Python.StructFormat

namespace DpktNg.Smb2

open Library

def hdrSize : Nat := 64

/-- A payload whose offset counts from the start of the message: the class only
has the bytes behind the header. -/
def payload (buf : Bytes) (offset length : Nat) : Bytes :=
  if offset ≥ hdrSize ∧ length ≠ 0 then
    cut buf (offset - hdrSize) (offset - hdrSize + length)
  else []

/-- The classes that have nothing but `__hdr__`. -/
inductive HeaderClass where
  | negotiate
  | sessionSetup
  | logoff
  | treeDisconnect
  | close
  | flush
  | cancel
  | echo
  | changeNotify
  | oplockBreak
deriving DecidableEq, Repr

namespace HeaderClass

def name : HeaderClass → String
  | negotiate => "SMB2Negotiate"
  | sessionSetup => "SMB2SessionSetup"
  | logoff => "SMB2Logoff"
  | treeDisconnect => "SMB2TreeDisconnect"
  | close => "SMB2Close"
  | flush => "SMB2Flush"
  | cancel => "SMB2Cancel"
  | echo => "SMB2Echo"
  | changeNotify => "SMB2ChangeNotify"
  | oplockBreak => "SMB2OplockBreak"

def items : HeaderClass → List StructItem
  | negotiate => [.int 2, .int 2, .int 2, .int 2, .int 4, .str 16, .int 4]
  | sessionSetup =>
      [.int 2, .int 1, .int 1, .int 4, .int 4, .int 2, .int 2, .int 8]
  | logoff => [.int 2, .int 2]
  | treeDisconnect => [.int 2, .int 2]
  | close => [.int 2, .int 2, .int 4, .str 16]
  | flush => [.int 2, .int 2, .int 4, .str 16]
  | cancel => [.int 2]
  | echo => [.int 2]
  | changeNotify => [.int 2, .int 2, .int 4, .str 16, .int 4, .int 4]
  | oplockBreak => [.int 2, .int 1, .int 1, .int 4, .str 16]

def format (cls : HeaderClass) : StructFormat (StructValues cls.items) where
  items := cls.items
  values values := values
  ofValues values := values
  ofValues_values _ := rfl

end HeaderClass

/-! ### Names in requests -/

structure TreeConnectHeader where
  structSize : Nat
  flagsVal : Nat
  pathOffset : Nat
  pathLength : Nat

def TreeConnectHeader.format : StructFormat TreeConnectHeader where
  items := [.int 2, .int 2, .int 2, .int 2]
  values header :=
    (header.structSize, header.flagsVal, header.pathOffset, header.pathLength,
      ())
  ofValues := fun (structSize, flagsVal, pathOffset, pathLength, _) =>
    { structSize, flagsVal, pathOffset, pathLength }
  ofValues_values _ := rfl

structure SMB2TreeConnect where
  header : TreeConnectHeader
  path : Bytes

def SMB2TreeConnect.unpack (buf : Bytes) : Except PyError SMB2TreeConnect := do
  let (header, _) ← TreeConnectHeader.format.unpackHdr .little buf
  .ok { header, path := payload buf header.pathOffset header.pathLength }

structure CreateHeader where
  structSize : Nat
  securityFlags : Nat
  reqOplockLevel : Nat
  impersonationLevel : Nat
  smbCreateFlags : Nat
  rsv : Nat
  desiredAccess : Nat
  fileAttributes : Nat
  shareAccess : Nat
  createDisposition : Nat
  createOptions : Nat
  nameOffset : Nat
  nameLength : Nat
  createContextsOffset : Nat
  createContextsLength : Nat

def CreateHeader.format : StructFormat CreateHeader where
  items :=
    [.int 2, .int 1, .int 1, .int 4, .int 8, .int 8, .int 4, .int 4, .int 4,
      .int 4, .int 4, .int 2, .int 2, .int 4, .int 4]
  values header :=
    (header.structSize, header.securityFlags, header.reqOplockLevel,
      header.impersonationLevel, header.smbCreateFlags, header.rsv,
      header.desiredAccess, header.fileAttributes, header.shareAccess,
      header.createDisposition, header.createOptions, header.nameOffset,
      header.nameLength, header.createContextsOffset,
      header.createContextsLength, ())
  ofValues := fun (structSize, securityFlags, reqOplockLevel,
      impersonationLevel, smbCreateFlags, rsv, desiredAccess, fileAttributes,
      shareAccess, createDisposition, createOptions, nameOffset, nameLength,
      createContextsOffset, createContextsLength, _) =>
    { structSize, securityFlags, reqOplockLevel, impersonationLevel,
      smbCreateFlags, rsv, desiredAccess, fileAttributes, shareAccess,
      createDisposition, createOptions, nameOffset, nameLength,
      createContextsOffset, createContextsLength }
  ofValues_values _ := rfl

structure SMB2Create where
  header : CreateHeader
  fileName : Bytes

def SMB2Create.unpack (buf : Bytes) : Except PyError SMB2Create := do
  let (header, _) ← CreateHeader.format.unpackHdr .little buf
  .ok { header, fileName := payload buf header.nameOffset header.nameLength }

/-! ### READ and WRITE -/

/-- A response has the structure size 17. -/
structure ReadResponse where
  dataOffset : Nat
  rsv : Nat
  dataLength : Nat
  dataRemaining : Nat
  rsv2 : Bytes
  fileData : Bytes

structure ReadRequest where
  structSize : Nat
  padding : Nat
  flags0 : Nat
  length : Nat
  offset : Nat
  fileId : Bytes
  minimumCount : Nat
  channel : Nat
  remaining : Nat
  channelInfoOffset : Nat
  channelInfoLength : Nat
  flags : Nat

inductive SMB2Read where
  | response (self : ReadResponse)
  | request (self : ReadRequest)

def SMB2Read.unpackResponse (buf : Bytes) : Except PyError ReadResponse := do
  let _structSize ← ByteOrder.little.unpackInt 2 (cut buf 0 2)
  let dataOffset ← ByteOrder.little.unpackInt 1 (cut buf 2 3)
  let rsv ← byteAt buf 3
  let dataLength ← ByteOrder.little.unpackInt 4 (cut buf 4 8)
  let dataRemaining ← ByteOrder.little.unpackInt 4 (cut buf 8 12)
  .ok
    { dataOffset
      rsv
      dataLength
      dataRemaining
      rsv2 := cut buf 12 16
      fileData := payload buf dataOffset dataLength }

def SMB2Read.unpackRequest (buf : Bytes) : Except PyError ReadRequest := do
  let structSize ← ByteOrder.little.unpackInt 2 (cut buf 0 2)
  let padding ← byteAt buf 2
  let flags0 ← byteAt buf 3
  let length ← ByteOrder.little.unpackInt 4 (cut buf 4 8)
  let offset ← ByteOrder.little.unpackInt 8 (cut buf 8 16)
  let minimumCount ← ByteOrder.little.unpackInt 4 (cut buf 32 36)
  let channel ← ByteOrder.little.unpackInt 4 (cut buf 36 40)
  let remaining ← ByteOrder.little.unpackInt 4 (cut buf 40 44)
  let channelInfoOffset ← ByteOrder.little.unpackInt 2 (cut buf 44 46)
  let channelInfoLength ← ByteOrder.little.unpackInt 2 (cut buf 46 48)
  let flags ←
    if buf.length ≥ 52 then ByteOrder.little.unpackInt 4 (cut buf 48 52)
    else .ok 0
  .ok
    { structSize
      padding
      flags0
      length
      offset
      fileId := cut buf 16 32
      minimumCount
      channel
      remaining
      channelInfoOffset
      channelInfoLength
      flags }

def SMB2Read.unpack (buf : Bytes) : Except PyError SMB2Read := do
  if buf.length < 2 then
    .error (.unpackError
      ("invalid SMB2Read buffer length ".toList ++ decimal buf.length))
  else do
    let structSize ← ByteOrder.little.unpackInt 2 (cut buf 0 2)
    if structSize = 17 then .ok (.response (← unpackResponse buf))
    else if structSize = 49 then .ok (.request (← unpackRequest buf))
    else
      .error (.unpackError
        ("invalid SMB2Read StructureSize ".toList ++ decimal structSize))

/-- `_pack_response` and `_pack_request` -/
def SMB2Read.bytes : SMB2Read → Except PyError Bytes
  | .response self => do
      let hdr ← StructValues.pack .little
        [.int 2, .int 1, .int 1, .int 4, .int 4, .str 4]
        (17, self.dataOffset, self.rsv, self.dataLength, self.dataRemaining,
          self.rsv2, ())
      .ok (hdr ++ self.fileData)
  | .request self =>
      StructValues.pack .little
        [.int 2, .int 1, .int 1, .int 4, .int 8, .str 16, .int 4, .int 4,
          .int 4, .int 2, .int 2, .int 4]
        (self.structSize, self.padding, self.flags0, self.length, self.offset,
          self.fileId, self.minimumCount, self.channel, self.remaining,
          self.channelInfoOffset, self.channelInfoLength, self.flags, ())

/-- A request has any structure size but 17. -/
structure WriteRequest where
  structSize : Nat
  dataOffset : Nat
  length : Nat
  offset : Nat
  fileId : Bytes
  channel : Nat
  remaining : Nat
  channelInfoOffset : Nat
  channelInfoLength : Nat
  writeFlags : Nat
  fileData : Bytes

structure WriteResponse where
  rsv : Nat
  count : Nat
  remaining : Nat
  channelInfoOffset : Nat
  channelInfoLength : Nat

inductive SMB2Write where
  | response (self : WriteResponse)
  | request (self : WriteRequest)

def SMB2Write.unpackRequest (buf : Bytes) : Except PyError WriteRequest := do
  let structSize ← ByteOrder.little.unpackInt 2 (cut buf 0 2)
  let dataOffset ← ByteOrder.little.unpackInt 2 (cut buf 2 4)
  let length ← ByteOrder.little.unpackInt 4 (cut buf 4 8)
  let offset ← ByteOrder.little.unpackInt 8 (cut buf 8 16)
  let channel ← ByteOrder.little.unpackInt 4 (cut buf 32 36)
  let remaining ← ByteOrder.little.unpackInt 4 (cut buf 36 40)
  let channelInfoOffset ← ByteOrder.little.unpackInt 2 (cut buf 40 42)
  let channelInfoLength ← ByteOrder.little.unpackInt 2 (cut buf 42 44)
  let writeFlags ←
    if buf.length ≥ 48 then ByteOrder.little.unpackInt 4 (cut buf 44 48)
    else .ok 0
  .ok
    { structSize
      dataOffset
      length
      offset
      fileId := cut buf 16 32
      channel
      remaining
      channelInfoOffset
      channelInfoLength
      writeFlags
      fileData := payload buf dataOffset length }

def SMB2Write.unpackResponse (buf : Bytes) : Except PyError WriteResponse := do
  let _structSize ← ByteOrder.little.unpackInt 2 (cut buf 0 2)
  let rsv ← ByteOrder.little.unpackInt 2 (cut buf 2 4)
  let count ← ByteOrder.little.unpackInt 4 (cut buf 4 8)
  let remaining ← ByteOrder.little.unpackInt 4 (cut buf 8 12)
  let channelInfoOffset ← ByteOrder.little.unpackInt 2 (cut buf 12 14)
  let channelInfoLength ← ByteOrder.little.unpackInt 2 (cut buf 14 16)
  .ok { rsv, count, remaining, channelInfoOffset, channelInfoLength }

def SMB2Write.unpack (buf : Bytes) : Except PyError SMB2Write := do
  let structSize ← ByteOrder.little.unpackInt 2 (cut buf 0 2)
  if structSize = 17 then .ok (.response (← unpackResponse buf))
  else .ok (.request (← unpackRequest buf))

def SMB2Write.bytes : SMB2Write → Except PyError Bytes
  | .response self =>
      StructValues.pack .little
        [.int 2, .int 2, .int 4, .int 4, .int 2, .int 2]
        (17, self.rsv, self.count, self.remaining, self.channelInfoOffset,
          self.channelInfoLength, ())
  | .request self => do
      let hdr ← StructValues.pack .little
        [.int 2, .int 2, .int 4, .int 8, .str 16, .int 4, .int 4, .int 2,
          .int 2, .int 4]
        (self.structSize, self.dataOffset, self.length, self.offset,
          self.fileId, self.channel, self.remaining, self.channelInfoOffset,
          self.channelInfoLength, self.writeFlags, ())
      .ok (hdr ++ self.fileData)

structure LockHeader where
  structSize : Nat
  lockCount : Nat
  lockSequence : Nat
  fileId : Bytes

def LockHeader.format : StructFormat LockHeader where
  items := [.int 2, .int 2, .int 4, .str 16]
  values header :=
    (header.structSize, header.lockCount, header.lockSequence, header.fileId, ())
  ofValues := fun (structSize, lockCount, lockSequence, fileId, _) =>
    { structSize, lockCount, lockSequence, fileId }
  ofValues_values _ := rfl

structure Lock where
  offset : Nat
  length : Nat
  flags : Nat
  rsv : Nat

def Lock.format : RecordFormat Lock where
  widths := [8, 8, 4, 4]
  fields lock :=
    [(8, lock.offset), (8, lock.length), (4, lock.flags), (4, lock.rsv)]
  ofValues values :=
    { offset := values.getD 0 0
      length := values.getD 1 0
      flags := values.getD 2 0
      rsv := values.getD 3 0 }
  widths_fields _ := rfl
  ofValues_fields _ := rfl

structure SMB2Lock where
  header : LockHeader
  locks : List Lock

def SMB2Lock.unpack (buf : Bytes) : Except PyError SMB2Lock := do
  let (header, behind) ← LockHeader.format.unpackHdr .little buf
  let records := recordsUpTo Lock.format.size header.lockCount behind
  .ok { header, locks := records.map (Lock.format.read .little) }

def SMB2Lock.bytes (self : SMB2Lock) : Except PyError Bytes := do
  let hdr ← LockHeader.format.packHdr .little self.header
  let locks ← packAll Lock.format .little self.locks
  .ok (hdr.take LockHeader.format.size ++ locks)

/-! ### IOCTL -/

structure IoctlHeader where
  structSize : Nat
  rsv1 : Nat
  ctlCode : Nat
  fileId : Bytes

def IoctlHeader.format : StructFormat IoctlHeader where
  items := [.int 2, .int 2, .int 4, .str 16]
  values header :=
    (header.structSize, header.rsv1, header.ctlCode, header.fileId, ())
  ofValues := fun (structSize, rsv1, ctlCode, fileId, _) =>
    { structSize, rsv1, ctlCode, fileId }
  ofValues_values _ := rfl

structure SMB2Ioctl where
  header : IoctlHeader
  inOffset : Nat
  inLength : Nat
  maxInSize : Nat
  outOffset : Nat
  outLength : Nat
  maxOutSize : Nat
  flags : Nat
  rsv2 : Bytes
  inData : Bytes
  outData : Bytes

def SMB2Ioctl.unpack (buf : Bytes) : Except PyError SMB2Ioctl := do
  let (header, _) ← IoctlHeader.format.unpackHdr .little buf
  let inOffset ← ByteOrder.little.unpackInt 4 (cut buf 24 28)
  let inLength ← ByteOrder.little.unpackInt 4 (cut buf 28 32)
  let maxInSize ← ByteOrder.little.unpackInt 4 (cut buf 32 36)
  let outOffset ← ByteOrder.little.unpackInt 4 (cut buf 36 40)
  let outLength ← ByteOrder.little.unpackInt 4 (cut buf 40 44)
  let maxOutSize ← ByteOrder.little.unpackInt 4 (cut buf 44 48)
  let flags ← ByteOrder.little.unpackInt 4 (cut buf 48 52)
  .ok
    { header
      inOffset
      inLength
      maxInSize
      outOffset
      outLength
      maxOutSize
      flags
      rsv2 := cut buf 52 56
      inData := payload buf inOffset inLength
      outData := payload buf outOffset outLength }

/-- `hdr.ljust(size)`, which fills up with spaces. -/
def ljust (size : Nat) (bytes : Bytes) : Bytes :=
  bytes ++ List.replicate (size - bytes.length) 0x20

/-- The offsets and lengths are those of the data, not those that were read. -/
def SMB2Ioctl.bytes (self : SMB2Ioctl) : Except PyError Bytes := do
  let hdr ← IoctlHeader.format.packHdr .little self.header
  let inOffset :=
    if self.inData ≠ [] then hdrSize + IoctlHeader.format.size else 0
  let outOffset :=
    if self.outData ≠ [] then
      hdrSize + IoctlHeader.format.size + self.inData.length
    else 0
  let mid ← StructValues.pack .little
    [.int 4, .int 4, .int 4, .int 4, .int 4, .int 4, .int 4, .int 4]
    (inOffset, self.inData.length, self.maxInSize, outOffset,
      self.outData.length, self.maxOutSize, self.flags, 0, ())
  .ok (ljust hdrSize hdr ++ mid ++ self.inData ++ self.outData)

/-! ### QUERY_DIRECTORY, QUERY_INFO and SET_INFO -/

structure QueryDirectoryHeader where
  structSize : Nat
  fileInfoClass : Nat
  flags : Nat
  fileIndex : Nat
  fileId : Bytes

def QueryDirectoryHeader.format : StructFormat QueryDirectoryHeader where
  items := [.int 2, .int 1, .int 1, .int 4, .str 16]
  values header :=
    (header.structSize, header.fileInfoClass, header.flags, header.fileIndex,
      header.fileId, ())
  ofValues := fun (structSize, fileInfoClass, flags, fileIndex, fileId, _) =>
    { structSize, fileInfoClass, flags, fileIndex, fileId }
  ofValues_values _ := rfl

structure SMB2QueryDirectory where
  header : QueryDirectoryHeader
  fileNameOffset : Nat
  fileNameLength : Nat
  outputOffset : Nat
  outputLength : Nat
  fileName : Bytes
  outputData : Bytes

def SMB2QueryDirectory.unpack (buf : Bytes) :
    Except PyError SMB2QueryDirectory := do
  let (header, _) ← QueryDirectoryHeader.format.unpackHdr .little buf
  let fileNameOffset ← ByteOrder.little.unpackInt 2 (cut buf 24 26)
  let fileNameLength ← ByteOrder.little.unpackInt 2 (cut buf 26 28)
  let outputOffset ← ByteOrder.little.unpackInt 4 (cut buf 28 32)
  let outputLength ← ByteOrder.little.unpackInt 4 (cut buf 32 36)
  .ok
    { header
      fileNameOffset
      fileNameLength
      outputOffset
      outputLength
      fileName := payload buf fileNameOffset fileNameLength
      outputData := payload buf outputOffset outputLength }

def SMB2QueryDirectory.bytes (self : SMB2QueryDirectory) :
    Except PyError Bytes := do
  let hdr ← QueryDirectoryHeader.format.packHdr .little self.header
  let fileNameOffset :=
    if self.fileName ≠ [] then hdrSize + hdr.length + 12 else 0
  let outputOffset :=
    if self.outputData ≠ [] then
      hdrSize + hdr.length + 12 + self.fileName.length
    else 0
  let mid ← StructValues.pack .little [.int 2, .int 2, .int 4, .int 4]
    (fileNameOffset, self.fileName.length, outputOffset,
      self.outputData.length, ())
  .ok (hdr ++ mid ++ self.fileName ++ self.outputData)

structure InfoHeader where
  structSize : Nat
  infoType : Nat
  fileInfoClass : Nat

def InfoHeader.format : StructFormat InfoHeader where
  items := [.int 2, .int 1, .int 1]
  values header :=
    (header.structSize, header.infoType, header.fileInfoClass, ())
  ofValues := fun (structSize, infoType, fileInfoClass, _) =>
    { structSize, infoType, fileInfoClass }
  ofValues_values _ := rfl

structure SMB2QueryInfo where
  header : InfoHeader
  outputBufferLength : Nat
  inputBufferOffset : Nat
  rsv : Nat
  inputBufferLength : Nat
  additionalInfo : Nat
  flags : Nat
  fileId : Bytes
  inputData : Bytes

def SMB2QueryInfo.unpack (buf : Bytes) : Except PyError SMB2QueryInfo := do
  let (header, _) ← InfoHeader.format.unpackHdr .little buf
  let outputBufferLength ← ByteOrder.little.unpackInt 4 (cut buf 4 8)
  let inputBufferOffset ← ByteOrder.little.unpackInt 2 (cut buf 8 10)
  let rsv ← ByteOrder.little.unpackInt 2 (cut buf 10 12)
  let inputBufferLength ← ByteOrder.little.unpackInt 4 (cut buf 12 16)
  let additionalInfo ← ByteOrder.little.unpackInt 4 (cut buf 16 20)
  let flags ← ByteOrder.little.unpackInt 4 (cut buf 20 24)
  .ok
    { header
      outputBufferLength
      inputBufferOffset
      rsv
      inputBufferLength
      additionalInfo
      flags
      fileId := cut buf 24 40
      inputData := payload buf inputBufferOffset inputBufferLength }

def SMB2QueryInfo.bytes (self : SMB2QueryInfo) : Except PyError Bytes := do
  let hdr ← InfoHeader.format.packHdr .little self.header
  let inputOffset :=
    if self.inputData ≠ [] then hdrSize + hdr.length + 36 else 0
  let mid ← StructValues.pack .little
    [.int 4, .int 2, .int 2, .int 4, .int 4, .int 4, .str 16]
    (self.outputBufferLength, inputOffset, self.rsv, self.inputData.length,
      self.additionalInfo, self.flags, self.fileId, ())
  .ok (hdr ++ mid ++ self.inputData)

structure SMB2SetInfo where
  header : InfoHeader
  bufferLength : Nat
  bufferOffset : Nat
  rsv : Nat
  additionalInfo : Nat
  fileId : Bytes
  rsv2 : Nat
  bufferData : Bytes

def SMB2SetInfo.unpack (buf : Bytes) : Except PyError SMB2SetInfo := do
  let (header, _) ← InfoHeader.format.unpackHdr .little buf
  let bufferLength ← ByteOrder.little.unpackInt 4 (cut buf 4 8)
  let bufferOffset ← ByteOrder.little.unpackInt 2 (cut buf 8 10)
  let rsv ← ByteOrder.little.unpackInt 2 (cut buf 10 12)
  let additionalInfo ← ByteOrder.little.unpackInt 4 (cut buf 12 16)
  let rsv2 ←
    if buf.length ≥ 36 then ByteOrder.little.unpackInt 4 (cut buf 32 36)
    else .ok 0
  .ok
    { header
      bufferLength
      bufferOffset
      rsv
      additionalInfo
      fileId := cut buf 16 32
      rsv2
      bufferData := payload buf bufferOffset bufferLength }

def SMB2SetInfo.bytes (self : SMB2SetInfo) : Except PyError Bytes := do
  let hdr ← InfoHeader.format.packHdr .little self.header
  let bufferOffset :=
    if self.bufferData ≠ [] then hdrSize + hdr.length + 32 else 0
  let mid ← StructValues.pack .little
    [.int 4, .int 2, .int 2, .int 4, .str 16, .int 4]
    (self.bufferData.length, bufferOffset, self.rsv, self.additionalInfo,
      self.fileId, self.rsv2, ())
  .ok (hdr ++ mid ++ self.bufferData)

end DpktNg.Smb2
