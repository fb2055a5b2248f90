/-
Commands with a payload, read back from the message they were packed in.  The
fields behind the header of IOCTL are read where `__bytes__` has put spaces.
-/

import DpktNg.Smb2.Message

namespace DpktNg.Smb2

open Library

theorem payload_at {front : Bytes} {place : Nat}
    (place_eq : hdrSize + front.length = place) (data behind : Bytes) :
    payload (front ++ (data ++ behind)) place data.length = data := by
  unfold payload
  split
  · rename_i some
    have start : place - hdrSize = front.length := by omega
    rw [start, ← List.append_assoc, cut_append]
  · rename_i none
    refine (List.eq_nil_of_length_eq_zero ?_).symm
    unfold hdrSize at *
    omega

theorem payload_alone {front : Bytes} {place : Nat}
    (place_eq : hdrSize + front.length = place) (data : Bytes) :
    payload (front ++ data) place data.length = data := by
  have found := payload_at place_eq data []
  rw [List.append_nil] at found
  exact found

theorem payload_placed {front : Bytes} {place : Nat}
    (place_eq : hdrSize + front.length = place) (data behind : Bytes) :
    payload (front ++ (data ++ behind)) (if data ≠ [] then place else 0)
      data.length = data := by
  by_cases none : data = []
  · rw [none, if_neg (not_not.mpr rfl)]
    rfl
  · rw [if_pos none, payload_at place_eq]

theorem payload_placed_alone {front : Bytes} {place : Nat}
    (place_eq : hdrSize + front.length = place) (data : Bytes) :
    payload (front ++ data) (if data ≠ [] then place else 0) data.length =
      data := by
  have found := payload_placed place_eq data []
  rw [List.append_nil] at found
  exact found

/-- A response whose data stand right behind its fields. -/
structure ReadResponse.Sendable (command : ReadResponse) : Prop where
  dataOffset : command.dataOffset = 80
  rsv : command.rsv < 256
  dataLength : command.dataLength = command.fileData.length
  dataRemaining : command.dataRemaining < 256 ^ 4
  rsv2 : command.rsv2.length = 4
  fileData : command.fileData.length < 256 ^ 4

theorem SMB2Read.read_back {self : ReadResponse} (sendable : self.Sendable) :
    ∃ buf, (SMB2Read.response self).bytes = .ok buf ∧
      SMB2Read.unpack buf = .ok (.response self) := by
  rcases self with
    ⟨dataOffset, rsv, dataLength, dataRemaining, rsv2, fileData⟩
  obtain ⟨offset_eq, rsvFits, length_eq, remainingFits, rsv2Length, dataFits⟩ :=
    sendable
  dsimp only at *
  have fits : StructValues.Fits
      [.int 2, .int 1, .int 1, .int 4, .int 4, .str 4]
      (17, dataOffset, rsv, dataLength, dataRemaining, rsv2, ()) := by
    refine ⟨?_, ?_, rsvFits, ?_, remainingFits, rsv2Length, trivial⟩
    · change 17 < 256 ^ 2
      decide
    · change dataOffset < 256 ^ 1
      omega
    · change dataLength < 256 ^ 4
      omega
  obtain ⟨front, packed, length, stands⟩ := StructValues.packed .little fits
  change front.length = 16 at length
  have stand := stands fileData List.length_nil
  simp only [StructValues.StandAt, StructItem.StandsAt, StructItem.size,
    Nat.reduceAdd, List.nil_append, and_true] at stand
  obtain ⟨structRead, offsetRead, rsvRead, lengthRead, remainingRead,
    rsv2Read⟩ := stand
  have placed : payload (front ++ fileData) 80 fileData.length = fileData :=
    payload_alone (by rw [length]; rfl) fileData
  rw [← offset_eq, ← length_eq] at placed
  have long : ¬(front ++ fileData).length < 2 := by
    rw [List.length_append, length]
    omega
  refine ⟨front ++ fileData, ?_, ?_⟩
  · unfold bytes
    dsimp only
    rw [packed, ok_bind]
  · unfold unpack unpackResponse
    rw [if_neg long, structRead, ok_bind, if_pos rfl, ok_bind,
      offsetRead, ok_bind, ByteOrder.byteAt_of_unpackInt _ rsvRead, ok_bind,
      lengthRead, ok_bind, remainingRead, ok_bind, placed, rsv2Read]
    rfl

/-! ### WRITE -/

/-- A request whose data stand right behind its fields. -/
structure WriteRequest.Sendable (command : WriteRequest) : Prop where
  structSize : command.structSize < 256 ^ 2
  isRequest : command.structSize ≠ 17
  dataOffset : command.dataOffset = 112
  length : command.length = command.fileData.length
  offset : command.offset < 256 ^ 8
  fileId : command.fileId.length = 16
  channel : command.channel < 256 ^ 4
  remaining : command.remaining < 256 ^ 4
  channelInfoOffset : command.channelInfoOffset < 256 ^ 2
  channelInfoLength : command.channelInfoLength < 256 ^ 2
  writeFlags : command.writeFlags < 256 ^ 4
  fileData : command.fileData.length < 256 ^ 4

theorem SMB2Write.read_back {self : WriteRequest} (sendable : self.Sendable) :
    ∃ buf, (SMB2Write.request self).bytes = .ok buf ∧
      SMB2Write.unpack buf = .ok (.request self) := by
  rcases self with
    ⟨structSize, dataOffset, dataLength, offset, fileId, channel, remaining,
      channelInfoOffset, channelInfoLength, writeFlags, fileData⟩
  obtain ⟨structFits, isRequest, offset_eq, length_eq, offsetFits, fileIdLength,
    channelFits, remainingFits, infoOffsetFits, infoLengthFits, flagsFit,
    dataFits⟩ := sendable
  dsimp only at *
  have fits : StructValues.Fits
      [.int 2, .int 2, .int 4, .int 8, .str 16, .int 4, .int 4, .int 2, .int 2,
        .int 4]
      (structSize, dataOffset, dataLength, offset, fileId, channel, remaining,
        channelInfoOffset, channelInfoLength, writeFlags, ()) := by
    refine ⟨structFits, ?_, ?_, offsetFits, fileIdLength, channelFits,
      remainingFits, infoOffsetFits, infoLengthFits, flagsFit, trivial⟩
    · change dataOffset < 256 ^ 2
      omega
    · change dataLength < 256 ^ 4
      omega
  obtain ⟨front, packed, length, stands⟩ := StructValues.packed .little fits
  change front.length = 48 at length
  have stand := stands fileData List.length_nil
  simp only [StructValues.StandAt, StructItem.StandsAt, StructItem.size,
    Nat.reduceAdd, List.nil_append, and_true] at stand
  obtain ⟨structRead, offsetRead, lengthRead, fileOffsetRead, fileIdRead,
    channelRead, remainingRead, infoOffsetRead, infoLengthRead, flagsRead⟩ :=
    stand
  have placed : payload (front ++ fileData) 112 fileData.length = fileData :=
    payload_alone (by rw [length]; rfl) fileData
  rw [← offset_eq, ← length_eq] at placed
  have long : (front ++ fileData).length ≥ 48 := by
    rw [List.length_append, length]
    omega
  refine ⟨front ++ fileData, ?_, ?_⟩
  · unfold bytes
    dsimp only
    rw [packed, ok_bind]
  · unfold unpack unpackRequest
    rw [structRead, ok_bind, if_neg isRequest, ok_bind, offsetRead, ok_bind,
      lengthRead, ok_bind, fileOffsetRead, ok_bind, channelRead, ok_bind,
      remainingRead, ok_bind, infoOffsetRead, ok_bind, infoLengthRead, ok_bind,
      if_pos long, flagsRead, ok_bind, placed, fileIdRead]
    rfl

/-- The count is that of the locks. -/
structure SMB2Lock.Sendable (command : SMB2Lock) : Prop where
  header : LockHeader.format.Fits command.header
  lockCount : command.header.lockCount = command.locks.length
  locks : ∀ lock ∈ command.locks, Lock.format.Fits lock

theorem SMB2Lock.read_back {self : SMB2Lock} (sendable : self.Sendable) :
    ∃ buf, self.bytes = .ok buf ∧ SMB2Lock.unpack buf = .ok self := by
  have fits := sendable.header
  have length : (LockHeader.format.bytes .little self.header).length =
      LockHeader.format.size := StructFormat.bytes_length fits
  have found := RecordFormat.read_recordsUpTo .little sendable.locks []
  rw [List.append_nil] at found
  refine ⟨LockHeader.format.bytes .little self.header ++
    (self.locks.map (Lock.format.bytes .little)).flatten, ?_, ?_⟩
  · unfold bytes
    rw [StructFormat.packHdr_ok fits, ok_bind,
      RecordFormat.packAll_ok sendable.locks, ok_bind, ← length,
      List.take_length]
  · unfold unpack
    rw [StructFormat.unpackHdr_bytes fits, ok_bind]
    dsimp only
    rw [sendable.lockCount, found]

/-! ### QUERY_DIRECTORY -/

/-- The header fits, and the sizes of the name and of the data. -/
structure SMB2QueryDirectory.Sendable (command : SMB2QueryDirectory) : Prop where
  header : QueryDirectoryHeader.format.Fits command.header
  fileName : command.fileName.length < 256 ^ 2
  outputData : command.outputData.length < 256 ^ 4

/-- The command with the offsets and lengths that it is written with. -/
def SMB2QueryDirectory.placed (self : SMB2QueryDirectory) : SMB2QueryDirectory :=
  { self with
    fileNameOffset := if self.fileName ≠ [] then 100 else 0
    fileNameLength := self.fileName.length
    outputOffset :=
      if self.outputData ≠ [] then 100 + self.fileName.length else 0
    outputLength := self.outputData.length }

theorem SMB2QueryDirectory.read_back {self : SMB2QueryDirectory}
    (sendable : self.Sendable) :
    ∃ buf, self.bytes = .ok buf ∧ unpack buf = .ok self.placed := by
  obtain ⟨headerFits, nameFits, dataFits⟩ := sendable
  obtain ⟨hdr, packedHdr, hdrLength, unpackedHdr⟩ :=
    StructFormat.packedHdr .little headerFits
  change hdr.length = 24 at hdrLength
  have fits : StructValues.Fits [.int 2, .int 2, .int 4, .int 4]
      (self.placed.fileNameOffset, self.placed.fileNameLength,
        self.placed.outputOffset, self.placed.outputLength, ()) := by
    refine ⟨?_, nameFits, ?_, dataFits, trivial⟩
    · change (if self.fileName ≠ [] then 100 else 0 : Nat) < 256 ^ 2
      split <;> omega
    · change (if self.outputData ≠ [] then 100 + self.fileName.length else 0 :
        Nat) < 256 ^ 4
      split <;> omega
  obtain ⟨mid, packed, length, stands⟩ := StructValues.packed .little fits
  change mid.length = 12 at length
  have stand := stands (self.fileName ++ self.outputData) hdrLength
  simp only [StructValues.StandAt, StructItem.StandsAt, StructItem.size,
    Nat.reduceAdd, and_true] at stand
  obtain ⟨nameOffsetRead, nameLengthRead, outputOffsetRead, outputLengthRead⟩ :=
    stand
  have whole : hdr ++ (mid ++ (self.fileName ++ self.outputData)) =
      hdr ++ mid ++ (self.fileName ++ self.outputData) :=
    (List.append_assoc _ _ _).symm
  have name : payload (hdr ++ (mid ++ (self.fileName ++ self.outputData)))
      self.placed.fileNameOffset self.placed.fileNameLength =
      self.fileName := by
    rw [whole]
    refine payload_placed ?_ self.fileName self.outputData
    rw [List.length_append, hdrLength, length]
    rfl
  have output : payload (hdr ++ (mid ++ (self.fileName ++ self.outputData)))
      self.placed.outputOffset self.placed.outputLength =
      self.outputData := by
    rw [whole, ← List.append_assoc]
    refine payload_placed_alone ?_ self.outputData
    rw [List.length_append, List.length_append, hdrLength, length]
    exact (Nat.add_assoc 64 36 _).symm
  refine ⟨hdr ++ (mid ++ (self.fileName ++ self.outputData)), ?_, ?_⟩
  · unfold bytes
    rw [packedHdr, ok_bind]
    dsimp only
    rw [hdrLength]
    change (StructValues.pack .little [.int 2, .int 2, .int 4, .int 4]
      (self.placed.fileNameOffset, self.placed.fileNameLength,
        self.placed.outputOffset, self.placed.outputLength, ()) >>= _) = _
    rw [packed, ok_bind, List.append_assoc, List.append_assoc]
  · unfold unpack
    rw [unpackedHdr, ok_bind]
    dsimp only
    rw [nameOffsetRead, ok_bind, nameLengthRead, ok_bind, outputOffsetRead,
      ok_bind, outputLengthRead, ok_bind, name, output]
    rfl

/-! ### QUERY_INFO -/

structure SMB2QueryInfo.Sendable (command : SMB2QueryInfo) : Prop where
  header : InfoHeader.format.Fits command.header
  outputBufferLength : command.outputBufferLength < 256 ^ 4
  rsv : command.rsv < 256 ^ 2
  additionalInfo : command.additionalInfo < 256 ^ 4
  flags : command.flags < 256 ^ 4
  fileId : command.fileId.length = 16
  inputData : command.inputData.length < 256 ^ 4

/-- The command with the offset and length that it is written with. -/
def SMB2QueryInfo.placed (self : SMB2QueryInfo) : SMB2QueryInfo :=
  { self with
    inputBufferOffset := if self.inputData ≠ [] then 104 else 0
    inputBufferLength := self.inputData.length }

theorem SMB2QueryInfo.read_back {self : SMB2QueryInfo}
    (sendable : self.Sendable) :
    ∃ buf, self.bytes = .ok buf ∧ unpack buf = .ok self.placed := by
  obtain ⟨headerFits, outputFits, rsvFits, infoFits, flagsFit, fileIdLength,
    dataFits⟩ := sendable
  obtain ⟨hdr, packedHdr, hdrLength, unpackedHdr⟩ :=
    StructFormat.packedHdr .little headerFits
  change hdr.length = 4 at hdrLength
  have fits : StructValues.Fits
      [.int 4, .int 2, .int 2, .int 4, .int 4, .int 4, .str 16]
      (self.outputBufferLength, self.placed.inputBufferOffset, self.rsv,
        self.inputData.length, self.additionalInfo, self.flags, self.fileId,
        ()) := by
    refine ⟨outputFits, ?_, rsvFits, dataFits, infoFits, flagsFit, fileIdLength,
      trivial⟩
    change (if self.inputData ≠ [] then 104 else 0 : Nat) < 256 ^ 2
    split <;> omega
  obtain ⟨mid, packed, length, stands⟩ := StructValues.packed .little fits
  change mid.length = 36 at length
  have stand := stands self.inputData hdrLength
  simp only [StructValues.StandAt, StructItem.StandsAt, StructItem.size,
    Nat.reduceAdd, and_true] at stand
  obtain ⟨outputRead, offsetRead, rsvRead, lengthRead, infoRead, flagsRead,
    fileIdRead⟩ := stand
  have input : payload (hdr ++ (mid ++ self.inputData))
      self.placed.inputBufferOffset self.inputData.length =
      self.inputData := by
    rw [← List.append_assoc]
    refine payload_placed_alone ?_ self.inputData
    rw [List.length_append, hdrLength, length]
    rfl
  refine ⟨hdr ++ (mid ++ self.inputData), ?_, ?_⟩
  · unfold bytes
    rw [packedHdr, ok_bind]
    dsimp only
    rw [hdrLength]
    change (StructValues.pack .little
      [.int 4, .int 2, .int 2, .int 4, .int 4, .int 4, .str 16]
      (self.outputBufferLength, self.placed.inputBufferOffset, self.rsv,
        self.inputData.length, self.additionalInfo, self.flags, self.fileId,
        ()) >>= _) = _
    rw [packed, ok_bind, List.append_assoc]
  · unfold unpack
    rw [unpackedHdr, ok_bind]
    dsimp only
    rw [outputRead, ok_bind, offsetRead, ok_bind, rsvRead, ok_bind, lengthRead,
      ok_bind, infoRead, ok_bind, flagsRead, ok_bind, fileIdRead, input]
    rfl

/-! ### SET_INFO -/

structure SMB2SetInfo.Sendable (command : SMB2SetInfo) : Prop where
  header : InfoHeader.format.Fits command.header
  rsv : command.rsv < 256 ^ 2
  additionalInfo : command.additionalInfo < 256 ^ 4
  fileId : command.fileId.length = 16
  rsv2 : command.rsv2 < 256 ^ 4
  bufferData : command.bufferData.length < 256 ^ 4

/-- The command with the offset and length that it is written with. -/
def SMB2SetInfo.placed (self : SMB2SetInfo) : SMB2SetInfo :=
  { self with
    bufferLength := self.bufferData.length
    bufferOffset := if self.bufferData ≠ [] then 100 else 0 }

theorem SMB2SetInfo.read_back {self : SMB2SetInfo} (sendable : self.Sendable) :
    ∃ buf, self.bytes = .ok buf ∧ unpack buf = .ok self.placed := by
  obtain ⟨headerFits, rsvFits, infoFits, fileIdLength, rsv2Fits, dataFits⟩ :=
    sendable
  obtain ⟨hdr, packedHdr, hdrLength, unpackedHdr⟩ :=
    StructFormat.packedHdr .little headerFits
  change hdr.length = 4 at hdrLength
  have fits : StructValues.Fits
      [.int 4, .int 2, .int 2, .int 4, .str 16, .int 4]
      (self.bufferData.length, self.placed.bufferOffset, self.rsv,
        self.additionalInfo, self.fileId, self.rsv2, ()) := by
    refine ⟨dataFits, ?_, rsvFits, infoFits, fileIdLength, rsv2Fits, trivial⟩
    change (if self.bufferData ≠ [] then 100 else 0 : Nat) < 256 ^ 2
    split <;> omega
  obtain ⟨mid, packed, length, stands⟩ := StructValues.packed .little fits
  change mid.length = 32 at length
  have stand := stands self.bufferData hdrLength
  simp only [StructValues.StandAt, StructItem.StandsAt, StructItem.size,
    Nat.reduceAdd, and_true] at stand
  obtain ⟨lengthRead, offsetRead, rsvRead, infoRead, fileIdRead, rsv2Read⟩ :=
    stand
  have buffer : payload (hdr ++ (mid ++ self.bufferData))
      self.placed.bufferOffset self.bufferData.length = self.bufferData := by
    rw [← List.append_assoc]
    refine payload_placed_alone ?_ self.bufferData
    rw [List.length_append, hdrLength, length]
    rfl
  have long : (hdr ++ (mid ++ self.bufferData)).length ≥ 36 := by
    rw [List.length_append, List.length_append, hdrLength, length]
    omega
  refine ⟨hdr ++ (mid ++ self.bufferData), ?_, ?_⟩
  · unfold bytes
    rw [packedHdr, ok_bind]
    dsimp only
    rw [hdrLength]
    change (StructValues.pack .little
      [.int 4, .int 2, .int 2, .int 4, .str 16, .int 4]
      (self.bufferData.length, self.placed.bufferOffset, self.rsv,
        self.additionalInfo, self.fileId, self.rsv2, ()) >>= _) = _
    rw [packed, ok_bind, List.append_assoc]
  · unfold unpack
    rw [unpackedHdr, ok_bind]
    dsimp only
    rw [lengthRead, ok_bind, offsetRead, ok_bind, rsvRead, ok_bind, infoRead,
      ok_bind, if_pos long, rsv2Read, ok_bind, fileIdRead, buffer]
    rfl

/-! ### Messages -/

/-- The commands with variable parts whose offsets and counts are those of the
parts, with all fields in range. -/
def SMB2Data.Sendable : SMB2Data → Prop
  | .read (.response command) => command.Sendable
  | .write (.request command) => command.Sendable
  | .lock command => command.Sendable
  | .queryDirectory command => command.Sendable
  | .queryInfo command => command.Sendable
  | .setInfo command => command.Sendable
  | _ => False

/-- The code of a command with variable parts. -/
def SMB2Data.code : SMB2Data → Nat
  | .read _ => 0x08
  | .write _ => 0x09
  | .lock _ => 0x0a
  | .ioctl _ => 0x0b
  | .queryDirectory _ => 0x0e
  | .queryInfo _ => 0x10
  | .setInfo _ => 0x11
  | _ => 0

/-- The offsets and lengths that `__bytes__` works out are those it has
written; everything else stays. -/
def SMB2Data.placed : SMB2Data → SMB2Data
  | .queryDirectory command => .queryDirectory command.placed
  | .queryInfo command => .queryInfo command.placed
  | .setInfo command => .setInfo command.placed
  | data => data

theorem wrap_ok {β : Type} {unpacked : Except PyError β} {self : β}
    (read : unpacked = .ok self) (wrap : β → SMB2Data) :
    (do .ok (wrap (← unpacked)) : Except PyError SMB2Data) =
      .ok (wrap self) := by
  rw [read, ok_bind]

theorem SMB2Data.read_back {self : SMB2Data} (sendable : self.Sendable) :
    ∃ cls buf, cmdsw.lookup self.code = some cls ∧ self.bytes = .ok buf ∧
      cls.unpack buf = .ok self.placed := by
  cases self with
  | raw data => exact sendable.elim
  | plain cls values data => exact sendable.elim
  | treeConnect command => exact sendable.elim
  | create command => exact sendable.elim
  | read command =>
      cases command with
      | response command =>
          obtain ⟨buf, written, read⟩ := SMB2Read.read_back sendable
          exact ⟨readClass, buf, rfl, written, wrap_ok read .read⟩
      | request command => exact sendable.elim
  | write command =>
      cases command with
      | response command => exact sendable.elim
      | request command =>
          obtain ⟨buf, written, read⟩ := SMB2Write.read_back sendable
          exact ⟨writeClass, buf, rfl, written, wrap_ok read .write⟩
  | lock command =>
      obtain ⟨buf, written, read⟩ := SMB2Lock.read_back sendable
      exact ⟨lockClass, buf, rfl, written, wrap_ok read .lock⟩
  | ioctl command => exact sendable.elim
  | queryDirectory command =>
      obtain ⟨buf, written, read⟩ := SMB2QueryDirectory.read_back sendable
      exact ⟨queryDirectoryClass, buf, rfl, written,
        wrap_ok read .queryDirectory⟩
  | queryInfo command =>
      obtain ⟨buf, written, read⟩ := SMB2QueryInfo.read_back sendable
      exact ⟨queryInfoClass, buf, rfl, written, wrap_ok read .queryInfo⟩
  | setInfo command =>
      obtain ⟨buf, written, read⟩ := SMB2SetInfo.read_back sendable
      exact ⟨setInfoClass, buf, rfl, written, wrap_ok read .setInfo⟩

/-- `bytes(SMB2(cmd=code, data=command))` of a command with variable parts is
parsed as a message with the same command. -/
theorem smb2_round_trip (data : SMB2Data) (sendable : data.Sendable) :
    ∃ buf, SMB2.bytes { header := SMB2Header.default_ data.code, data } =
        .ok buf ∧
      SMB2.parse buf =
        .ok
          { header := SMB2Header.default_ data.code
            data := data.placed } := by
  have small : data.code < 256 ^ 2 := by
    unfold SMB2Data.code
    split <;> decide
  have fits := SMB2Header.default_fits small
  obtain ⟨cls, behind, registered, written, read⟩ :=
    SMB2Data.read_back sendable
  refine ⟨SMB2Header.format.bytes .little (SMB2Header.default_ data.code) ++
    behind, ?_, SMB2.parse_bytes fits registered read⟩
  unfold SMB2.bytes
  rw [StructFormat.packHdr_ok fits, ok_bind, written, ok_bind]

def twoLocks : SMB2Lock where
  header :=
    { structSize := 48
      lockCount := 2
      lockSequence := 0
      fileId := List.replicate 16 0xff }
  locks :=
    [{ offset := 0, length := 100, flags := 1, rsv := 0 },
      { offset := 200, length := 50, flags := 0, rsv := 0 }]

theorem twoLocks_round_trip :
    (SMB2Data.lock twoLocks).Sendable ∧
      ∃ buf, SMB2.bytes
          { header := SMB2Header.default_ 0x0a, data := .lock twoLocks } =
          .ok buf ∧
        SMB2.parse buf =
          .ok { header := SMB2Header.default_ 0x0a, data := .lock twoLocks } := by
  have sendable : twoLocks.Sendable := ⟨by decide, rfl, by decide⟩
  exact ⟨sendable, smb2_round_trip (.lock twoLocks) sendable⟩

/-! ### IOCTL -/

/-- All fields are in range, and the place of the second data as well. -/
structure SMB2Ioctl.Sendable (command : SMB2Ioctl) : Prop where
  header : IoctlHeader.format.Fits command.header
  maxInSize : command.maxInSize < 256 ^ 4
  maxOutSize : command.maxOutSize < 256 ^ 4
  flags : command.flags < 256 ^ 4
  inData : command.inData.length < 256 ^ 4
  outData : command.outData.length < 256 ^ 4
  outOffset : command.outData ≠ [] →
    hdrSize + IoctlHeader.format.size + command.inData.length < 256 ^ 4

/-- Four spaces, read as an integer. -/
def fourSpaces : Nat := 0x20202020

/-- What stands in both data at the offset and with the length of spaces. -/
def SMB2Ioctl.beyond (self : SMB2Ioctl) : Bytes :=
  ((self.inData ++ self.outData).drop (fourSpaces - 2 * hdrSize - 32)).take
    fourSpaces

/-- The header is read as it was, and spaces for everything behind it. -/
def SMB2Ioctl.misread (self : SMB2Ioctl) : SMB2Ioctl where
  header := self.header
  inOffset := fourSpaces
  inLength := fourSpaces
  maxInSize := fourSpaces
  outOffset := fourSpaces
  outLength := fourSpaces
  maxOutSize := fourSpaces
  flags := fourSpaces
  rsv2 := List.replicate 4 0x20
  inData := self.beyond
  outData := self.beyond

theorem spaces_fields :
    List.replicate 40 0x20 = StructValues.bytes .little
        [.int 4, .int 4, .int 4, .int 4, .int 4, .int 4, .int 4, .str 4]
        (fourSpaces, fourSpaces, fourSpaces, fourSpaces, fourSpaces, fourSpaces,
          fourSpaces, List.replicate 4 0x20, ()) ++ List.replicate 8 0x20 := by
  decide

theorem SMB2Ioctl.read_back {self : SMB2Ioctl} (sendable : self.Sendable) :
    ∃ buf, self.bytes = .ok buf ∧ unpack buf = .ok self.misread := by
  obtain ⟨headerFits, maxInFits, maxOutFits, flagsFit, inFits, outFits,
    outOffsetFits⟩ := sendable
  obtain ⟨hdr, packedHdr, hdrLength, unpackedHdr⟩ :=
    StructFormat.packedHdr .little headerFits
  change hdr.length = 24 at hdrLength
  have fits : StructValues.Fits
      [.int 4, .int 4, .int 4, .int 4, .int 4, .int 4, .int 4, .int 4]
      (if self.inData ≠ [] then hdrSize + IoctlHeader.format.size else 0,
        self.inData.length, self.maxInSize,
        if self.outData ≠ [] then
          hdrSize + IoctlHeader.format.size + self.inData.length
        else 0,
        self.outData.length, self.maxOutSize, self.flags, 0, ()) := by
    refine ⟨?_, inFits, maxInFits, ?_, outFits, maxOutFits, flagsFit, ?_,
      trivial⟩
    · change (if self.inData ≠ [] then 88 else 0 : Nat) < 256 ^ 4
      split <;> omega
    · change (if self.outData ≠ [] then
        hdrSize + IoctlHeader.format.size + self.inData.length else 0 : Nat) <
        256 ^ 4
      split
      · rename_i some
        exact outOffsetFits some
      · omega
    · exact Nat.pow_pos (by decide)
  obtain ⟨mid, packed, length, _stands⟩ := StructValues.packed .little fits
  change mid.length = 32 at length
  have spacesFit : StructValues.Fits
      [.int 4, .int 4, .int 4, .int 4, .int 4, .int 4, .int 4, .str 4]
      (fourSpaces, fourSpaces, fourSpaces, fourSpaces, fourSpaces, fourSpaces,
        fourSpaces, List.replicate 4 0x20, ()) := by decide
  have stand := @StructValues.standAt_bytes .little _ _ spacesFit _ _ hdrLength
    (List.replicate 8 0x20 ++ (mid ++ (self.inData ++ self.outData)))
  rw [← List.append_assoc (StructValues.bytes _ _ _), ← spaces_fields] at stand
  simp only [StructValues.StandAt, StructItem.StandsAt, StructItem.size,
    Nat.reduceAdd, and_true] at stand
  obtain ⟨inOffsetRead, inLengthRead, maxInRead, outOffsetRead, outLengthRead,
    maxOutRead, flagsRead, rsv2Read⟩ := stand
  have front : (hdr ++ (List.replicate 40 0x20 ++ mid)).length = 96 := by
    rw [List.length_append, List.length_append, List.length_replicate,
      hdrLength, length]
  have data : payload (hdr ++ (List.replicate 40 0x20 ++
      (mid ++ (self.inData ++ self.outData)))) fourSpaces fourSpaces =
      self.beyond := by
    have whole : hdr ++ (List.replicate 40 0x20 ++
        (mid ++ (self.inData ++ self.outData))) =
        hdr ++ (List.replicate 40 0x20 ++ mid) ++
          (self.inData ++ self.outData) := by
      simp only [List.append_assoc]
    unfold payload
    rw [if_pos (by decide), whole, cut_behind front (by decide)]
    rfl
  refine ⟨hdr ++ (List.replicate 40 0x20 ++
    (mid ++ (self.inData ++ self.outData))), ?_, ?_⟩
  · unfold bytes
    rw [packedHdr, ok_bind]
    dsimp only
    rw [packed, ok_bind]
    unfold ljust
    rw [hdrLength]
    simp only [List.append_assoc]
    rfl
  · unfold unpack
    rw [unpackedHdr, ok_bind]
    dsimp only
    rw [inOffsetRead, ok_bind, inLengthRead, ok_bind, maxInRead, ok_bind,
      outOffsetRead, ok_bind, outLengthRead, ok_bind, maxOutRead, ok_bind,
      flagsRead, ok_bind, rsv2Read, data]
    rfl

/-- The message with the command is parsed as one with the same contents. -/
def SMB2Ioctl.Restored (self : SMB2Ioctl) : Prop :=
  ∃ buf header parsed,
    SMB2.bytes { header := SMB2Header.default_ 0x0b, data := .ioctl self } =
        .ok buf ∧
      SMB2.parse buf = .ok { header, data := .ioctl parsed } ∧
      parsed.header.ctlCode = self.header.ctlCode ∧
      parsed.header.fileId = self.header.fileId ∧
      parsed.inData = self.inData ∧ parsed.outData = self.outData ∧
      parsed.maxInSize = self.maxInSize ∧
      parsed.maxOutSize = self.maxOutSize ∧ parsed.flags = self.flags

/-- The message with the command is always parsed, as the misread one. -/
theorem SMB2Ioctl.parse_bytes {self : SMB2Ioctl} (sendable : self.Sendable) :
    ∃ buf, SMB2.bytes
        { header := SMB2Header.default_ 0x0b, data := .ioctl self } = .ok buf ∧
      SMB2.parse buf = .ok
        { header := SMB2Header.default_ 0x0b, data := .ioctl self.misread } := by
  have small : 0x0b < 256 ^ 2 := by decide
  have fits := SMB2Header.default_fits small
  obtain ⟨behind, written, read⟩ := SMB2Ioctl.read_back sendable
  refine ⟨SMB2Header.format.bytes .little (SMB2Header.default_ 0x0b) ++ behind,
    ?_, @SMB2.parse_bytes _ ioctlClass fits rfl _ _ (wrap_ok read .ioctl)⟩
  unfold SMB2.bytes
  rw [StructFormat.packHdr_ok fits, ok_bind]
  change (self.bytes >>= _) = _
  rw [written, ok_bind]

/-- The contents come back exactly when the sizes and the flags are spaces, and
both data what stands where the spaces point to. -/
theorem ioctl_restored_iff (self : SMB2Ioctl) (sendable : self.Sendable) :
    self.Restored ↔
      self.maxInSize = fourSpaces ∧ self.maxOutSize = fourSpaces ∧
        self.flags = fourSpaces ∧ self.inData = self.beyond ∧
        self.outData = self.beyond := by
  obtain ⟨buf, written, read⟩ := SMB2Ioctl.parse_bytes sendable
  constructor
  · rintro ⟨buf', header, parsed, written', read', _ctlCode, _fileId, inData,
      outData, maxInSize, maxOutSize, flags⟩
    rw [written, Except.ok.injEq] at written'
    rw [← written', read, Except.ok.injEq, SMB2.mk.injEq,
      SMB2Data.ioctl.injEq] at read'
    rw [← read'.2] at inData outData maxInSize maxOutSize flags
    exact ⟨maxInSize.symm, maxOutSize.symm, flags.symm, inData.symm,
      outData.symm⟩
  · rintro ⟨maxInSize, maxOutSize, flags, inData, outData⟩
    exact ⟨buf, _, _, written, read, rfl, rfl, inData.symm, outData.symm,
      maxInSize.symm, maxOutSize.symm, flags.symm⟩

def emptyIoctl (maxInSize maxOutSize flags : Nat) : SMB2Ioctl where
  header :=
    { structSize := 57
      rsv1 := 0
      ctlCode := 0x00110014
      fileId := List.replicate 16 0xff }
  inOffset := 0
  inLength := 0
  maxInSize := maxInSize
  outOffset := 0
  outLength := 0
  maxOutSize := maxOutSize
  flags := flags
  rsv2 := zeros 4
  inData := []
  outData := []

theorem emptyIoctl_sendable {maxInSize maxOutSize flags : Nat}
    (maxInFits : maxInSize < 256 ^ 4) (maxOutFits : maxOutSize < 256 ^ 4)
    (flagsFit : flags < 256 ^ 4) :
    (emptyIoctl maxInSize maxOutSize flags).Sendable where
  header := by
    refine ⟨?_, ?_, ?_, rfl, trivial⟩
    · change 57 < 256 ^ 2
      decide
    · change 0 < 256 ^ 2
      decide
    · change 0x00110014 < 256 ^ 4
      decide
  maxInSize := maxInFits
  maxOutSize := maxOutFits
  flags := flagsFit
  inData := Nat.pow_pos (by decide)
  outData := Nat.pow_pos (by decide)
  outOffset impossible := absurd rfl impossible

theorem spacesIoctl_restored :
    (emptyIoctl fourSpaces fourSpaces fourSpaces).Restored :=
  (ioctl_restored_iff _ (emptyIoctl_sendable (by decide) (by decide)
    (by decide))).mpr ⟨rfl, rfl, rfl, rfl, rfl⟩

/-- The flags of an otherwise empty command come back as spaces. -/
theorem flags_misread :
    (emptyIoctl 0 0 1).Sendable ∧
      (∃ buf header parsed,
        SMB2.bytes
            { header := SMB2Header.default_ 0x0b
              data := .ioctl (emptyIoctl 0 0 1) } = .ok buf ∧
          SMB2.parse buf = .ok { header, data := .ioctl parsed } ∧
          parsed.flags = fourSpaces) ∧
      ¬(emptyIoctl 0 0 1).Restored := by
  have sendable : (emptyIoctl 0 0 1).Sendable :=
    emptyIoctl_sendable (by decide) (by decide) (by decide)
  obtain ⟨buf, written, read⟩ := SMB2Ioctl.parse_bytes sendable
  refine ⟨sendable, ⟨buf, _, _, written, read, rfl⟩, ?_⟩
  rintro ⟨buf', header, parsed, written', read', _ctlCode, _fileId, _inData,
    _outData, _maxInSize, _maxOutSize, flags⟩
  rw [written, Except.ok.injEq] at written'
  rw [← written', read, Except.ok.injEq, SMB2.mk.injEq,
    SMB2Data.ioctl.injEq] at read'
  rw [← read'.2] at flags
  exact absurd flags (by decide)

end DpktNg.Smb2
