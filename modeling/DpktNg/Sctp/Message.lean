/-
Packets of dpkt/sctp.py: a header and chunks, of which the DATA chunks are read
with their padding.  The checksum that `bytes(sctp)` fills in is a function of
the bytes that come out.
-/

import DpktNg.Python.Loops
import DpktNg.Python.StructFormat
import DpktNg.Sctp.Crc32c

namespace DpktNg.Sctp

open Library

def typeData : Nat := 0

def typeInit : Nat := 1

structure ChunkHeader where
  type : Nat := typeInit
  flags : Nat := 0
  len : Nat := 0
deriving DecidableEq, Repr

def ChunkHeader.format : StructFormat ChunkHeader where
  items := [.int 1, .int 1, .int 2]
  values header := (header.type, header.flags, header.len, ())
  ofValues := fun (type, flags, len, _) => { type, flags, len }
  ofValues_values _ := rfl

/-- The attribute `padding` is set by `unpack` only. -/
structure Chunk extends ChunkHeader where
  data : Bytes := []
  padding : Option Bytes := none
deriving DecidableEq, Repr

namespace Chunk

/-- The padding that is read behind the data, which ends at `pos`. -/
def readPadding (header : ChunkHeader) (buf : Bytes) (pos : Nat) : Bytes :=
  if header.type = typeData ∧ header.len % 4 ≠ 0 then
    let plen := 4 - header.len % 4
    cut buf pos (pos + plen)
  else []

def unpack (buf : Bytes) : Except PyError Chunk := do
  let (header, data) ← ChunkHeader.format.unpackHdr .big buf
  let data := cutTo data ((header.len : Int) - ChunkHeader.format.size)
  let padding :=
    readPadding header buf (ChunkHeader.format.size + data.length)
  .ok { header with data, padding := some padding }

def parse (buf : Bytes) : Except PyError Chunk :=
  packetInit "Chunk" (some ChunkHeader.format.size) unpack buf

/-- `len(chunk)` of a chunk that was unpacked. -/
def size (self : Chunk) : Nat := self.len + (self.padding.getD []).length

def bytes (self : Chunk) : Except PyError Bytes := do
  let hdr ← ChunkHeader.format.packHdr .big self.toChunkHeader
  match self.padding with
  | none => .error .attributeError
  | some padding => .ok (hdr ++ self.data ++ padding)

end Chunk

structure SCTPHeader where
  sport : Nat := 0
  dport : Nat := 0
  vtag : Nat := 0
  sum : Nat := 0
deriving DecidableEq, Repr

def SCTPHeader.format : StructFormat SCTPHeader where
  items := [.int 2, .int 2, .int 4, .int 4]
  values header :=
    (header.sport, header.dport, header.vtag, header.sum, ())
  ofValues := fun (sport, dport, vtag, sum, _) => { sport, dport, vtag, sum }
  ofValues_values _ := rfl

structure SCTP extends SCTPHeader where
  chunks : List Chunk
deriving DecidableEq, Repr

namespace SCTP

/-- The loop of `unpack`.  A chunk of length zero ends it. -/
def unpackChunks (data : Bytes) : Except PyError (List Chunk) :=
  match data with
  | [] => .ok []
  | byte :: rest => do
      let chunk ← Chunk.parse (byte :: rest)
      if _empty : chunk.size = 0 then .ok [chunk]
      else do
        let l ← unpackChunks ((byte :: rest).drop chunk.size)
        .ok (chunk :: l)
termination_by data.length
decreasing_by
  rw [List.length_drop, List.length_cons]
  omega

def unpack (buf : Bytes) : Except PyError SCTP := do
  let (header, data) ← SCTPHeader.format.unpackHdr .big buf
  let chunks ← unpackChunks data
  .ok { header with chunks }

def parse (buf : Bytes) : Except PyError SCTP :=
  packetInit "SCTP" (some SCTPHeader.format.size) unpack buf

/-- The sum of a header and of the bytes of the chunks, one after the other. -/
def sumOf (header : SCTPHeader) (l : List Bytes) : Except PyError Nat := do
  let hdr ← SCTPHeader.format.packHdr .big header
  .ok (done (l.foldl add (add 0xffffffff hdr)))

/-- `bytes(sctp)`, and the packet afterwards: a sum of zero is replaced. -/
def bytes (self : SCTP) : Except PyError (Bytes × SCTP) := do
  let l ← self.chunks.mapM Chunk.bytes
  let sum ←
    (if self.sum = 0 then sumOf self.toSCTPHeader l else .ok self.sum)
  let hdr ← SCTPHeader.format.packHdr .big { self.toSCTPHeader with sum }
  .ok (hdr ++ l.flatten, { self with sum })

def writtenSum (header : SCTPHeader) (body : Bytes) : Nat :=
  if header.sum = 0 then
    cksum (SCTPHeader.format.bytes .big header ++ body)
  else header.sum

theorem foldl_add (crc : Nat) (l : List Bytes) :
    l.foldl add crc = add crc l.flatten := by
  induction l generalizing crc with
  | nil => rfl
  | cons piece rest ih =>
      rw [List.foldl_cons, ih, List.flatten_cons, add_append]

theorem sumOf_eq {header : SCTPHeader}
    (fits : SCTPHeader.format.Fits header) (l : List Bytes) :
    sumOf header l =
      .ok (cksum (SCTPHeader.format.bytes .big header ++ l.flatten)) := by
  unfold sumOf cksum
  rw [StructFormat.packHdr_ok fits, ok_bind, foldl_add, add_append]

theorem cksum_lt (buf : Bytes) : cksum buf < 256 ^ 4 := by
  rw [cksum_eq]
  exact byteSwap_lt _

theorem withSum_fits {header : SCTPHeader}
    (fits : SCTPHeader.format.Fits header) (body : Bytes) :
    SCTPHeader.format.Fits
      { header with sum := writtenSum header body } := by
  obtain ⟨sport, dport, vtag, sum, _nothing⟩ := fits
  refine ⟨sport, dport, vtag, ?_, trivial⟩
  change writtenSum header body < 256 ^ 4
  unfold writtenSum
  split
  · exact cksum_lt _
  · exact sum

theorem bytes_eq {self : SCTP} {l : List Bytes}
    (fits : SCTPHeader.format.Fits self.toSCTPHeader)
    (written : self.chunks.mapM Chunk.bytes = .ok l) :
    self.bytes =
      .ok (SCTPHeader.format.bytes .big
          { self.toSCTPHeader with
            sum := writtenSum self.toSCTPHeader l.flatten } ++ l.flatten,
        { self with sum := writtenSum self.toSCTPHeader l.flatten }) := by
  have sum : (if self.sum = 0 then sumOf self.toSCTPHeader l
      else .ok self.sum) =
        Except.ok (writtenSum self.toSCTPHeader l.flatten) := by
    unfold writtenSum
    split
    · exact sumOf_eq fits l
    · rfl
  unfold bytes
  rw [written, ok_bind, sum, ok_bind,
    StructFormat.packHdr_ok (withSum_fits fits l.flatten), ok_bind]

end SCTP

/-- The same packet with the sum field zeroed. -/
def sumZeroed (packet : Bytes) : Bytes :=
  packet.take 8 ++ zeros 4 ++ packet.drop 12

def SCTPHeader.front (header : SCTPHeader) : Bytes :=
  beBytes 2 header.sport ++ beBytes 2 header.dport ++ beBytes 4 header.vtag

theorem SCTPHeader.front_length (header : SCTPHeader) :
    header.front.length = 8 := by
  unfold front
  rw [List.length_append, List.length_append, beBytes_length, beBytes_length,
    beBytes_length]

theorem SCTPHeader.bytes_eq (header : SCTPHeader) :
    SCTPHeader.format.bytes .big header =
      header.front ++ beBytes 4 header.sum := by
  change beBytes 2 header.sport ++ (beBytes 2 header.dport ++
    (beBytes 4 header.vtag ++ (beBytes 4 header.sum ++ []))) = _
  unfold front
  rw [List.append_nil, List.append_assoc, List.append_assoc]

/-- The sum field of a written packet, and what the packet looks like when it
is zeroed. -/
theorem written_sum (header : SCTPHeader) (sum : Nat) (body : Bytes) :
    cut (SCTPHeader.format.bytes .big { header with sum } ++ body) 8 12 =
        beBytes 4 sum ∧
      sumZeroed (SCTPHeader.format.bytes .big { header with sum } ++ body) =
        SCTPHeader.format.bytes .big { header with sum := 0 } ++ body := by
  have front : ({ header with sum } : SCTPHeader).front = header.front := rfl
  have unset : ({ header with sum := 0 } : SCTPHeader).front =
      header.front := rfl
  have length := header.front_length
  have zero : beBytes 4 0 = zeros 4 := by decide
  rw [SCTPHeader.bytes_eq, SCTPHeader.bytes_eq, front, unset, zero]
  constructor
  · exact cut_middle length (by rw [beBytes_length]) body
  · have whole : (header.front ++ beBytes 4 sum).length = 12 := by
      rw [List.length_append, length, beBytes_length]
    unfold sumZeroed
    rw [List.drop_left' whole, List.append_assoc header.front,
      List.take_left' length]

namespace Chunk

/-- The header is in range, and the attribute `padding` is there. -/
structure Writable (self : Chunk) : Prop where
  fits : ChunkHeader.format.Fits self.toChunkHeader
  padded : self.padding ≠ none

theorem bytes_eq_ok_iff {self : Chunk} :
    (∃ piece, self.bytes = .ok piece) ↔ self.Writable := by
  constructor
  · rintro ⟨piece, written⟩
    obtain ⟨hdr, packed, behind⟩ := bind_eq_ok.mp written
    refine ⟨StructFormat.fits_of_packHdr (by decide) packed, ?_⟩
    intro missing
    rw [missing] at behind
    cases behind
  · rintro ⟨fits, padded⟩
    obtain ⟨padding, same⟩ := Option.ne_none_iff_exists'.mp padded
    unfold Chunk.bytes
    rw [StructFormat.packHdr_ok fits, ok_bind, same]
    exact ⟨_, rfl⟩

end Chunk

namespace SCTP

theorem parts_of_bytes {self after : SCTP} {packet : Bytes}
    (unset : self.sum = 0) (serialised : self.bytes = .ok (packet, after)) :
    ∃ l, self.chunks.mapM Chunk.bytes = .ok l ∧
      SCTPHeader.format.Fits self.toSCTPHeader := by
  obtain ⟨l, written, behind⟩ := bind_eq_ok.mp serialised
  obtain ⟨sum, summed, _packed⟩ := bind_eq_ok.mp behind
  rw [if_pos unset] at summed
  obtain ⟨hdr, packed, _done⟩ := bind_eq_ok.mp summed
  exact ⟨l, written, StructFormat.fits_of_packHdr (by decide) packed⟩

theorem chunks_written_iff {chunks : List Chunk} :
    (∃ l, chunks.mapM Chunk.bytes = .ok l) ↔
      ∀ chunk ∈ chunks, chunk.Writable := by
  induction chunks with
  | nil =>
      constructor
      · intro _written chunk among
        cases among
      · exact fun _writable => ⟨[], rfl⟩
  | cons chunk rest ih =>
      rw [List.forall_mem_cons, ← Chunk.bytes_eq_ok_iff, ← ih]
      constructor
      · rintro ⟨l, written⟩
        rw [List.mapM_cons] at written
        obtain ⟨piece, first, behind⟩ := bind_eq_ok.mp written
        obtain ⟨others, more, _joined⟩ := bind_eq_ok.mp behind
        exact ⟨⟨piece, first⟩, others, more⟩
      · rintro ⟨⟨piece, first⟩, others, written⟩
        refine ⟨piece :: others, ?_⟩
        rw [List.mapM_cons, first, ok_bind, written, ok_bind]
        rfl

/-- The sum that a packet is written with is the one of its own bytes without
it. -/
theorem sum_of_bytes {self after : SCTP} {packet : Bytes}
    (unset : self.sum = 0) (serialised : self.bytes = .ok (packet, after)) :
    unpackBe 4 (cut packet 8 12) = .ok (cksum (sumZeroed packet)) ∧
      after.sum = cksum (sumZeroed packet) := by
  obtain ⟨l, written, fits⟩ := parts_of_bytes unset serialised
  have same := bytes_eq fits written
  rw [serialised, Except.ok.injEq, Prod.mk.injEq] at same
  obtain ⟨field, zeroed⟩ := written_sum self.toSCTPHeader
    (writtenSum self.toSCTPHeader l.flatten) l.flatten
  have without : ({ self.toSCTPHeader with sum := 0 } : SCTPHeader) =
      self.toSCTPHeader := by
    rw [← unset]
  have sum : writtenSum self.toSCTPHeader l.flatten =
      cksum (sumZeroed packet) := by
    rw [same.1, zeroed, without]
    exact if_pos unset
  constructor
  · rw [same.1] at sum ⊢
    rw [field, ← sum]
    exact unpackBe_beBytes (by rw [sum]; exact cksum_lt _)
  · rw [same.2, ← sum]

/-- There are bytes, and their sum field has the sum of the same packet with
that field zeroed. -/
def Summed (self : SCTP) : Prop :=
  ∃ packet after, self.bytes = .ok (packet, after) ∧
    unpackBe 4 (cut packet 8 12) = .ok (cksum (sumZeroed packet)) ∧
    after.sum = cksum (sumZeroed packet)

end SCTP

/-- Every sum of `cksum` is the one from the bits.  A packet without a sum is
written, with the sum of its own bytes, exactly when its header is in range and
so is that of every chunk, and every chunk has a padding, which a chunk that was
not unpacked does not have. -/
theorem sctp_checksum (buf : Bytes) (sctp : SCTP) (unset : sctp.sum = 0) :
    cksum buf = byteSwap (crc32c buf) ∧
      (sctp.Summed ↔
        SCTPHeader.format.Fits sctp.toSCTPHeader ∧
          ∀ chunk ∈ sctp.chunks, chunk.Writable) := by
  refine ⟨cksum_eq buf, ?_⟩
  constructor
  · rintro ⟨packet, after, serialised, -, -⟩
    obtain ⟨l, written, fits⟩ := SCTP.parts_of_bytes unset serialised
    exact ⟨fits, SCTP.chunks_written_iff.mp ⟨l, written⟩⟩
  · rintro ⟨fits, writable⟩
    obtain ⟨l, written⟩ := SCTP.chunks_written_iff.mpr writable
    have serialised := SCTP.bytes_eq fits written
    exact ⟨_, _, serialised, SCTP.sum_of_bytes unset serialised⟩

/-- A packet of one HEARTBEAT chunk that is padded. -/
def heartbeat : SCTP where
  sport := 32836
  dport := 80
  chunks := [{ type := 4, len := 6, data := [1, 2], padding := some [0, 0] }]

theorem heartbeat_checksum : heartbeat.Summed := by
  obtain ⟨_fromBits, summed⟩ := sctp_checksum [] heartbeat rfl
  apply summed.mpr
  refine ⟨by decide, ?_⟩
  intro chunk among
  rw [List.mem_singleton.mp among]
  exact ⟨by decide, by decide⟩

/-- The same packet, with a chunk that was made and not unpacked. -/
def madeHeartbeat : SCTP where
  sport := 32836
  dport := 80
  chunks := [{ type := 4, len := 6, data := [1, 2] }]

theorem made_chunk_raises :
    madeHeartbeat.sum = 0 ∧
      madeHeartbeat.bytes = .error .attributeError ∧
      ¬madeHeartbeat.Summed := by
  have raises : madeHeartbeat.bytes = .error .attributeError := rfl
  refine ⟨rfl, raises, ?_⟩
  rintro ⟨packet, after, serialised, -, -⟩
  rw [raises] at serialised
  cases serialised

end DpktNg.Sctp
