/-
Packets that are laid out as lists of chunks, each filled up with zero bytes to
a multiple of four, and what `SCTP` makes of them.
-/

import DpktNg.Sctp.Message

namespace DpktNg.Sctp

open Library

/-- A chunk by what it stands for; its length counts the four bytes of the
header. -/
structure WireChunk where
  type : UInt8
  flags : UInt8
  value : Bytes
  short : value.length + 4 < 2 ^ 16

namespace WireChunk

def len (chunk : WireChunk) : Nat := 4 + chunk.value.length

def header (chunk : WireChunk) : ChunkHeader where
  type := chunk.type.toNat
  flags := chunk.flags.toNat
  len := chunk.len

/-- The zero bytes up to the next multiple of four. -/
def fill (chunk : WireChunk) : Bytes := zeros ((4 - chunk.len % 4) % 4)

def bytes (chunk : WireChunk) : Bytes :=
  ChunkHeader.format.bytes .big chunk.header ++ (chunk.value ++ chunk.fill)

/-- Only chunks of the type `DATA` are read with padding. -/
def Aligned (chunk : WireChunk) : Prop :=
  chunk.type.toNat = typeData ∨ chunk.len % 4 = 0

instance : DecidablePred Aligned := fun chunk =>
  inferInstanceAs
    (Decidable (chunk.type.toNat = typeData ∨ chunk.len % 4 = 0))

def chunk (self : WireChunk) : Chunk :=
  { self.header with data := self.value, padding := some self.fill }

theorem header_fits (chunk : WireChunk) :
    ChunkHeader.format.Fits chunk.header := by
  have short := chunk.short
  refine ⟨chunk.type.toNat_lt, chunk.flags.toNat_lt, ?_, trivial⟩
  change 4 + chunk.value.length < 65536
  omega

theorem bytes_length (chunk : WireChunk) :
    chunk.bytes.length = chunk.len + chunk.fill.length := by
  unfold bytes len
  rw [List.length_append, List.length_append,
    StructFormat.bytes_length chunk.header_fits]
  change 4 + (_ + _) = _
  omega

end WireChunk

def SCTP.ofWire (header : SCTPHeader) (chunks : List WireChunk) : SCTP :=
  { header with chunks := chunks.map WireChunk.chunk }

def packetBytes (header : SCTPHeader) (chunks : List WireChunk) : Bytes :=
  SCTPHeader.format.bytes .big header ++ chunks.flatMap WireChunk.bytes

/-! ### Reading -/

namespace WireChunk

theorem front_length (chunk : WireChunk) :
    (ChunkHeader.format.bytes .big chunk.header ++ chunk.value).length =
      chunk.len := by
  rw [List.length_append, StructFormat.bytes_length chunk.header_fits]
  rfl

theorem fill_length {chunk : WireChunk} (uneven : chunk.len % 4 ≠ 0) :
    chunk.fill.length = 4 - chunk.len % 4 := by
  unfold fill
  rw [zeros_length]
  omega

theorem fill_eq_nil {chunk : WireChunk} (even : chunk.len % 4 = 0) :
    chunk.fill = [] := by
  unfold fill
  rw [even]
  rfl

theorem readPadding_fill {chunk : WireChunk} (aligned : chunk.Aligned)
    (rest : Bytes) :
    Chunk.readPadding chunk.header (chunk.bytes ++ rest) chunk.len =
      chunk.fill := by
  have length : chunk.header.len = chunk.len := rfl
  unfold Chunk.readPadding
  rw [length]
  split
  · rename_i padded
    unfold bytes
    rw [← List.append_assoc]
    exact cut_middle chunk.front_length (by rw [fill_length padded.2]) rest
  · rename_i unpadded
    rcases aligned with data | even
    · have even : chunk.len % 4 = 0 := by
        by_contra uneven
        exact unpadded ⟨data, uneven⟩
      rw [fill_eq_nil even]
    · rw [fill_eq_nil even]

theorem parse_bytes {chunk : WireChunk} (aligned : chunk.Aligned)
    (rest : Bytes) : Chunk.parse (chunk.bytes ++ rest) = .ok chunk.chunk := by
  have split : ChunkHeader.format.unpackHdr .big (chunk.bytes ++ rest) =
      .ok (chunk.header, chunk.value ++ (chunk.fill ++ rest)) := by
    unfold bytes
    rw [List.append_assoc, StructFormat.unpackHdr_bytes chunk.header_fits,
      List.append_assoc]
  have stop : (chunk.header.len : Int) - ChunkHeader.format.size =
      (chunk.value.length : Int) := by
    change ((4 + chunk.value.length : Nat) : Int) - (4 : Nat) = _
    omega
  have value : cutTo (chunk.value ++ (chunk.fill ++ rest))
      ((chunk.header.len : Int) - ChunkHeader.format.size) = chunk.value := by
    unfold cutTo
    rw [stop, if_pos (Int.natCast_nonneg _), Int.toNat_natCast,
      List.take_left]
  have padding : Chunk.readPadding chunk.header (chunk.bytes ++ rest)
      (ChunkHeader.format.size + chunk.value.length) = chunk.fill :=
    readPadding_fill aligned rest
  unfold Chunk.parse
  rw [packetInit_eq_ok]
  unfold Chunk.unpack
  rw [split, ok_bind]
  dsimp only
  rw [value, padding]
  rfl

theorem bytes_chunk (chunk : WireChunk) :
    chunk.chunk.bytes = .ok chunk.bytes := by
  unfold Chunk.bytes
  change (ChunkHeader.format.packHdr .big chunk.header >>= _) = _
  rw [StructFormat.packHdr_ok chunk.header_fits, ok_bind]
  unfold bytes
  rw [← List.append_assoc]
  rfl

theorem size_chunk (chunk : WireChunk) :
    chunk.chunk.size = chunk.bytes.length :=
  chunk.bytes_length.symm

end WireChunk

theorem SCTP.unpackChunks_chunk {chunk : WireChunk} (aligned : chunk.Aligned)
    (rest : Bytes) :
    SCTP.unpackChunks (chunk.bytes ++ rest) = (do
      let l ← SCTP.unpackChunks rest
      .ok (chunk.chunk :: l)) := by
  have parsed := WireChunk.parse_bytes aligned rest
  have size := chunk.size_chunk
  have positive : chunk.chunk.size ≠ 0 := by
    rw [size, chunk.bytes_length]
    unfold WireChunk.len
    omega
  cases whole : chunk.bytes ++ rest with
  | nil =>
      have length := congrArg List.length whole
      rw [List.length_append, ← size, List.length_nil] at length
      omega
  | cons byte behind =>
      rw [SCTP.unpackChunks, ← whole, parsed, ok_bind, dif_neg positive, size,
        List.drop_left]

theorem SCTP.unpackChunks_all {chunks : List WireChunk}
    (aligned : ∀ chunk ∈ chunks, chunk.Aligned) :
    SCTP.unpackChunks (chunks.flatMap WireChunk.bytes) =
      .ok (chunks.map WireChunk.chunk) := by
  induction chunks with
  | nil => rw [List.flatMap_nil, SCTP.unpackChunks, List.map_nil]
  | cons chunk rest ih =>
      rw [List.forall_mem_cons] at aligned
      rw [List.flatMap_cons, SCTP.unpackChunks_chunk aligned.1, ih aligned.2,
        ok_bind, List.map_cons]

theorem SCTP.parse_packet {header : SCTPHeader}
    (fits : SCTPHeader.format.Fits header) {chunks : List WireChunk}
    (aligned : ∀ chunk ∈ chunks, chunk.Aligned) :
    SCTP.parse (packetBytes header chunks) =
      .ok (SCTP.ofWire header chunks) := by
  unfold SCTP.parse
  rw [packetInit_eq_ok]
  unfold SCTP.unpack packetBytes
  rw [StructFormat.unpackHdr_bytes fits, ok_bind]
  dsimp only
  rw [SCTP.unpackChunks_all aligned, ok_bind]
  rfl

theorem WireChunk.bytes_chunks (chunks : List WireChunk) :
    (chunks.map WireChunk.chunk).mapM Chunk.bytes =
      .ok (chunks.map WireChunk.bytes) := by
  induction chunks with
  | nil => rfl
  | cons chunk rest ih =>
      rw [List.map_cons, List.mapM_cons, chunk.bytes_chunk, ok_bind, ih,
        ok_bind]
      rfl

/-! ### Packets -/

def withSum (packet : Bytes) (sum : Nat) : Bytes :=
  packet.take 8 ++ beBytes 4 sum ++ packet.drop 12

theorem withSum_packetBytes (header : SCTPHeader) (chunks : List WireChunk)
    (sum : Nat) :
    withSum (packetBytes header chunks) sum =
      packetBytes { header with sum } chunks := by
  have length := header.front_length
  have whole : (header.front ++ beBytes 4 header.sum).length = 12 := by
    rw [List.length_append, length, beBytes_length]
  have front : ({ header with sum } : SCTPHeader).front = header.front := rfl
  unfold packetBytes
  rw [SCTPHeader.bytes_eq, SCTPHeader.bytes_eq, front]
  unfold withSum
  rw [List.drop_left' whole, List.append_assoc header.front,
    List.take_left' length]

/-- What is written of a packet that was read: a sum of zero is filled in. -/
theorem SCTP.bytes_ofWire {header : SCTPHeader}
    (fits : SCTPHeader.format.Fits header) (chunks : List WireChunk) :
    ∃ after, (SCTP.ofWire header chunks).bytes =
      .ok (if header.sum = 0 then
          withSum (packetBytes header chunks)
            (cksum (packetBytes header chunks))
        else packetBytes header chunks, after) := by
  have written : (SCTP.ofWire header chunks).bytes =
      .ok (packetBytes { header with
          sum := SCTP.writtenSum header (chunks.flatMap WireChunk.bytes) }
        chunks, { SCTP.ofWire header chunks with
          sum := SCTP.writtenSum header (chunks.flatMap WireChunk.bytes) }) :=
    @SCTP.bytes_eq (SCTP.ofWire header chunks) _ fits
      (WireChunk.bytes_chunks chunks)
  have packet : packetBytes { header with
        sum := SCTP.writtenSum header (chunks.flatMap WireChunk.bytes) }
      chunks =
        if header.sum = 0 then
          withSum (packetBytes header chunks)
            (cksum (packetBytes header chunks))
        else packetBytes header chunks := by
    unfold SCTP.writtenSum
    split
    · rw [withSum_packetBytes]
      rfl
    · rfl
  rw [packet] at written
  exact ⟨_, written⟩

def Chunk.fields (chunk : Chunk) : ChunkHeader × Bytes :=
  (chunk.toChunkHeader, chunk.data)

def WireChunk.fields (chunk : WireChunk) : ChunkHeader × Bytes :=
  (chunk.header, chunk.value)

theorem SCTP.ofWire_fields (header : SCTPHeader) (chunks : List WireChunk) :
    (SCTP.ofWire header chunks).chunks.map Chunk.fields =
      chunks.map WireChunk.fields := by
  change (chunks.map WireChunk.chunk).map Chunk.fields = _
  rw [List.map_map]
  rfl

/-- Where all chunks but those of the type `DATA` end at a multiple of four,
the chunks are found, and the bytes come back with their sum, or with the sum
filled in. -/
theorem sctp_chunks_found (header : SCTPHeader)
    (fits : SCTPHeader.format.Fits header) (chunks : List WireChunk)
    (aligned : ∀ chunk ∈ chunks, chunk.Aligned) :
    ∃ sctp after, SCTP.parse (packetBytes header chunks) = .ok sctp ∧
      sctp.chunks.map Chunk.fields = chunks.map WireChunk.fields ∧
      sctp.bytes =
        .ok (if header.sum = 0 then
            withSum (packetBytes header chunks)
              (cksum (packetBytes header chunks))
          else packetBytes header chunks, after) := by
  obtain ⟨after, written⟩ := SCTP.bytes_ofWire fits chunks
  exact ⟨_, after, SCTP.parse_packet fits aligned,
    SCTP.ofWire_fields header chunks, written⟩

theorem oneByte_short : [(0x61 : UInt8)].length + 4 < 2 ^ 16 := by decide

/-- A chunk of one byte, filled up with three zero bytes. -/
def oneByteChunk (type : UInt8) : WireChunk where
  type := type
  flags := 0
  value := [0x61]
  short := oneByte_short

theorem wordChunk_short : [0, 0, 0, (7 : UInt8)].length + 4 < 2 ^ 16 := by
  decide

/-- A chunk that ends at a multiple of four. -/
def wordChunk : WireChunk where
  type := 1
  flags := 0
  value := [0, 0, 0, 7]
  short := wordChunk_short

/-- A filled-up `DATA` chunk and another one, and the sum to be filled in. -/
theorem twoChunks_found :
    ∃ sctp after,
      SCTP.parse (packetBytes {} [oneByteChunk 0, wordChunk]) = .ok sctp ∧
      sctp.chunks.map Chunk.fields =
        [oneByteChunk 0, wordChunk].map WireChunk.fields ∧
      sctp.bytes =
        .ok (if (0 : Nat) = 0 then
            withSum (packetBytes {} [oneByteChunk 0, wordChunk])
              (cksum (packetBytes {} [oneByteChunk 0, wordChunk]))
          else packetBytes {} [oneByteChunk 0, wordChunk], after) :=
  sctp_chunks_found {} (by decide) [oneByteChunk 0, wordChunk] (by decide)

/-! ### Chunks that are not read with their fill -/

/-- Header and chunks come out as they went in. -/
def Restores (header : SCTPHeader) (chunks : List WireChunk) : Prop :=
  ∃ sctp after, SCTP.parse (packetBytes header chunks) = .ok sctp ∧
    sctp.chunks.map Chunk.fields = chunks.map WireChunk.fields ∧
    sctp.bytes = .ok (packetBytes header chunks, after)

theorem Chunk.header_of_parse {type flags high low : UInt8} {rest : Bytes}
    {chunk : Chunk}
    (parsed : Chunk.parse (type :: flags :: high :: low :: rest) =
      .ok chunk) :
    chunk.toChunkHeader =
      { type := type.toNat, flags := flags.toNat
        len := high.toNat * 256 + low.toNat } := by
  obtain ⟨⟨header, data⟩, unpacked, same⟩ :=
    bind_eq_ok.mp (packetInit_eq_ok.mp parsed)
  obtain ⟨_enough, read, _behind⟩ :=
    StructFormat.unpackHdr_eq_ok.mp unpacked
  rw [Except.ok.injEq] at same
  rw [← same]
  change header = _
  rw [read]
  change ({ type := beNat [type], flags := beNat [flags]
            len := beNat [high, low] } : ChunkHeader) = _
  rw [beNat_singleton, beNat_singleton, ← List.singleton_append, beNat_snoc,
    beNat_singleton]

theorem WireChunk.bytes_eq_cons (chunk : WireChunk) :
    ∃ rest, chunk.bytes =
      chunk.type :: chunk.flags :: UInt8.ofNat (chunk.len / 256) ::
        UInt8.ofNat chunk.len :: rest := by
  refine ⟨chunk.value ++ chunk.fill, ?_⟩
  change UInt8.ofNat chunk.type.toNat :: UInt8.ofNat chunk.flags.toNat ::
    UInt8.ofNat (chunk.len / 256) :: UInt8.ofNat chunk.len :: _ = _
  rw [UInt8.ofNat_toNat, UInt8.ofNat_toNat]
  rfl

theorem WireChunk.misread {chunk : WireChunk} {count : Nat}
    (positive : 0 < count) (small : count < 4) (rest : Bytes) {found : Chunk}
    (parsed : Chunk.parse (zeros count ++ (chunk.bytes ++ rest)) =
      .ok found) : found.toChunkHeader ≠ chunk.header := by
  obtain ⟨behind, bytes⟩ := chunk.bytes_eq_cons
  have length : 4 ≤ chunk.len := Nat.le_add_right 4 _
  have short := chunk.short
  have high : (UInt8.ofNat (chunk.len / 256)).toNat = chunk.len / 256 :=
    count_toNat (by unfold len; omega)
  rw [bytes] at parsed
  intro same
  have cases : count = 1 ∨ count = 2 ∨ count = 3 := by omega
  rcases cases with one | two | three
  · rw [one] at parsed
    have read := Chunk.header_of_parse parsed
    rw [same] at read
    have flags : chunk.flags.toNat = chunk.type.toNat :=
      congrArg ChunkHeader.flags read
    have type : chunk.type.toNat = 0 := congrArg ChunkHeader.type read
    have len : chunk.len = chunk.flags.toNat * 256 +
        (UInt8.ofNat (chunk.len / 256)).toNat :=
      congrArg ChunkHeader.len read
    omega
  · rw [two] at parsed
    have read := Chunk.header_of_parse parsed
    rw [same] at read
    have flags : chunk.flags.toNat = 0 := congrArg ChunkHeader.flags read
    have type : chunk.type.toNat = 0 := congrArg ChunkHeader.type read
    have len : chunk.len = chunk.type.toNat * 256 + chunk.flags.toNat :=
      congrArg ChunkHeader.len read
    omega
  · rw [three] at parsed
    have read := Chunk.header_of_parse parsed
    rw [same] at read
    have type : chunk.type.toNat = 0 := congrArg ChunkHeader.type read
    have len : chunk.len = 0 * 256 + chunk.type.toNat :=
      congrArg ChunkHeader.len read
    omega

theorem WireChunk.parse_unaligned {chunk : WireChunk}
    (unaligned : ¬chunk.Aligned) (rest : Bytes) {found : Chunk}
    (parsed : Chunk.parse (chunk.bytes ++ rest) = .ok found) :
    found.size = chunk.len := by
  obtain ⟨⟨header, data⟩, unpacked, same⟩ :=
    bind_eq_ok.mp (packetInit_eq_ok.mp parsed)
  have split : ChunkHeader.format.unpackHdr .big (chunk.bytes ++ rest) =
      .ok (chunk.header, chunk.value ++ (chunk.fill ++ rest)) := by
    unfold bytes
    rw [List.append_assoc, StructFormat.unpackHdr_bytes chunk.header_fits,
      List.append_assoc]
  rw [split, Except.ok.injEq, Prod.mk.injEq] at unpacked
  have unread (buf : Bytes) (pos : Nat) :
      Chunk.readPadding chunk.header buf pos = [] := by
    unfold Chunk.readPadding
    rw [if_neg fun padded => unaligned (Or.inl padded.1)]
  rw [Except.ok.injEq] at same
  rw [← same, ← unpacked.1]
  change chunk.len + (Chunk.readPadding chunk.header _ _).length = chunk.len
  rw [unread]
  rfl

theorem SCTP.unpackChunks_eq_cons {data : Bytes} {l : List Chunk}
    (some_left : 0 < data.length)
    (unpacked : SCTP.unpackChunks data = .ok l) :
    ∃ chunk others, l = chunk :: others ∧ Chunk.parse data = .ok chunk ∧
      (chunk.size ≠ 0 →
        SCTP.unpackChunks (data.drop chunk.size) = .ok others) := by
  cases data with
  | nil => exact absurd some_left (Nat.lt_irrefl 0)
  | cons byte rest =>
      rw [SCTP.unpackChunks] at unpacked
      obtain ⟨chunk, parsed, behind⟩ := bind_eq_ok.mp unpacked
      split at behind
      · rename_i empty
        rw [Except.ok.injEq] at behind
        exact ⟨chunk, [], behind.symm, parsed,
          fun more => absurd empty more⟩
      · obtain ⟨others, unpackedRest, same⟩ := bind_eq_ok.mp behind
        rw [Except.ok.injEq] at same
        exact ⟨chunk, others, same.symm, parsed, fun _more => unpackedRest⟩

/-- Behind a chunk that is not aligned nothing comes out as it went in. -/
theorem SCTP.lost_behind_unaligned {chunk : WireChunk}
    (unaligned : ¬chunk.Aligned) (rest : List WireChunk) {l : List Chunk}
    (unpacked : SCTP.unpackChunks
      (chunk.bytes ++ rest.flatMap WireChunk.bytes) = .ok l) :
    l.map Chunk.fields ≠ (chunk :: rest).map WireChunk.fields := by
  have uneven : chunk.len % 4 ≠ 0 := fun even => unaligned (Or.inr even)
  have fill := WireChunk.fill_length uneven
  have length := chunk.bytes_length
  have positive : chunk.len ≠ 0 := by
    unfold WireChunk.len
    omega
  have behind : (chunk.bytes ++ rest.flatMap WireChunk.bytes).drop
      chunk.len = chunk.fill ++ rest.flatMap WireChunk.bytes := by
    unfold WireChunk.bytes
    rw [← List.append_assoc, List.append_assoc _ chunk.fill,
      List.drop_left' chunk.front_length]
  obtain ⟨first, others, same, parsed, further⟩ :=
    SCTP.unpackChunks_eq_cons
      (by rw [List.length_append]; omega) unpacked
  have size := WireChunk.parse_unaligned unaligned _ parsed
  rw [size, behind] at further
  obtain ⟨second, more, sameOthers, parsedFill, _further⟩ :=
    SCTP.unpackChunks_eq_cons (by rw [List.length_append]; omega)
      (further positive)
  rw [same, sameOthers]
  intro found
  cases rest with
  | nil =>
      have count := congrArg List.length found
      rw [List.length_map, List.length_map, List.length_cons,
        List.length_cons, List.length_singleton] at count
      omega
  | cons next rest =>
      rw [List.map_cons, List.map_cons, List.map_cons, List.map_cons,
        List.cons.injEq, List.cons.injEq] at found
      have header : second.toChunkHeader = next.header :=
        congrArg Prod.fst found.2.1
      rw [List.flatMap_cons] at parsedFill
      exact WireChunk.misread (by omega) (by omega) _ parsedFill header

theorem SCTP.aligned_of_unpacked {chunks : List WireChunk} {l : List Chunk}
    (unpacked : SCTP.unpackChunks (chunks.flatMap WireChunk.bytes) = .ok l)
    (found : l.map Chunk.fields = chunks.map WireChunk.fields) :
    ∀ chunk ∈ chunks, chunk.Aligned := by
  induction chunks generalizing l with
  | nil =>
      intro chunk impossible
      cases impossible
  | cons chunk rest ih =>
      rw [List.flatMap_cons] at unpacked
      by_cases aligned : chunk.Aligned
      · rw [SCTP.unpackChunks_chunk aligned] at unpacked
        obtain ⟨others, unpackedRest, same⟩ := bind_eq_ok.mp unpacked
        rw [Except.ok.injEq] at same
        rw [← same, List.map_cons, List.map_cons] at found
        rw [List.forall_mem_cons]
        exact ⟨aligned, ih unpackedRest (List.cons.inj found).2⟩
      · exact absurd found (SCTP.lost_behind_unaligned aligned rest unpacked)

theorem withSum_self_iff {header : SCTPHeader}
    (fits : SCTPHeader.format.Fits header) (chunks : List WireChunk)
    {sum : Nat} (sumFits : sum < 256 ^ 4) :
    withSum (packetBytes header chunks) sum = packetBytes header chunks ↔
      sum = header.sum := by
  rw [withSum_packetBytes]
  constructor
  · intro same
    have newFits : SCTPHeader.format.Fits { header with sum } :=
      ⟨fits.1, fits.2.1, fits.2.2.1, sumFits, trivial⟩
    have read := @StructFormat.unpackHdr_bytes _ _ .big _ newFits
      (chunks.flatMap WireChunk.bytes)
    have readToo := @StructFormat.unpackHdr_bytes _ _ .big _ fits
      (chunks.flatMap WireChunk.bytes)
    unfold packetBytes at same
    rw [same, readToo, Except.ok.injEq, Prod.mk.injEq] at read
    exact (congrArg SCTPHeader.sum read.1).symm
  · rintro rfl
    rfl

/-- Header and chunks come out as they went in exactly if no chunk of another
type than `DATA` is filled up, and a sum of zero is the right one. -/
theorem restores_iff {header : SCTPHeader}
    (fits : SCTPHeader.format.Fits header) (chunks : List WireChunk) :
    Restores header chunks ↔
      (∀ chunk ∈ chunks, chunk.Aligned) ∧
        (header.sum = 0 → cksum (packetBytes header chunks) = 0) := by
  obtain ⟨after, written⟩ := SCTP.bytes_ofWire fits chunks
  constructor
  · rintro ⟨sctp, afterwards, parsed, found, restored⟩
    have aligned : ∀ chunk ∈ chunks, chunk.Aligned := by
      have unpacked := packetInit_eq_ok.mp parsed
      unfold SCTP.unpack packetBytes at unpacked
      rw [StructFormat.unpackHdr_bytes fits, ok_bind] at unpacked
      obtain ⟨l, unpackedChunks, same⟩ := bind_eq_ok.mp unpacked
      rw [Except.ok.injEq] at same
      rw [← same] at found
      exact SCTP.aligned_of_unpacked unpackedChunks found
    refine ⟨aligned, fun unset => ?_⟩
    rw [SCTP.parse_packet fits aligned, Except.ok.injEq] at parsed
    rw [← parsed, written, if_pos unset, Except.ok.injEq,
      Prod.mk.injEq] at restored
    rw [(withSum_self_iff fits chunks (SCTP.cksum_lt _)).mp restored.1, unset]
  · rintro ⟨aligned, sum⟩
    refine ⟨_, after, SCTP.parse_packet fits aligned,
      SCTP.ofWire_fields header chunks, ?_⟩
    rw [written]
    split
    · rename_i unset
      rw [(withSum_self_iff fits chunks (SCTP.cksum_lt _)).mpr
        ((sum unset).trans unset.symm)]
    · rfl

/-- Neither is the fill of a HEARTBEAT passed, nor is a sum of zero kept. -/
theorem filled_and_unset_not_restored :
    ¬Restores { sum := 1 } [oneByteChunk 4] ∧ ¬Restores {} [] := by
  constructor
  · rw [restores_iff (by decide)]
    intro impossible
    have aligned := impossible.1 (oneByteChunk 4) List.mem_cons_self
    revert aligned
    decide
  · rw [restores_iff (by decide)]
    intro impossible
    have zero := impossible.2 rfl
    revert zero
    decide +kernel

end DpktNg.Sctp
