/-
What `Reader` yields of a file that `Writer` wrote, and the agreement of the
two block builders of the writer.  The file is a section with one interface,
so the reader's result is that of any section.
-/

import DpktNg.Pcapng.Sections

namespace DpktNg.Pcapng

open Library

def packetBytes (order : ByteOrder) (pkt : Bytes) (ts : ℚ) :
    Except PyError Bytes := do
  let words ← tsWords (intround (ts * precisionMultiplier))
  PacketBlock.bytes .enhanced order
    { tsHigh := words.1, tsLow := words.2, caplen := pkt.length
      pktLen := pkt.length, pktData := pkt }

theorem Writer.writepktTime_eq (writer : Writer) (pkt : Bytes) (ts : ℚ) :
    writer.writepktTime pkt ts =
      (packetBytes writer.order pkt ts >>= fun bytes =>
        .ok (writer.write bytes)) := by
  unfold Writer.writepktTime packetBytes
  dsimp only
  cases tsWords (intround (ts * precisionMultiplier)) with
  | error problem => rfl
  | ok words => rfl

theorem Writer.writepktsLoop_cons (order : ByteOrder) (fd : Bytes) (ts : ℚ)
    (pkt : Bytes) (pkts : List (ℚ × Bytes)) :
    Writer.writepktsLoop order {} [] 32 fd ((ts, pkt) :: pkts) =
      (packetBytes order pkt ts >>= fun bytes =>
        Writer.writepktsLoop order {} [] 32 (fd ++ bytes) pkts) := by
  rw [Writer.writepktsLoop]
  unfold packetBytes
  dsimp only
  cases tsWords (intround (ts * precisionMultiplier)) with
  | error problem => rfl
  | ok words =>
      rw [ok_bind, ok_bind]
      have fields : PacketBlock.fields .enhanced
          { tsHigh := words.1, tsLow := words.2, caplen := pkt.length
            pktLen := pkt.length, pktData := pkt }
          (PacketClass.enhanced.widths.sum + align32b pkt.length +
            ([] : Bytes).length) pkt.length =
          [(4, btEpb), (4, 32 + align32b pkt.length), (4, 0), (4, words.1),
            (4, words.2), (4, pkt.length), (4, pkt.length),
            (4, 32 + align32b pkt.length)] := rfl
      unfold PacketBlock.bytes
      have noOptions : packOptions order [] = .ok [] := rfl
      dsimp only
      rw [noOptions, ok_bind, fields]
      cases order.pack [(4, btEpb), (4, 32 + align32b pkt.length), (4, 0),
          (4, words.1), (4, words.2), (4, pkt.length), (4, pkt.length),
          (4, 32 + align32b pkt.length)] with
      | error problem => rfl
      | ok hdrBuf =>
          rw [ok_bind, ok_bind, ok_bind]
          unfold aroundBody padded paddedToLen
          simp only [List.append_nil, List.append_assoc]

/-- The loop of `writepkts` does what `writepkt_time` does for each packet,
errors included. -/
theorem Writer.writepktTimes_eq (writer : Writer)
    (pkts : List (ℚ × Bytes)) :
    writer.writepktTimes pkts = writer.writepkts pkts := by
  have all : ∀ writer : Writer, writer.writepktTimes pkts =
      (Writer.writepktsLoop writer.order {} [] 32 writer.file pkts >>=
        fun file => .ok { writer with file := file }) := by
    induction pkts with
    | nil => exact fun _ => rfl
    | cons entry rest ih =>
        intro writer
        obtain ⟨ts, pkt⟩ := entry
        rw [Writer.writepktTimes, Writer.writepktTime_eq,
          Writer.writepktsLoop_cons]
        cases packetBytes writer.order pkt ts with
        | error problem => rfl
        | ok bytes => exact ih (writer.write bytes)
  exact all writer

/-- An entry that the file can hold. -/
structure Recordable (entry : ℚ × Bytes) : Prop where
  multiple : ∃ ticks : Nat, entry.1 = ticks / 1000000 ∧ ticks < 2 ^ 64
  short : entry.2.length < 2 ^ 32 - 64

def writtenInterface (snaplen : UInt32) (linktype : UInt16) :
    InterfaceRecord where
  linktype := linktype.toNat
  reserved := 0
  snaplen := snaplen.toNat
  options := .empty
  linktypeFits := linktype.toNat_lt
  reservedFits := InterfaceRecord.noReserved
  snaplenFits := snaplen.toNat_lt
  small := InterfaceRecord.bare_small
  tsresolSized := InterfaceRecord.bare_tsresol
  tsoffsetSized := InterfaceRecord.bare_tsoffset

/-- The block of one packet of a tick count. -/
def packetRecord (ticks : Nat) (pkt : Bytes) (early : ticks < 2 ^ 64)
    (short : pkt.length < 2 ^ 32 - 64) : PacketRecord .enhanced where
  ifaceId := 0
  dropsCount := 0
  tsHigh := ticks / 2 ^ 32
  tsLow := ticks % 2 ^ 32
  pktLen := pkt.length
  data := pkt
  padding := zeros (padlen pkt)
  options := .empty
  ifaceIdFits := PacketRecord.firstInterface
  dropsCountFits := PacketRecord.noDrops
  tsHighFits := by omega
  tsLowFits := by omega
  pktLenFits := by omega
  filled := zeros_length _
  small := by
    have empty : OptionArea.empty.size = 0 := rfl
    rw [empty]
    unfold align32b
    split <;> omega

theorem tsWords_natCast {ticks : Nat} :
    tsWords ticks = .ok (ticks / 2 ^ 32, ticks % 2 ^ 32) := by
  have high : ((ticks : Int) / 2 ^ 32).toNat = ticks / 2 ^ 32 := by omega
  have low : ((ticks : Int) % 2 ^ 32).toNat = ticks % 2 ^ 32 := by omega
  unfold tsWords unsignedField
  rw [if_pos (by omega), ok_bind, if_pos (by omega), ok_bind, high, low]

theorem packetBytes_ticks {order : ByteOrder} {ticks : Nat} {pkt : Bytes}
    (early : ticks < 2 ^ 64) (short : pkt.length < 2 ^ 32 - 64) :
    packetBytes order pkt ((ticks : ℚ) / 1000000) =
      .ok ((packetRecord ticks pkt early short).bytes order) := by
  have whole : intround ((ticks : ℚ) / 1000000 * precisionMultiplier) =
      (ticks : Int) := by
    have scaled : (ticks : ℚ) / 1000000 * precisionMultiplier =
        ((ticks : Int) : ℚ) := by
      unfold precisionMultiplier
      push_cast
      rw [div_mul_cancel₀ _ (by norm_num)]
    rw [scaled, intround_intCast]
  have packed := (packetRecord ticks pkt early short).bytes_block order
  unfold packetBytes
  rw [whole, tsWords_natCast, ok_bind]
  exact packed

/-- What the reader yields for a written entry. -/
def readBack (entry : ℚ × Bytes) : ℚ × Bytes := (double entry.1, entry.2)

theorem packetRecord_time {order : ByteOrder} {ticks : Nat} {pkt : Bytes}
    (early : ticks < 2 ^ 64) (short : pkt.length < 2 ^ 32 - 64)
    (snaplen : UInt32) (linktype : UInt16) :
    (writtenInterface snaplen linktype).floatTime order
        (packetRecord ticks pkt early short) = double (ticks / 1000000) := by
  have joined : InterfaceRecord.ticks (packetRecord ticks pkt early short) =
      ticks := by
    change ticks / 2 ^ 32 * 2 ^ 32 + ticks % 2 ^ 32 = ticks
    omega
  have offset : (writtenInterface snaplen linktype).offset order = 0 := rfl
  have resolution :
      (writtenInterface snaplen linktype).resolution = 1000000 := rfl
  have nothing : double ((0 : Int) : ℚ) = 0 := by decide +kernel
  have again := double_eq_self_iff.mpr (double_isDouble (ticks / 1000000))
  unfold InterfaceRecord.floatTime
  rw [offset, resolution, joined, nothing, zero_add, Nat.cast_ofNat, again]

/-- The blocks that the writer adds for a list of packets are blocks of a
section, and they stand for the packets. -/
theorem Recordable.blocks {order : ByteOrder} {pkts : List (ℚ × Bytes)}
    (recordable : ∀ entry ∈ pkts, Recordable entry) (snaplen : UInt32)
    (linktype : UInt16) :
    ∃ blocks : List SectionBlock,
      (∀ fd, Writer.writepktsLoop order {} [] 32 fd pkts =
        .ok (fd ++ blocksBytes order blocks)) ∧
      (packetsOf blocks).map (fun epb =>
        ((writtenInterface snaplen linktype).floatTime order epb, epb.data)) =
          pkts.map readBack := by
  induction pkts with
  | nil =>
      refine ⟨[], ?_, rfl⟩
      intro fd
      rw [Writer.writepktsLoop]
      exact congrArg Except.ok (List.append_nil fd).symm
  | cons entry rest ih =>
      obtain ⟨first, others⟩ := List.forall_mem_cons.mp recordable
      obtain ⟨blocks, written, times⟩ := ih others
      obtain ⟨ts, pkt⟩ := entry
      obtain ⟨⟨ticks, isTicks, early⟩, short⟩ := first
      dsimp only at isTicks short
      subst isTicks
      have packet := @packetBytes_ticks order ticks pkt early short
      have time := @packetRecord_time order ticks pkt early short
        snaplen linktype
      refine ⟨.packet (packetRecord ticks pkt early short) :: blocks, ?_, ?_⟩
      · intro fd
        rw [Writer.writepktsLoop_cons, packet, ok_bind, written,
          List.append_assoc]
        rfl
      · change (_, _) :: (packetsOf blocks).map _ = _
        rw [times, time, List.map_cons]
        rfl

theorem Writer.init_eq (order : ByteOrder) (snaplen : UInt32)
    (linktype : UInt16) :
    Writer.init order snaplen.toNat linktype.toNat =
      .ok { order := order
            file := plainSection.bytes order ++
              (writtenInterface snaplen linktype).bytes order } := by
  have shb : SectionHeaderBlock.bytes order {} =
      .ok (plainSection.bytes order) := plainSection.bytes_block order rfl
  have idb : InterfaceDescriptionBlock.bytes order
      { snaplen := snaplen.toNat, linktype := linktype.toNat } =
        .ok ((writtenInterface snaplen linktype).bytes order) :=
    (writtenInterface snaplen linktype).bytes_block order rfl
  unfold Writer.init
  rw [shb, ok_bind]
  exact bind_eq_ok.mpr ⟨_, idb, rfl⟩

theorem Writer.writepkts_blocks {order : ByteOrder} {pkts : List (ℚ × Bytes)}
    {fd : Bytes} {blocks : List SectionBlock}
    (loop : Writer.writepktsLoop order {} [] 32 fd pkts =
      .ok (fd ++ blocksBytes order blocks)) :
    (Writer.mk order fd).writepkts pkts =
      .ok { order := order, file := fd ++ blocksBytes order blocks } :=
  bind_eq_ok.mpr ⟨[], rfl, bind_eq_ok.mpr ⟨_, loop, rfl⟩⟩

/-- A file is written in both ways, and each of its packets is read as
`readBack` says. -/
theorem written_readBack (order : ByteOrder) (snaplen : UInt32)
    (linktype : UInt16) {pkts : List (ℚ × Bytes)}
    (recordable : ∀ entry ∈ pkts, Recordable entry) :
    ∃ writer written,
      Writer.init order snaplen.toNat linktype.toNat = .ok writer ∧
      writer.writepkts pkts = .ok written ∧
      writer.writepktTimes pkts = .ok written ∧
      (Reader.init written.file >>= Reader.readpkts) =
        .ok (pkts.map readBack) := by
  obtain ⟨blocks, loop, times⟩ :=
    @Recordable.blocks order pkts recordable snaplen linktype
  refine ⟨_, _, Writer.init_eq order snaplen linktype,
    Writer.writepkts_blocks (loop _), ?_, ?_⟩
  · rw [Writer.writepktTimes_eq]
    exact Writer.writepkts_blocks (loop _)
  · have read := reader_packets order plainSection
      (writtenInterface snaplen linktype) blocks
    rw [times] at read
    rw [List.append_assoc]
    exact read

/-- A packet as it is read: its timestamp is the nearest float.  Up to the year
2242 that is enough to tell the microsecond. -/
structure ReadBack (entry read : ℚ × Bytes) : Prop where
  packet : read.2 = entry.2
  isDouble : IsDouble read.1
  nearest : ∀ other, IsDouble other →
    |read.1 - entry.1| ≤ |other - entry.1|
  kept : read.1 = entry.1 ↔ IsDouble entry.1
  near : entry.1 < 2 ^ 33 → |read.1 - entry.1| < 1 / 2000000

theorem Recordable.readBack {entry : ℚ × Bytes}
    (recordable : Recordable entry) : ReadBack entry (readBack entry) where
  packet := rfl
  isDouble := double_isDouble entry.1
  nearest _other isDouble :=
    evenTies.roundBits_nearest (by decide) isDouble entry.1
  kept := double_eq_self_iff
  near := by
    intro early
    obtain ⟨ticks, same, -⟩ := recordable.multiple
    have positive : 0 ≤ entry.1 := by
      rw [same]
      positivity
    have bound : |entry.1| < 2 ^ (33 : Int) := by
      rw [abs_of_nonneg positive]
      exact early
    calc
      _ ≤ (2 : ℚ) ^ ((33 : Int) - (53 : Nat) - 1) :=
        evenTies.roundBits_near 33 bound
      _ < 1 / 2000000 := by norm_num

/-- What `Writer` writes for a list of packets, `Reader` reads as that list, up
to the rounding of the timestamps to floats; and the two ways of writing it
yield the same file. -/
theorem pcapng_reader_reads_written (order : ByteOrder) (snaplen : UInt32)
    (linktype : UInt16) (pkts : List (ℚ × Bytes))
    (recordable : ∀ entry ∈ pkts, Recordable entry) :
    ∃ writer written read,
      Writer.init order snaplen.toNat linktype.toNat = .ok writer ∧
      writer.writepkts pkts = .ok written ∧
      writer.writepktTimes pkts = .ok written ∧
      (Reader.init written.file >>= Reader.readpkts) = .ok read ∧
      List.Forall₂ ReadBack pkts read := by
  obtain ⟨writer, written, made, wrote, oneByOne, read⟩ :=
    written_readBack order snaplen linktype recordable
  refine ⟨writer, written, _, made, wrote, oneByOne, read, ?_⟩
  rw [List.forall₂_map_right_iff, List.forall₂_same]
  exact fun entry member => (recordable entry member).readBack

theorem pcapng_reads_two_packets :
    ∃ writer written read,
      Writer.init .little 1500 1 = .ok writer ∧
      writer.writepkts [(1 / 10, [1, 2, 3]), (1, [])] = .ok written ∧
      writer.writepktTimes [(1 / 10, [1, 2, 3]), (1, [])] = .ok written ∧
      (Reader.init written.file >>= Reader.readpkts) = .ok read ∧
      List.Forall₂ ReadBack [(1 / 10, [1, 2, 3]), (1, [])] read := by
  refine pcapng_reader_reads_written .little 1500 1 _ ?_
  rw [List.forall_mem_cons, List.forall_mem_singleton]
  constructor
  · exact ⟨⟨100000, by norm_num, by decide⟩, by decide⟩
  · exact ⟨⟨1000000, by norm_num, by decide⟩, by decide⟩

/-- A tenth of a second comes back as another number. -/
theorem pcapng_tenth_rounded :
    ¬∀ (order : ByteOrder) (pkts : List (ℚ × Bytes)),
      (∀ entry ∈ pkts, Recordable entry) →
        ∃ writer written,
          Writer.init order 1500 1 = .ok writer ∧
          writer.writepkts pkts = .ok written ∧
          writer.writepktTimes pkts = .ok written ∧
          (Reader.init written.file >>= Reader.readpkts) = .ok pkts := by
  intro always
  have recordable : ∀ entry ∈ [((1 / 10 : ℚ), ([] : Bytes))],
      Recordable entry := by
    rw [List.forall_mem_singleton]
    exact ⟨⟨100000, by norm_num, by decide⟩, by decide⟩
  obtain ⟨writer, written, made, wrote, -, read⟩ := always .little _ recordable
  obtain ⟨writer', written', made', wrote', -, read'⟩ :=
    written_readBack .little 1500 1 recordable
  have sameWriter := made'.symm.trans made
  rw [Except.ok.injEq] at sameWriter
  rw [sameWriter, wrote, Except.ok.injEq] at wrote'
  rw [← wrote', read, Except.ok.injEq] at read'
  have times : (1 / 10 : ℚ) = double (1 / 10) :=
    congrArg Prod.fst (List.cons.inj read').1
  exact absurd times (by decide +kernel)

end DpktNg.Pcapng
