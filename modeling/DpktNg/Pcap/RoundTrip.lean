/-
What `Reader` yields of a file that `Writer` wrote, and the agreement of
`writepkts` with `writepkt_time`.  The argument follows the file: one record
for each packet, and the reader takes one record off the front.
-/

import DpktNg.Pcap.File

namespace DpktNg.Pcap

open Library

/-- The loop of `writepkts` does what `writepkt_time` does for each packet,
errors included. -/
theorem Writer.writepktTimes_eq (writer : Writer)
    (pkts : List (ℚ × Bytes)) :
    writer.writepktTimes pkts = writer.writepkts pkts := by
  unfold Writer.writepkts
  induction pkts generalizing writer with
  | nil => rfl
  | cons entry rest ih =>
      obtain ⟨ts, pkt⟩ := entry
      rw [Writer.writepktTimes, Writer.writepktTime, Writer.writepktsLoop]
      cases packed : writer.packPktHdr (truncate ts)
          (intround (modOne ts * writer.precisionMultiplier)) pkt.length with
      | error problem => rfl
      | ok ph =>
          rw [ok_bind, ok_bind, ok_bind]
          exact ih (writer.write (ph ++ pkt))

/-! ### Records -/

/-- An entry that the file can hold: the timestamp is a multiple of the
precision and in the range of the seconds, and the packet is not too long. -/
structure Recordable (precision : Nat) (entry : ℚ × Bytes) : Prop where
  multiple : ∃ ticks : Int, entry.1 = ticks / 10 ^ precision
  nonneg : 0 ≤ entry.1
  early : entry.1 < 2 ^ 32
  short : entry.2.length < 2 ^ 32

theorem precisionOf_le (nano : Bool) : precisionOf nano ≤ 9 := by
  cases nano <;> decide

def ticksOf (precision : Nat) (ts : ℚ) : Nat := ⌊ts * 10 ^ precision⌋.toNat

theorem Recordable.ticks {precision : Nat} {entry : ℚ × Bytes}
    (recordable : Recordable precision entry) :
    entry.1 = ticksOf precision entry.1 / (10 ^ precision : Nat) ∧
      ticksOf precision entry.1 / 10 ^ precision < 2 ^ 32 := by
  obtain ⟨signed, same⟩ := recordable.multiple
  have positive : (0 : ℚ) < 10 ^ precision := by positivity
  have scaled : entry.1 * 10 ^ precision = signed := by
    rw [same, div_mul_cancel₀ _ positive.ne']
  have signedNonneg : 0 ≤ signed := by
    have product := mul_nonneg recordable.nonneg positive.le
    rw [scaled] at product
    exact_mod_cast product
  obtain ⟨count, rfl⟩ := Int.eq_ofNat_of_zero_le signedNonneg
  have counted : ticksOf precision entry.1 = count := by
    unfold ticksOf
    rw [scaled, Int.floor_intCast, Int.toNat_natCast]
  rw [counted]
  constructor
  · rw [same]
    push_cast
    rfl
  · have early := recordable.early
    rw [same, div_lt_iff₀ positive] at early
    have bounded : count < 2 ^ 32 * 10 ^ precision := by exact_mod_cast early
    rw [Nat.div_lt_iff_lt_mul (by positivity)]
    exact bounded

/-- The header fields of a packet with a timestamp of so many ticks. -/
def recordFields (precision ticks : Nat) (pkt : Bytes) : List (Nat × Nat) :=
  [(4, ticks / 10 ^ precision), (4, ticks % 10 ^ precision),
    (4, pkt.length), (4, pkt.length)]

def record (order : ByteOrder) (precision : Nat) (entry : ℚ × Bytes) : Bytes :=
  order.fieldBytes
    (recordFields precision (ticksOf precision entry.1) entry.2) ++ entry.2

theorem Recordable.fields_fit {precision : Nat} {entry : ℚ × Bytes}
    (recordable : Recordable precision entry) (digits : precision ≤ 9) :
    FieldsFit
      (recordFields precision (ticksOf precision entry.1) entry.2) := by
  obtain ⟨-, early⟩ := recordable.ticks
  have short := recordable.short
  have small : 10 ^ precision ≤ 10 ^ 9 :=
    Nat.pow_le_pow_right (by decide) digits
  have fraction :
      ticksOf precision entry.1 % 10 ^ precision < 10 ^ precision :=
    Nat.mod_lt _ (by positivity)
  unfold recordFields
  simp only [fieldsFit_cons, fieldsFit_nil, and_true]
  refine ⟨early, ?_, short, short⟩
  omega

theorem Writer.packPktHdr_ticks (writer : Writer) (ticks n : Nat) :
    writer.packPktHdr
        (truncate ((ticks : ℚ) / (10 ^ writer.precision : Nat)))
        (intround (modOne ((ticks : ℚ) / (10 ^ writer.precision : Nat)) *
          writer.precisionMultiplier)) n =
      writer.order.pack
        [(4, ticks / 10 ^ writer.precision),
          (4, ticks % 10 ^ writer.precision), (4, n), (4, n)] := by
  have positive : 0 < 10 ^ writer.precision := by positivity
  have seconds : truncate ((ticks : ℚ) / (10 ^ writer.precision : Nat)) =
      ((ticks / 10 ^ writer.precision : Nat) : Int) := by
    rw [truncate_of_nonneg (by positivity), floor_ticks]
  have fraction : intround (modOne
      ((ticks : ℚ) / (10 ^ writer.precision : Nat)) *
        writer.precisionMultiplier) =
      ((ticks % 10 ^ writer.precision : Nat) : Int) := by
    unfold Writer.precisionMultiplier
    rw [modOne_ticks positive, ← Int.cast_natCast, intround_intCast]
  unfold Writer.packPktHdr unsignedField
  rw [seconds, fraction, if_pos (Int.natCast_nonneg _), ok_bind,
    if_pos (Int.natCast_nonneg _), ok_bind]
  rfl

theorem Writer.writepktsLoop_records {writer : Writer}
    {pkts : List (ℚ × Bytes)} (digits : writer.precision ≤ 9)
    (recordable : ∀ entry ∈ pkts, Recordable writer.precision entry)
    (fd : Bytes) :
    Writer.writepktsLoop writer.packPktHdr writer.precisionMultiplier fd pkts =
      .ok (fd ++ pkts.flatMap (record writer.order writer.precision)) := by
  induction pkts generalizing fd with
  | nil =>
      rw [Writer.writepktsLoop, List.flatMap_nil, List.append_nil]
  | cons entry rest ih =>
      obtain ⟨ts, pkt⟩ := entry
      obtain ⟨first, others⟩ := List.forall_mem_cons.mp recordable
      have packed : writer.packPktHdr (truncate ts)
          (intround (modOne ts * writer.precisionMultiplier)) pkt.length =
            .ok (writer.order.fieldBytes (recordFields writer.precision
              (ticksOf writer.precision ts) pkt)) := by
        obtain ⟨same, -⟩ := first.ticks
        have header := writer.packPktHdr_ticks
          (ticksOf writer.precision ts) pkt.length
        dsimp only at same
        rw [← same] at header
        rw [header]
        exact writer.order.pack_ok (first.fields_fit digits)
      rw [Writer.writepktsLoop, packed, ok_bind, ih others,
        List.flatMap_cons, List.append_assoc]
      rfl

/-! ### Reading records -/

theorem PktHdr.parse_fields (order : ByteOrder) {sec usec caplen len : Nat}
    (fits : FieldsFit [(4, sec), (4, usec), (4, caplen), (4, len)]) :
    PktHdr.parse ⟨order, false⟩ (order.fieldBytes
        [(4, sec), (4, usec), (4, caplen), (4, len)]) =
      .ok { tvSec := sec, tvUsec := usec, caplen, len } := by
  have values := order.parseHdr_fieldBytes
    (PktHdrClass.mk order false).name fits []
  rw [List.append_nil] at values
  unfold PktHdr.parse
  exact bind_eq_ok.mpr ⟨_, values, rfl⟩

theorem Reader.packets_nil (ph : PktHdrClass) (divisor : Divisor) :
    Reader.packets ph divisor [] = .ok [] := by
  rw [Reader.packets, List.take_nil, if_pos rfl]

def divisorOf (nano : Bool) : Divisor := if nano then .decimal else .float

/-- The timestamp that the reader makes of the fields of a written one. -/
def timeRead (nano : Bool) (ts : ℚ) : ℚ :=
  if nano then ts
  else floatSeconds (ticksOf 6 ts / 10 ^ 6) (ticksOf 6 ts % 10 ^ 6)

def readBack (nano : Bool) (entry : ℚ × Bytes) : ℚ × Bytes :=
  (timeRead nano entry.1, entry.2)

theorem PktHdr.time_fields {nano : Bool} {ts : ℚ} {caplen len : Nat}
    (same : ts = ticksOf (precisionOf nano) ts / (10 ^ precisionOf nano : Nat)) :
    PktHdr.time
      { tvSec := ticksOf (precisionOf nano) ts / 10 ^ precisionOf nano
        tvUsec := ticksOf (precisionOf nano) ts % 10 ^ precisionOf nano
        caplen, len } (divisorOf nano) = timeRead nano ts := by
  cases nano with
  | false => rfl
  | true =>
      have joined := @seconds_add_ticks (ticksOf 9 ts) (10 ^ 9) (by decide)
      change ts = ticksOf 9 ts / (10 ^ 9 : Nat) at same
      rw [← same, Nat.cast_pow, Nat.cast_ofNat] at joined
      exact joined

theorem Reader.packets_record {order : ByteOrder} {nano : Bool}
    {entry : ℚ × Bytes} (recordable : Recordable (precisionOf nano) entry)
    (behind : Bytes) :
    Reader.packets ⟨order, false⟩ (divisorOf nano)
        (record order (precisionOf nano) entry ++ behind) =
      (Reader.packets ⟨order, false⟩ (divisorOf nano) behind >>=
        fun entries => .ok (readBack nano entry :: entries)) := by
  obtain ⟨ts, pkt⟩ := entry
  obtain ⟨same, -⟩ := recordable.ticks
  have fits := recordable.fields_fit (precisionOf_le nano)
  dsimp only at same fits
  have length : (order.fieldBytes (recordFields (precisionOf nano)
      (ticksOf (precisionOf nano) ts) pkt)).length =
        (PktHdrClass.mk order false).hdrLen := by
    rw [order.fieldBytes_length]
    rfl
  have parsed : PktHdr.parse ⟨order, false⟩ (order.fieldBytes
      (recordFields (precisionOf nano) (ticksOf (precisionOf nano) ts) pkt)) =
        .ok { tvSec := ticksOf (precisionOf nano) ts / 10 ^ precisionOf nano
              tvUsec := ticksOf (precisionOf nano) ts % 10 ^ precisionOf nano
              caplen := pkt.length, len := pkt.length } :=
    PktHdr.parse_fields order fits
  have present : order.fieldBytes (recordFields (precisionOf nano)
      (ticksOf (precisionOf nano) ts) pkt) ≠ [] := by
    rw [← List.length_pos_iff, length]
    exact PktHdrClass.hdrLen_pos _
  unfold record
  rw [Reader.packets, List.append_assoc, List.take_left' length,
    List.drop_left' length, if_neg present, parsed, ok_bind,
    PktHdr.time_fields same]
  dsimp only
  rw [List.drop_left, List.take_left]
  rfl

theorem Reader.packets_records {order : ByteOrder} {nano : Bool}
    {pkts : List (ℚ × Bytes)}
    (recordable : ∀ entry ∈ pkts, Recordable (precisionOf nano) entry) :
    Reader.packets ⟨order, false⟩ (divisorOf nano)
        (pkts.flatMap (record order (precisionOf nano))) =
      .ok (pkts.map (readBack nano)) := by
  induction pkts with
  | nil => exact Reader.packets_nil _ _
  | cons entry rest ih =>
      obtain ⟨first, others⟩ := List.forall_mem_cons.mp recordable
      rw [List.flatMap_cons, Reader.packets_record first, ih others,
        ok_bind, List.map_cons]

/-- A packet as it is read from a file with microseconds: its timestamp is a
float, so it is kept only if it is a whole number of 64ths of a second, but the
microsecond can be told in any case. -/
structure MicrosRead (entry read : ℚ × Bytes) : Prop where
  packet : read.2 = entry.2
  kept : read.1 = entry.1 ↔ ∃ whole : Int, entry.1 = whole / 64
  near : |read.1 - entry.1| < 1 / 2000000

def ReadBack (nano : Bool) (entry read : ℚ × Bytes) : Prop :=
  if nano then read = entry else MicrosRead entry read

theorem sixtyFourths_iff (ticks : Nat) :
    (∃ whole : Int, (ticks : ℚ) / 1000000 = whole / 64) ↔ 15625 ∣ ticks := by
  have scaled : ∀ whole : Int, (ticks : ℚ) / 1000000 = whole / 64 ↔
      (ticks : Int) = 15625 * whole := by
    intro whole
    rw [div_eq_div_iff (by norm_num) (by norm_num)]
    constructor
    · intro same
      have integers : (ticks : Int) * 64 = whole * 1000000 := by
        exact_mod_cast same
      omega
    · intro same
      have integers : (ticks : Int) * 64 = whole * 1000000 := by omega
      exact_mod_cast integers
  simp only [scaled]
  exact ⟨fun ⟨whole, same⟩ => by omega, fun ⟨part, same⟩ => ⟨part, by omega⟩⟩

theorem micros_readBack {entry : ℚ × Bytes}
    (same : entry.1 = ticksOf 6 entry.1 / (10 ^ 6 : Nat))
    (early : ticksOf 6 entry.1 / 10 ^ 6 < 2 ^ 32) :
    MicrosRead entry (readBack false entry) := by
  obtain ⟨ts, pkt⟩ := entry
  dsimp only at same early
  have scale : ((10 ^ 6 : Nat) : ℚ) = 1000000 := by norm_num
  rw [scale] at same
  have near := floatSeconds_near early
  have kept := floatSeconds_eq_iff early
  rw [← sixtyFourths_iff, ← same] at kept
  rw [← same] at near
  exact ⟨rfl, kept, near⟩

theorem Recordable.readBack {nano : Bool} {entry : ℚ × Bytes}
    (recordable : Recordable (precisionOf nano) entry) :
    ReadBack nano entry (readBack nano entry) := by
  cases nano with
  | true => exact rfl
  | false => exact micros_readBack recordable.ticks.1 recordable.ticks.2

/-! ### The whole file -/

def magicOf (nano : Bool) : Nat :=
  if nano then tcpdumpMagicNano else tcpdumpMagic

/-- The header that `Writer` puts in front. -/
def writtenHdr (nano : Bool) (snaplen linktype : UInt32) : FileHdr :=
  { snaplen := snaplen.toNat, linktype := linktype.toNat
    magic := magicOf nano }

theorem writtenHdr_fits (nano : Bool) (snaplen linktype : UInt32) :
    FieldsFit (FileHdr.widths.zip (writtenHdr nano snaplen linktype).values) := by
  have snaplenFits := snaplen.toNat_lt
  have linktypeFits := linktype.toNat_lt
  unfold FileHdr.widths FileHdr.values writtenHdr magicOf
  simp only [List.zip_cons_cons, List.zip_nil_right, fieldsFit_cons,
    fieldsFit_nil, and_true]
  refine ⟨?_, by decide, by decide, by decide, by decide, ?_, ?_⟩
  · cases nano <;> decide
  · exact snaplenFits
  · exact linktypeFits

theorem Writer.init_eq (order : ByteOrder) (nano : Bool)
    (snaplen linktype : UInt32) :
    Writer.init order snaplen.toNat linktype.toNat nano =
      .ok { order := order, precision := precisionOf nano
            file := order.fieldBytes (FileHdr.widths.zip
              (writtenHdr nano snaplen linktype).values) } := by
  have packed := order.packHdr_ok (writtenHdr_fits nano snaplen linktype)
  unfold Writer.init FileHdr.bytes
  exact bind_eq_ok.mpr ⟨_, packed, rfl⟩

def writtenHeader (order : ByteOrder) (nano : Bool)
    (snaplen linktype : UInt32) : Bytes :=
  order.fieldBytes
    (FileHdr.widths.zip (writtenHdr nano snaplen linktype).values)

theorem writtenHeader_length (order : ByteOrder) (nano : Bool)
    (snaplen linktype : UInt32) :
    (writtenHeader order nano snaplen linktype).length =
      FileHdr.widths.sum := by
  unfold writtenHeader
  rw [order.fieldBytes_length]
  rfl

theorem FileHdr.parse_written (order : ByteOrder) (nano : Bool)
    (snaplen linktype : UInt32) :
    FileHdr.parse order (writtenHeader order nano snaplen linktype) =
      .ok (writtenHdr nano snaplen linktype) := by
  have values := order.parseHdr_fieldBytes (FileHdr.className order)
    (writtenHdr_fits nano snaplen linktype) []
  rw [List.append_nil] at values
  unfold FileHdr.parse
  exact bind_eq_ok.mpr ⟨_, values, rfl⟩

/-- The magic number as it looks in big-endian order. -/
def seenMagic : ByteOrder → Bool → Nat
  | .big, nano => magicOf nano
  | .little, false => pmudpctMagic
  | .little, true => pmudpctMagicNano

theorem seenMagic_eq (order : ByteOrder) (nano : Bool) :
    beNat (order.arrange (beBytes 4 (magicOf nano))) =
      seenMagic order nano := by
  cases order with
  | big => cases nano <;> decide +kernel
  | little => cases nano <;> decide +kernel

theorem seenMagic_swapped (order : ByteOrder) (nano : Bool) :
    seenMagic order nano ∈ [pmudpctMagic, pmudpctMagicNano, pacpdomMagic] ↔
      order = .little := by
  cases order with
  | big => cases nano <;> decide
  | little => cases nano <;> decide

theorem magicToPktHdr_seenMagic (order : ByteOrder) (nano : Bool) :
    magicToPktHdr (seenMagic order nano) = some ⟨order, false⟩ := by
  cases order with
  | big => cases nano <;> decide
  | little => cases nano <;> decide

theorem seenMagic_nano (order : ByteOrder) (nano : Bool) :
    (if seenMagic order nano ∈ [tcpdumpMagicNano, pmudpctMagicNano] then
      Divisor.decimal else .float) = divisorOf nano := by
  cases order with
  | big => cases nano <;> decide
  | little => cases nano <;> decide

theorem FileHdr.parse_big_magic (order : ByteOrder) (nano : Bool)
    (snaplen linktype : UInt32) :
    ∃ fh, FileHdr.parse .big (writtenHeader order nano snaplen linktype) =
        .ok fh ∧
      fh.magic = seenMagic order nano := by
  have sized := writtenHeader_length order nano snaplen linktype
  have values : ByteOrder.big.parseHdr (FileHdr.className .big) FileHdr.widths
      (writtenHeader order nano snaplen linktype) =
        .ok (ByteOrder.big.values FileHdr.widths
          (writtenHeader order nano snaplen linktype)) := by
    refine packetInit_eq_ok.mpr ?_
    unfold ByteOrder.unpackHdr
    rw [if_neg (by omega)]
  refine ⟨_, bind_eq_ok.mpr ⟨_, values, rfl⟩, ?_⟩
  have width : (order.arrange (beBytes 4 (magicOf nano))).length = 4 := by
    rw [order.arrange_length, beBytes_length]
  change beNat ((writtenHeader order nano snaplen linktype).take 4) = _
  unfold writtenHeader FileHdr.widths FileHdr.values
  rw [List.zip_cons_cons, order.fieldBytes_cons]
  rw [← seenMagic_eq]
  exact congrArg beNat (List.take_left' width)

/-- The reader finds the byte order and the precision of the writer. -/
theorem Reader.init_written (order : ByteOrder) (nano : Bool)
    (snaplen linktype : UInt32) (behind : Bytes) :
    Reader.init (writtenHeader order nano snaplen linktype ++ behind) =
      .ok { fh := writtenHdr nano snaplen linktype
            ph := ⟨order, false⟩
            dloff := (dltoff.lookup linktype.toNat).getD 0
            divisor := divisorOf nano
            file := behind } := by
  have sized := writtenHeader_length order nano snaplen linktype
  have same := FileHdr.parse_written order nano snaplen linktype
  obtain ⟨fh, parsed, magic⟩ :=
    FileHdr.parse_big_magic order nano snaplen linktype
  unfold Reader.init
  dsimp only
  rw [List.take_left' sized, List.drop_left' sized, parsed, ok_bind, magic]
  have fields : (if seenMagic order nano ∈
      [pmudpctMagic, pmudpctMagicNano, pacpdomMagic] then
        FileHdr.parse .little (writtenHeader order nano snaplen linktype)
      else .ok fh) = .ok (writtenHdr nano snaplen linktype) := by
    by_cases swapped : order = .little
    · rw [if_pos ((seenMagic_swapped order nano).mpr swapped), ← swapped]
      exact same
    · rw [if_neg (fun member =>
        swapped ((seenMagic_swapped order nano).mp member))]
      have unswapped : order = .big := by
        cases order with
        | big => rfl
        | little => exact absurd rfl swapped
      rw [unswapped] at same parsed
      rw [← same, parsed]
  rw [fields, ok_bind, magicToPktHdr_seenMagic, seenMagic_nano]
  rfl

theorem Writer.writepkts_records {order : ByteOrder} {nano : Bool}
    {snaplen linktype : UInt32} {pkts : List (ℚ × Bytes)}
    (recordable : ∀ entry ∈ pkts, Recordable (precisionOf nano) entry) :
    (Writer.mk order (precisionOf nano)
      (writtenHeader order nano snaplen linktype)).writepkts pkts =
        .ok { order := order, precision := precisionOf nano
              file := writtenHeader order nano snaplen linktype ++
                pkts.flatMap (record order (precisionOf nano)) } := by
  unfold Writer.writepkts
  rw [Writer.writepktsLoop_records (precisionOf_le nano) recordable, ok_bind]

end DpktNg.Pcap
