/-
Capture files of dpkt/snoop.py: the headers, `Writer` and `Reader`.  A file
object is the list of the bytes that were written to it, or of those still to
be read.

What `Reader` yields of a file that `Writer` wrote, and the agreement of
`writepkts` with `writepkt_time`.  Each record takes its padding with it, so
the reader takes one record off the front, whatever the length of its packet.
-/

import DpktNg.Python.FileObject
import DpktNg.Python.Rational
import DpktNg.Python.StructFormat
import DpktNg.Pcap.RoundTrip

namespace DpktNg.Snoop

open Library

def snoopMagic : Nat := 0x736e6f6f70000000

def snoopVersion : Nat := 2

def sdlEther : Nat := 4

def dltoff : List (Nat × Nat) := [(sdlEther, 14)]

structure PktHdr where
  origLen : Nat := 0
  inclLen : Nat := 0
  recLen : Nat := 0
  cumDrops : Nat := 0
  tsSec : Nat := 0
  tsUsec : Nat := 0
deriving DecidableEq, Repr

def PktHdr.format : StructFormat PktHdr where
  items := [.int 4, .int 4, .int 4, .int 4, .int 4, .int 4]
  values hdr :=
    (hdr.origLen, hdr.inclLen, hdr.recLen, hdr.cumDrops, hdr.tsSec,
      hdr.tsUsec, ())
  ofValues :=
    fun (origLen, inclLen, recLen, cumDrops, tsSec, tsUsec, _) =>
      { origLen, inclLen, recLen, cumDrops, tsSec, tsUsec }
  ofValues_values _ := rfl

/-- `PktHdr(buf)`; the bytes behind the header are never looked at. -/
def PktHdr.parse (buf : Bytes) : Except PyError PktHdr := do
  let (hdr, _data) ← format.parsePacket .big "PktHdr" buf
  .ok hdr

structure FileHdr where
  magic : Nat := snoopMagic
  v : Nat := snoopVersion
  linktype : Nat := sdlEther
deriving DecidableEq, Repr

def FileHdr.format : StructFormat FileHdr where
  items := [.int 8, .int 4, .int 4]
  values hdr := (hdr.magic, hdr.v, hdr.linktype, ())
  ofValues := fun (magic, v, linktype, _) => { magic, v, linktype }
  ofValues_values _ := rfl

def FileHdr.parse (buf : Bytes) : Except PyError FileHdr := do
  let (hdr, _data) ← format.parsePacket .big "FileHdr" buf
  .ok hdr

structure Writer where
  file : Bytes
deriving DecidableEq, Repr

def Writer.precisionMultiplier : Nat := 1000000

def Writer.init (linktype : Nat) : Except PyError Writer := do
  let fh ← FileHdr.format.packHdr .big { linktype := linktype }
  .ok { file := fh }

/-- `(4 - pkt_len) & 3` -/
def padLen (pktLen : Nat) : Nat := ((4 - (pktLen : Int)) % 4).toNat

/-- `_pack_hdr(pkt_len, pkt_len, rec_len, 0, sec, usec)` -/
def Writer.packHdr (pktLen recLen : Nat) (sec usec : Int) :
    Except PyError Bytes := do
  let sec ← unsignedField sec
  let usec ← unsignedField usec
  PktHdr.format.pack .big
    { origLen := pktLen, inclLen := pktLen, recLen := recLen, cumDrops := 0
      tsSec := sec, tsUsec := usec }

def Writer.write (writer : Writer) (bytes : Bytes) : Writer :=
  { file := writer.file ++ bytes }

def Writer.writepktTime (writer : Writer) (pkt : Bytes) (ts : ℚ) :
    Except PyError Writer := do
  let pktLen := pkt.length
  let padLen := padLen pktLen
  let pktHeader ← packHdr pktLen (PktHdr.format.size + pktLen + padLen)
    (truncate ts) (intround (modOne ts * precisionMultiplier))
  .ok (writer.write (pktHeader ++ pkt ++ zeros padLen))

def Writer.writepktsLoop (file : Bytes) :
    List (ℚ × Bytes) → Except PyError Bytes
  | [] => .ok file
  | (ts, pkt) :: pkts => do
      let pktLen := pkt.length
      let padLen := padLen pktLen
      let pktHeader ← packHdr pktLen (PktHdr.format.size + pktLen + padLen)
        (truncate ts) (intround (modOne ts * precisionMultiplier))
      writepktsLoop (file ++ (pktHeader ++ pkt ++ zeros padLen)) pkts

def Writer.writepkts (writer : Writer) (pkts : List (ℚ × Bytes)) :
    Except PyError Writer := do
  let file ← writepktsLoop writer.file pkts
  .ok { file := file }

def Writer.writepktTimes (writer : Writer) :
    List (ℚ × Bytes) → Except PyError Writer
  | [] => .ok writer
  | (ts, pkt) :: pkts => do
      let written ← writer.writepktTime pkt ts
      written.writepktTimes pkts

structure Reader where
  fh : FileHdr
  dloff : Nat
  file : Bytes
deriving DecidableEq, Repr

def Reader.init (file : Bytes) : Except PyError Reader := do
  let fh ← FileHdr.parse (file.take FileHdr.format.size)
  if fh.magic ≠ snoopMagic then
    .error (.other "ValueError" "invalid snoop header".toList)
  else
    match dltoff.lookup fh.linktype with
    | none => .error (.other "KeyError" (decimal fh.linktype))
    | some dloff =>
        .ok { fh, dloff, file := file.drop FileHdr.format.size }

/-- `hdr.ts_sec + (hdr.ts_usec / 1000000.0)` -/
def PktHdr.time (hdr : PktHdr) : ℚ := floatSeconds hdr.tsSec hdr.tsUsec

/-- `__next__` until the file is at its end, with what is left of the file. -/
def Reader.packets (file : Bytes) : Except PyError (List (ℚ × Bytes)) :=
  if file.take PktHdr.format.size = [] then .ok []
  else do
    let hdr ← PktHdr.parse (file.take PktHdr.format.size)
    let buf := readFile (file.drop PktHdr.format.size)
      ((hdr.recLen : Int) - PktHdr.format.size)
    let entries ← packets buf.2
    .ok ((hdr.time, buf.1.take hdr.inclLen) :: entries)
termination_by file.length
decreasing_by
  rename_i present
  have filePositive : 0 < file.length := by
    rw [List.length_pos_iff]
    intro empty
    rw [empty, List.take_nil] at present
    exact present rfl
  have headerPositive : 0 < PktHdr.format.size := by decide
  have shorter := readFile_length_le (file.drop PktHdr.format.size)
    ((hdr.recLen : Int) - PktHdr.format.size)
  rw [List.length_drop] at shorter
  omega

def Reader.readpkts (reader : Reader) : Except PyError (List (ℚ × Bytes)) :=
  packets reader.file

/-- The loop of `writepkts` does what `writepkt_time` does for each packet,
errors included. -/
theorem Writer.writepktTimes_eq (writer : Writer)
    (pkts : List (ℚ × Bytes)) :
    writer.writepktTimes pkts = writer.writepkts pkts := by
  unfold Writer.writepkts
  induction pkts generalizing writer with
  | nil => rfl
  | cons entry rest ih =>
      obtain ⟨ts, pkt⟩ := entry
      rw [Writer.writepktTimes, Writer.writepktTime, Writer.writepktsLoop]
      cases packed : Writer.packHdr pkt.length
          (PktHdr.format.size + pkt.length + padLen pkt.length) (truncate ts)
          (intround (modOne ts * Writer.precisionMultiplier)) with
      | error problem => rfl
      | ok pktHeader =>
          rw [ok_bind, ok_bind, ok_bind]
          exact ih (writer.write (pktHeader ++ pkt ++ zeros (padLen pkt.length)))

/-- An entry that the file can hold: the timestamp is a multiple of a
microsecond and in the range of the seconds, and the packet is not too long. -/
structure Recordable (entry : ℚ × Bytes) : Prop where
  multiple : ∃ ticks : Int, entry.1 = ticks / 10 ^ 6
  nonneg : 0 ≤ entry.1
  early : entry.1 < 2 ^ 32
  short : entry.2.length < 2 ^ 32 - 28

theorem Recordable.ticks {entry : ℚ × Bytes} (recordable : Recordable entry) :
    entry.1 = Pcap.ticksOf 6 entry.1 / (10 ^ 6 : Nat) ∧
      Pcap.ticksOf 6 entry.1 / 10 ^ 6 < 2 ^ 32 := by
  have short := recordable.short
  exact Pcap.Recordable.ticks ⟨recordable.multiple, recordable.nonneg,
    recordable.early, by omega⟩

theorem padLen_lt (pktLen : Nat) : padLen pktLen < 4 := by
  unfold padLen
  omega

/-- The header of a packet with a timestamp of so many microseconds. -/
def recordHdr (ticks pktLen : Nat) : PktHdr where
  origLen := pktLen
  inclLen := pktLen
  recLen := PktHdr.format.size + pktLen + padLen pktLen
  cumDrops := 0
  tsSec := ticks / 10 ^ 6
  tsUsec := ticks % 10 ^ 6

def record (entry : ℚ × Bytes) : Bytes :=
  PktHdr.format.bytes .big
      (recordHdr (Pcap.ticksOf 6 entry.1) entry.2.length) ++
    (entry.2 ++ zeros (padLen entry.2.length))

theorem recordHdr_fits {ticks pktLen : Nat} (early : ticks / 10 ^ 6 < 2 ^ 32)
    (short : pktLen < 2 ^ 32 - 28) :
    PktHdr.format.Fits (recordHdr ticks pktLen) := by
  have pad := padLen_lt pktLen
  have fraction : ticks % 10 ^ 6 < 10 ^ 6 := Nat.mod_lt _ (by decide)
  have size : PktHdr.format.size = 24 := rfl
  refine ⟨?_, ?_, ?_, ?_, ?_, ?_, trivial⟩
  · change pktLen < 256 ^ 4
    omega
  · change pktLen < 256 ^ 4
    omega
  · change PktHdr.format.size + pktLen + padLen pktLen < 256 ^ 4
    omega
  · exact (by decide : 0 < 256 ^ 4)
  · exact early
  · exact fraction.trans (by decide)

theorem Writer.precisionMultiplier_eq :
    Writer.precisionMultiplier = 10 ^ 6 := rfl

theorem Writer.packHdr_ok {pktLen recLen sec usec : Nat}
    (fits : PktHdr.format.Fits
      { origLen := pktLen, inclLen := pktLen, recLen, cumDrops := 0
        tsSec := sec, tsUsec := usec }) :
    Writer.packHdr pktLen recLen sec usec =
      .ok (PktHdr.format.bytes .big
        { origLen := pktLen, inclLen := pktLen, recLen, cumDrops := 0
          tsSec := sec, tsUsec := usec }) := by
  unfold Writer.packHdr unsignedField
  rw [if_pos (Int.natCast_nonneg _), ok_bind, if_pos (Int.natCast_nonneg _),
    ok_bind]
  exact StructFormat.pack_ok fits

theorem Writer.packHdr_ticks (ticks pktLen : Nat)
    (fits : PktHdr.format.Fits (recordHdr ticks pktLen)) :
    Writer.packHdr pktLen (PktHdr.format.size + pktLen + padLen pktLen)
        (truncate ((ticks : ℚ) / (10 ^ 6 : Nat)))
        (intround (modOne ((ticks : ℚ) / (10 ^ 6 : Nat)) *
          Writer.precisionMultiplier)) =
      .ok (PktHdr.format.bytes .big (recordHdr ticks pktLen)) := by
  have seconds : truncate ((ticks : ℚ) / (10 ^ 6 : Nat)) =
      ((ticks / 10 ^ 6 : Nat) : Int) := by
    rw [truncate_of_nonneg (by positivity), floor_ticks]
  have fraction : intround (modOne ((ticks : ℚ) / (10 ^ 6 : Nat)) *
      Writer.precisionMultiplier) = ((ticks % 10 ^ 6 : Nat) : Int) := by
    rw [Writer.precisionMultiplier_eq, modOne_ticks (by decide),
      ← Int.cast_natCast, intround_intCast]
  rw [seconds, fraction]
  exact Writer.packHdr_ok fits

theorem Writer.writepktsLoop_records {pkts : List (ℚ × Bytes)}
    (recordable : ∀ entry ∈ pkts, Recordable entry) (file : Bytes) :
    Writer.writepktsLoop file pkts = .ok (file ++ pkts.flatMap record) := by
  induction pkts generalizing file with
  | nil => rw [Writer.writepktsLoop, List.flatMap_nil, List.append_nil]
  | cons entry rest ih =>
      obtain ⟨ts, pkt⟩ := entry
      obtain ⟨first, others⟩ := List.forall_mem_cons.mp recordable
      obtain ⟨same, early⟩ := first.ticks
      have header := Writer.packHdr_ticks (Pcap.ticksOf 6 ts) pkt.length
        (recordHdr_fits early first.short)
      dsimp only at same
      rw [← same] at header
      have written : PktHdr.format.bytes .big
            (recordHdr (Pcap.ticksOf 6 ts) pkt.length) ++ pkt ++
          zeros (padLen pkt.length) = record (ts, pkt) :=
        List.append_assoc _ _ _
      rw [Writer.writepktsLoop, header, ok_bind, written, ih others,
        List.flatMap_cons, List.append_assoc]

theorem Reader.packets_nil : Reader.packets [] = .ok [] := by
  rw [Reader.packets, List.take_nil, if_pos rfl]

theorem Reader.packets_record {entry : ℚ × Bytes}
    (recordable : Recordable entry) (behind : Bytes) :
    Reader.packets (record entry ++ behind) =
      (Reader.packets behind >>= fun entries =>
        .ok (Pcap.readBack false entry :: entries)) := by
  obtain ⟨ts, pkt⟩ := entry
  obtain ⟨-, early⟩ := recordable.ticks
  dsimp only at early
  have fits := recordHdr_fits early recordable.short
  have length : (PktHdr.format.bytes .big
      (recordHdr (Pcap.ticksOf 6 ts) pkt.length)).length =
        PktHdr.format.size := StructFormat.bytes_length fits
  have parsed : PktHdr.parse (PktHdr.format.bytes .big
      (recordHdr (Pcap.ticksOf 6 ts) pkt.length)) =
        .ok (recordHdr (Pcap.ticksOf 6 ts) pkt.length) :=
    bind_eq_ok.mpr ⟨_, StructFormat.parsePacket_alone fits "PktHdr", rfl⟩
  have present : PktHdr.format.bytes .big
      (recordHdr (Pcap.ticksOf 6 ts) pkt.length) ≠ [] := by
    rw [← List.length_pos_iff, length]
    decide
  have rest : ((pkt ++ zeros (padLen pkt.length)).length : Int) =
      ((recordHdr (Pcap.ticksOf 6 ts) pkt.length).recLen : Int) -
        PktHdr.format.size := by
    rw [List.length_append, zeros_length]
    change _ = ((PktHdr.format.size + pkt.length + padLen pkt.length : Nat) :
      Int) - PktHdr.format.size
    omega
  unfold record
  rw [Reader.packets, List.append_assoc, List.take_left' length,
    List.drop_left' length, if_neg present, parsed, ok_bind]
  dsimp only
  rw [readFile_front rest]
  dsimp only
  rw [show (recordHdr (Pcap.ticksOf 6 ts) pkt.length).inclLen = pkt.length
    from rfl, List.take_left]
  rfl

theorem Reader.packets_records {pkts : List (ℚ × Bytes)}
    (recordable : ∀ entry ∈ pkts, Recordable entry) :
    Reader.packets (pkts.flatMap record) =
      .ok (pkts.map (Pcap.readBack false)) := by
  induction pkts with
  | nil => exact Reader.packets_nil
  | cons entry rest ih =>
      obtain ⟨first, others⟩ := List.forall_mem_cons.mp recordable
      rw [List.flatMap_cons, Reader.packets_record first, ih others, ok_bind,
        List.map_cons]

def writtenHeader (linktype : UInt32) : Bytes :=
  FileHdr.format.bytes .big { linktype := linktype.toNat }

theorem writtenHdr_fits (linktype : UInt32) :
    FileHdr.format.Fits { linktype := linktype.toNat } :=
  ⟨(by decide : snoopMagic < 256 ^ 8), (by decide : snoopVersion < 256 ^ 4),
    linktype.toNat_lt, trivial⟩

theorem Writer.init_eq (linktype : UInt32) :
    Writer.init linktype.toNat = .ok { file := writtenHeader linktype } :=
  bind_eq_ok.mpr ⟨_, StructFormat.packHdr_ok (writtenHdr_fits linktype), rfl⟩

theorem FileHdr.parse_written (linktype : UInt32) :
    FileHdr.parse (writtenHeader linktype) =
      .ok { linktype := linktype.toNat } :=
  bind_eq_ok.mpr ⟨_, StructFormat.parsePacket_alone
    (writtenHdr_fits linktype) "FileHdr", rfl⟩

theorem writtenHeader_length (linktype : UInt32) :
    (writtenHeader linktype).length = FileHdr.format.size :=
  StructFormat.bytes_length (writtenHdr_fits linktype)

theorem Reader.init_known {linktype : UInt32} {dloff : Nat}
    (known : dltoff.lookup linktype.toNat = some dloff) (behind : Bytes) :
    Reader.init (writtenHeader linktype ++ behind) =
      .ok { fh := { linktype := linktype.toNat }, dloff, file := behind } := by
  have length := writtenHeader_length linktype
  unfold Reader.init
  rw [List.take_left' length, List.drop_left' length,
    FileHdr.parse_written, ok_bind, if_neg (fun other => other rfl)]
  dsimp only
  rw [known]

/-- The reader knows the link types of `dltoff` only. -/
theorem Reader.init_unknown {linktype : UInt32}
    (unknown : dltoff.lookup linktype.toNat = none) (behind : Bytes) :
    Reader.init (writtenHeader linktype ++ behind) =
      .error (.other "KeyError" (decimal linktype.toNat)) := by
  have length := writtenHeader_length linktype
  unfold Reader.init
  rw [List.take_left' length, List.drop_left' length,
    FileHdr.parse_written, ok_bind, if_neg (fun other => other rfl)]
  dsimp only
  rw [unknown]

theorem Writer.writepkts_records {linktype : UInt32} {pkts : List (ℚ × Bytes)}
    (recordable : ∀ entry ∈ pkts, Recordable entry) :
    (Writer.mk (writtenHeader linktype)).writepkts pkts =
      .ok { file := writtenHeader linktype ++ pkts.flatMap record } := by
  unfold Writer.writepkts
  rw [Writer.writepktsLoop_records recordable, ok_bind]

end DpktNg.Snoop
