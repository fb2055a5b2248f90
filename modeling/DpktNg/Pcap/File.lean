/-
Capture files of dpkt/pcap.py: the file header, the packet headers that its
magic number selects, `Writer` and `Reader`.  A file object is the list of the
bytes that were written to it, or of those still to be read.
-/

import DpktNg.Python.ByteOrder
import DpktNg.Python.Rational

namespace DpktNg.Pcap

def tcpdumpMagic : Nat := 0xa1b2c3d4
def tcpdumpMagicNano : Nat := 0xa1b23c4d
def modpcapMagic : Nat := 0xa1b2cd34

-- the same three as they look when a little-endian file is read big-endian
def pmudpctMagic : Nat := 0xd4c3b2a1
def pmudpctMagicNano : Nat := 0x4d3cb2a1
def pacpdomMagic : Nat := 0x34cdb2a1

/-- `dltoff` with the numbers of a platform other than OpenBSD. -/
def dltoff : List (Nat × Nat) :=
  [(0, 4), (1, 14), (6, 22), (7, 6), (8, 16), (9, 4), (10, 21), (117, 48),
    (18, 4), (108, 4), (113, 16), (276, 20)]

structure FileHdr where
  magic : Nat := tcpdumpMagic
  vMajor : Nat := 2
  vMinor : Nat := 4
  thiszone : Nat := 0
  sigfigs : Nat := 0
  snaplen : Nat := 1500
  linktype : Nat := 1
deriving DecidableEq, Repr

def FileHdr.widths : List Nat := [4, 2, 2, 4, 4, 4, 4]

def FileHdr.values (hdr : FileHdr) : List Nat :=
  [hdr.magic, hdr.vMajor, hdr.vMinor, hdr.thiszone, hdr.sigfigs, hdr.snaplen,
    hdr.linktype]

def FileHdr.ofValues (values : List Nat) : FileHdr where
  magic := values.getD 0 0
  vMajor := values.getD 1 0
  vMinor := values.getD 2 0
  thiszone := values.getD 3 0
  sigfigs := values.getD 4 0
  snaplen := values.getD 5 0
  linktype := values.getD 6 0

def FileHdr.className : ByteOrder → String
  | .big => "FileHdr"
  | .little => "LEFileHdr"

def FileHdr.parse (order : ByteOrder) (buf : Bytes) :
    Except PyError FileHdr := do
  let values ← order.parseHdr (className order) widths buf
  .ok (ofValues values)

def FileHdr.bytes (order : ByteOrder) (hdr : FileHdr) :
    Except PyError Bytes :=
  order.packHdr (widths.zip hdr.values)

/-- The four classes of packet headers: `PktHdr`, `LEPktHdr`, `PktModHdr` and
`LEPktModHdr`. -/
structure PktHdrClass where
  order : ByteOrder
  modified : Bool
deriving DecidableEq, Repr

def PktHdrClass.name : PktHdrClass → String
  | ⟨.big, false⟩ => "PktHdr"
  | ⟨.little, false⟩ => "LEPktHdr"
  | ⟨.big, true⟩ => "PktModHdr"
  | ⟨.little, true⟩ => "LEPktModHdr"

/-- The modified header has `ifindex`, `protocol`, `pkt_type` and `pad` as
well, which nothing reads. -/
def PktHdrClass.widths (ph : PktHdrClass) : List Nat :=
  if ph.modified then [4, 4, 4, 4, 4, 2, 1, 1] else [4, 4, 4, 4]

def PktHdrClass.hdrLen (ph : PktHdrClass) : Nat := ph.widths.sum

structure PktHdr where
  tvSec : Nat
  tvUsec : Nat
  caplen : Nat
  len : Nat
deriving DecidableEq, Repr

def PktHdr.parse (ph : PktHdrClass) (buf : Bytes) : Except PyError PktHdr := do
  let values ← ph.order.parseHdr ph.name ph.widths buf
  .ok { tvSec := values.getD 0 0, tvUsec := values.getD 1 0,
        caplen := values.getD 2 0, len := values.getD 3 0 }

/-- `MAGIC_TO_PKT_HDR` -/
def magicToPktHdr (magic : Nat) : Option PktHdrClass :=
  if magic = tcpdumpMagic ∨ magic = tcpdumpMagicNano then
    some ⟨.big, false⟩
  else if magic = modpcapMagic then some ⟨.big, true⟩
  else if magic = pmudpctMagic ∨ magic = pmudpctMagicNano then
    some ⟨.little, false⟩
  else if magic = pacpdomMagic then some ⟨.little, true⟩
  else none

/-- The byte order is that of the machine, `sys.byteorder`. -/
structure Writer where
  order : ByteOrder
  precision : Nat
  file : Bytes
deriving DecidableEq, Repr

def precisionOf (nano : Bool) : Nat := if nano then 9 else 6

def Writer.precisionMultiplier (writer : Writer) : Nat := 10 ^ writer.precision

def Writer.init (order : ByteOrder) (snaplen linktype : Nat) (nano : Bool) :
    Except PyError Writer := do
  let magic := if nano then tcpdumpMagicNano else tcpdumpMagic
  let header ← FileHdr.bytes order
    { snaplen := snaplen, linktype := linktype, magic := magic }
  .ok { order := order, precision := precisionOf nano, file := header }

def Writer.packPktHdr (writer : Writer) (sec usec : Int) (n : Nat) :
    Except PyError Bytes := do
  let sec ← unsignedField sec
  let usec ← unsignedField usec
  writer.order.pack [(4, sec), (4, usec), (4, n), (4, n)]

def Writer.write (writer : Writer) (bytes : Bytes) : Writer :=
  { writer with file := writer.file ++ bytes }

def Writer.writepktTime (writer : Writer) (pkt : Bytes) (ts : ℚ) :
    Except PyError Writer := do
  let n := pkt.length
  let sec := truncate ts
  let usec := intround (modOne ts * writer.precisionMultiplier)
  let ph ← writer.packPktHdr sec usec n
  .ok (writer.write (ph ++ pkt))

/-- The loop of `writepkts`, with the packer and the multiplier looked up in
front of it. -/
def Writer.writepktsLoop (packHdr : Int → Int → Nat → Except PyError Bytes)
    (precisionMultiplier : Nat) (fd : Bytes) :
    List (ℚ × Bytes) → Except PyError Bytes
  | [] => .ok fd
  | (ts, pkt) :: pkts => do
      let n := pkt.length
      let sec := truncate ts
      let usec := intround (modOne ts * precisionMultiplier)
      let ph ← packHdr sec usec n
      writepktsLoop packHdr precisionMultiplier (fd ++ (ph ++ pkt)) pkts

def Writer.writepkts (writer : Writer) (pkts : List (ℚ × Bytes)) :
    Except PyError Writer := do
  let file ← writepktsLoop writer.packPktHdr writer.precisionMultiplier
    writer.file pkts
  .ok { writer with file := file }

def Writer.writepktTimes (writer : Writer) :
    List (ℚ × Bytes) → Except PyError Writer
  | [] => .ok writer
  | (ts, pkt) :: pkts => do
      let written ← writer.writepktTime pkt ts
      written.writepktTimes pkts

/-- `_divisor`: `Decimal('1E9')` for nanoseconds, or the float `1E6`. -/
inductive Divisor where
  | decimal
  | float
deriving DecidableEq, Repr

structure Reader where
  fh : FileHdr
  ph : PktHdrClass
  dloff : Nat
  divisor : Divisor
  file : Bytes
deriving DecidableEq, Repr

def Reader.init (file : Bytes) : Except PyError Reader := do
  let buf := file.take FileHdr.widths.sum
  let fh ← FileHdr.parse .big buf
  let magic := fh.magic
  let fh ←
    (if magic ∈ [pmudpctMagic, pmudpctMagicNano, pacpdomMagic] then
      FileHdr.parse .little buf
    else .ok fh)
  (match magicToPktHdr magic with
  | none =>
      .error (.other "ValueError" "invalid tcpdump header".toList)
  | some ph =>
      .ok { fh := fh, ph := ph
            dloff := (dltoff.lookup fh.linktype).getD 0
            divisor :=
              if magic ∈ [tcpdumpMagicNano, pmudpctMagicNano] then .decimal
              else .float
            file := file.drop FileHdr.widths.sum })

/-- `hdr.tv_sec + (hdr.tv_usec / self._divisor)`.  Nothing is lost as a
`Decimal`, which has 28 digits. -/
def PktHdr.time (hdr : PktHdr) : Divisor → ℚ
  | .decimal => hdr.tvSec + hdr.tvUsec / 10 ^ 9
  | .float => floatSeconds hdr.tvSec hdr.tvUsec

theorem PktHdrClass.hdrLen_pos (ph : PktHdrClass) : 0 < ph.hdrLen := by
  unfold PktHdrClass.hdrLen PktHdrClass.widths
  split <;> decide

/-- `__iter__`, with what is left of the file. -/
def Reader.packets (ph : PktHdrClass) (divisor : Divisor) (file : Bytes) :
    Except PyError (List (ℚ × Bytes)) :=
  if file.take ph.hdrLen = [] then .ok []
  else do
    let hdr ← PktHdr.parse ph (file.take ph.hdrLen)
    let behind := file.drop ph.hdrLen
    let entries ← packets ph divisor (behind.drop hdr.caplen)
    .ok ((hdr.time divisor, behind.take hdr.caplen) :: entries)
termination_by file.length
decreasing_by
  rename_i present
  have headerPositive := ph.hdrLen_pos
  have filePositive : 0 < file.length := by
    rw [List.length_pos_iff]
    intro empty
    rw [empty, List.take_nil] at present
    exact present rfl
  simp only [List.length_drop]
  omega

def Reader.readpkts (reader : Reader) : Except PyError (List (ℚ × Bytes)) :=
  packets reader.ph reader.divisor reader.file

end DpktNg.Pcap
