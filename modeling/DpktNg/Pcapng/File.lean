/-
`Writer` and `Reader` of dpkt/pcapng.py.  The writer is the one that makes its
section header and its interface itself, and the reader's file object is the
list of the bytes still to be read.
-/

import DpktNg.Pcapng.Block
import DpktNg.Python.FileObject
import DpktNg.Python.Rational

namespace DpktNg.Pcapng

open Library

/-- The byte order is that of the machine, `sys.byteorder`. -/
structure Writer where
  order : ByteOrder
  file : Bytes
deriving DecidableEq, Repr

def precisionMultiplier : Nat := 1000000

def Writer.init (order : ByteOrder) (snaplen linktype : Nat) :
    Except PyError Writer := do
  let shb ← SectionHeaderBlock.bytes order {}
  let idb ← InterfaceDescriptionBlock.bytes order
    { snaplen := snaplen, linktype := linktype }
  .ok { order := order, file := shb ++ idb }

def Writer.write (writer : Writer) (bytes : Bytes) : Writer :=
  { writer with file := writer.file ++ bytes }

/-- `ts >> 32` and `ts & 0xffffffff`; the upper half of a negative number, or
of one that is too large, cannot be packed. -/
def tsWords (ts : Int) : Except PyError (Nat × Nat) := do
  let high ← unsignedField (ts / 2 ^ 32)
  let low ← unsignedField (ts % 2 ^ 32)
  .ok (high, low)

def Writer.writepktTime (writer : Writer) (pkt : Bytes) (ts : ℚ) :
    Except PyError Writer := do
  let ts := intround (ts * precisionMultiplier)
  let n := pkt.length
  let words ← tsWords ts
  let bytes ← PacketBlock.bytes .enhanced writer.order
    { tsHigh := words.1, tsLow := words.2, caplen := n, pktLen := n
      pktData := pkt }
  .ok (writer.write bytes)

def Writer.writepktTimes (writer : Writer) :
    List (ℚ × Bytes) → Except PyError Writer
  | [] => .ok writer
  | (ts, pkt) :: pkts => do
      let written ← writer.writepktTime pkt ts
      written.writepktTimes pkts

/-- The loop of `writepkts`, which builds the blocks from what it took from
`kls` in front of it. -/
def Writer.writepktsLoop (order : ByteOrder) (kls : PacketBlock)
    (optsBuf : Bytes) (precalcN : Nat) (fd : Bytes) :
    List (ℚ × Bytes) → Except PyError Bytes
  | [] => .ok fd
  | (ts, pkt) :: pkts => do
      let ts := intround (ts * precisionMultiplier)
      let pktLen := pkt.length
      let pktLenAlign := align32b pktLen
      let n := precalcN + pktLenAlign
      let words ← tsWords ts
      let hdrBuf ← order.pack [(4, kls.type), (4, n), (4, kls.ifaceId),
        (4, words.1), (4, words.2), (4, pktLen), (4, pktLen), (4, n)]
      let buf := hdrBuf.take (hdrBuf.length - 4) ++
        paddedToLen pkt pktLenAlign ++ optsBuf ++
        hdrBuf.drop (hdrBuf.length - 4)
      writepktsLoop order kls optsBuf precalcN (fd ++ buf) pkts

def Writer.writepkts (writer : Writer) (pkts : List (ℚ × Bytes)) :
    Except PyError Writer := do
  let kls : PacketBlock := {}
  let optsBuf ← packOptions writer.order kls.opts
  let hdrLen := PacketClass.enhanced.widths.sum
  let precalcN := hdrLen + optsBuf.length
  let file ← writepktsLoop writer.order kls optsBuf precalcN writer.file pkts
  .ok { writer with file := file }

def valueError (message : PyStr) : PyError := .other "ValueError" message

/-- `dltoff` with the numbers of a platform other than OpenBSD. -/
def dltoff : List (Nat × Nat) :=
  [(0, 4), (1, 14), (6, 22), (7, 6), (8, 16), (9, 4), (10, 21), (117, 48),
    (18, 4), (108, 4), (113, 16)]

/-- A block of a file: its type, its bytes as far as they are there, and what
is left of the file. -/
structure RawBlock where
  type : Nat
  buf : Bytes
  behind : Bytes
deriving DecidableEq, Repr

/-- The reads with which both loops begin; `none` at the end of the file. -/
def readBlock (order : ByteOrder) (file : Bytes) : Option RawBlock :=
  if (file.take 8).length < 8 then none
  else
    let blkType := order.nat (cut file 0 4)
    let blkLen := order.nat (cut file 4 8)
    let body := readFile (file.drop 8) ((blkLen : Int) - 8)
    some { type := blkType, buf := file.take 8 ++ body.1, behind := body.2 }

theorem readBlock_shorter {order : ByteOrder} {file : Bytes}
    {block : RawBlock} (read : readBlock order file = some block) :
    block.behind.length < file.length := by
  unfold readBlock at read
  split at read
  · cases read
  · rename_i enough
    rw [Option.some.injEq] at read
    rw [List.length_take] at enough
    rw [← read]
    unfold readFile
    split
    · rw [List.length_nil]
      omega
    · rw [List.length_drop, List.length_drop]
      omega

/-- The loop that looks for an interface. -/
def findIdb (order : ByteOrder) (file : Bytes) :
    Except PyError (InterfaceDescriptionBlock × Bytes) :=
  match _read : readBlock order file with
  | none => .error (valueError "IDB not found".toList)
  | some block =>
      if block.type = btIdb then do
        let idb ← InterfaceDescriptionBlock.parse order block.buf
        .ok (idb, block.behind)
      else findIdb order block.behind
termination_by file.length
decreasing_by exact readBlock_shorter _read

/-- The resolution and the offset that the reader keeps. -/
structure Clock where
  divisor : Nat := 1000000
  tsoffset : Int := 0
deriving DecidableEq, Repr

/-- One turn of the loop over `idb.opts`. -/
def Clock.option (order : ByteOrder) (clock : Clock) (opt : PcapngOption) :
    Except PyError Clock :=
  if opt.code = optIfTsresol then
    if opt.data.length = 1 then
      let optVal := beNat opt.data
      let powNum := if optVal &&& 0b10000000 ≠ 0 then 2 else 10
      .ok { clock with divisor := powNum ^ (optVal &&& 0b01111111) }
    else .error .structError
  else if opt.code = optIfTsoffset then
    if opt.data.length = 8 then
      .ok { clock with tsoffset := toSigned 8 (order.nat opt.data) }
    else .error .structError
  else .ok clock

def Clock.options (order : ByteOrder) (clock : Clock) :
    List PcapngOption → Except PyError Clock
  | [] => .ok clock
  | opt :: opts => do
      let clock ← clock.option order opt
      clock.options order opts

structure Reader where
  order : ByteOrder
  idb : InterfaceDescriptionBlock
  clock : Clock
  dloff : Nat
  file : Bytes
deriving DecidableEq, Repr

def swap32b (i : Nat) : Nat := ByteOrder.little.nat (beBytes 4 i)

/-- The section header, with the byte order that it was written in. -/
def readShb (file : Bytes) :
    Except PyError (ByteOrder × SectionHeaderBlock × Bytes) := do
  let hdrLen := SectionHeaderBlock.widths.sum
  let buf := file.take hdrLen
  if buf.length < hdrLen then .error (valueError "invalid pcapng header".toList)
  else do
    let shb ← SectionHeaderBlock.unpackHdr .big buf
    if shb.type ≠ btShb then
      .error (valueError "invalid pcapng header: not a SHB".toList)
    else if shb.bom = byteOrderMagicLe then do
      let more := readFile (file.drop hdrLen) ((swap32b shb.len : Int) - hdrLen)
      let shb ← SectionHeaderBlock.parse .little (buf ++ more.1)
      .ok (.little, shb, more.2)
    else if shb.bom = byteOrderMagic then do
      let more := readFile (file.drop hdrLen) ((shb.len : Int) - hdrLen)
      let shb ← SectionHeaderBlock.parse .big (buf ++ more.1)
      .ok (.big, shb, more.2)
    else .error (valueError "unknown endianness".toList)

def Reader.init (file : Bytes) : Except PyError Reader := do
  let (order, shb, behind) ← readShb file
  if shb.vMajor ≠ 1 then
    .error (valueError ("unknown pcapng version ".toList ++
      decimal shb.vMajor ++ ".".toList ++ decimal shb.vMinor))
  else do
    let (idb, behind) ← findIdb order behind
    let clock ← Clock.options order {} idb.opts
    .ok { order := order, idb := idb, clock := clock
          dloff := (dltoff.lookup idb.linktype).getD 0, file := behind }

/-- `self._tsoffset + (((ts_high << 32) | ts_low) / self._divisor)`, where the
quotient of two integers is the nearest float. -/
def Clock.time (clock : Clock) (tsHigh tsLow : Nat) : ℚ :=
  double (double clock.tsoffset +
    double (((tsHigh <<< 32 ||| tsLow : Nat) : ℚ) / clock.divisor))

/-- The class of the blocks that `__iter__` parses. -/
def packetClass (blkType : Nat) : Option PacketClass :=
  if blkType = btEpb then some .enhanced
  else if blkType = btPb then some .plain
  else none

/-- `__iter__`, with what is left of the file. -/
def Reader.packets (order : ByteOrder) (clock : Clock) (file : Bytes) :
    Except PyError (List (ℚ × Bytes)) :=
  match _read : readBlock order file with
  | none => .ok []
  | some block =>
      match packetClass block.type with
      | some kind => do
          let epb ← PacketBlock.parse kind order block.buf
          let entries ← packets order clock block.behind
          .ok ((clock.time epb.tsHigh epb.tsLow, epb.pktData) :: entries)
      | none => packets order clock block.behind
termination_by file.length
decreasing_by
  · exact readBlock_shorter _read
  · exact readBlock_shorter _read

def Reader.readpkts (reader : Reader) : Except PyError (List (ℚ × Bytes)) :=
  packets reader.order reader.clock reader.file

end DpktNg.Pcapng
