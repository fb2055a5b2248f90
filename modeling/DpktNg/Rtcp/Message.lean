/-
Packets of the real-time transport control protocol, dpkt/rtcp.py.
-/

import DpktNg.Python.Loops
import DpktNg.Python.StructFormat

namespace DpktNg.Rtcp

open Library

structure SRInfo where
  ssrc : Nat
  ntpTsMsw : Nat
  ntpTsLsw : Nat
  rtpTs : Nat
  pkts : Nat
  octs : Nat
deriving DecidableEq, Repr

def SRInfo.format : StructFormat SRInfo where
  items := [.int 4, .int 4, .int 4, .int 4, .int 4, .int 4]
  values info :=
    (info.ssrc, info.ntpTsMsw, info.ntpTsLsw, info.rtpTs, info.pkts, info.octs,
      ())
  ofValues := fun (ssrc, ntpTsMsw, ntpTsLsw, rtpTs, pkts, octs, _) =>
    { ssrc, ntpTsMsw, ntpTsLsw, rtpTs, pkts, octs }
  ofValues_values _ := rfl

structure RRInfo where
  ssrc : Nat
deriving DecidableEq, Repr

def RRInfo.format : StructFormat RRInfo where
  items := [.int 4]
  values info := (info.ssrc, ())
  ofValues := fun (ssrc, _) => { ssrc }
  ofValues_values _ := rfl

structure Report where
  ssrc : Nat
  lossfracLosscumm : Nat
  seq : Nat
  jitter : Nat
  lsr : Nat
  dlsr : Nat
deriving DecidableEq, Repr

def Report.format : StructFormat Report where
  items := [.int 4, .int 4, .int 4, .int 4, .int 4, .int 4]
  values report :=
    (report.ssrc, report.lossfracLosscumm, report.seq, report.jitter,
      report.lsr, report.dlsr, ())
  ofValues := fun (ssrc, lossfracLosscumm, seq, jitter, lsr, dlsr, _) =>
    { ssrc, lossfracLosscumm, seq, jitter, lsr, dlsr }
  ofValues_values _ := rfl

inductive BlockClass where
  | loss
  | dupl
  | rcvt
  | rcvr
  | dlrr
  | stat
  | voip
deriving DecidableEq, Repr

namespace BlockClass

def name : BlockClass → String
  | loss => "XBlockLoss"
  | dupl => "XBlockDupl"
  | rcvt => "XBlockRcvt"
  | rcvr => "XBlockRcvr"
  | dlrr => "XBlockDlrr"
  | stat => "XBlockStat"
  | voip => "XBlockVoip"

def items : BlockClass → List StructItem
  | loss => [.int 4]
  | dupl => [.int 4]
  | rcvt => [.int 4]
  | rcvr => [.int 4, .int 4]
  | dlrr => []
  | stat =>
      [.int 4, .int 2, .int 2, .int 4, .int 4, .int 4, .int 4, .int 4, .int 4,
        .int 1, .int 1, .int 1, .int 1]
  | voip =>
      [.int 4, .int 1, .int 1, .int 1, .int 1, .int 2, .int 2, .int 2, .int 2,
        .int 1, .int 1, .int 1, .int 1, .int 1, .int 1, .int 1, .int 1, .int 1,
        .int 1, .int 2, .int 2, .int 2]

/-- The values themselves are the item. -/
def format (cls : BlockClass) : StructFormat (StructValues cls.items) where
  items := cls.items
  values values := values
  ofValues values := values
  ofValues_values _ := rfl

/-- `BT_LOSS` to `BT_VOIP` -/
def ofType : Nat → Option BlockClass
  | 1 => some loss
  | 2 => some dupl
  | 3 => some rcvt
  | 4 => some rcvr
  | 5 => some dlrr
  | 6 => some stat
  | 7 => some voip
  | _ => none

end BlockClass

/-- A block: the values of its header, and the bytes behind it. -/
structure XBlock where
  cls : BlockClass
  values : StructValues cls.items
  data : Bytes

structure XReportBlockHeader where
  type : Nat
  spec : Nat
  len : Nat
deriving DecidableEq, Repr

def XReportBlockHeader.format : StructFormat XReportBlockHeader where
  items := [.int 1, .int 1, .int 2]
  values header := (header.type, header.spec, header.len, ())
  ofValues := fun (type, spec, len, _) => { type, spec, len }
  ofValues_values _ := rfl

structure XReportBlock where
  header : XReportBlockHeader
  block : XBlock

def invalidBlockType : PyError :=
  .other "ValueError" "Invalid Block Type.".toList

def isValueError : PyError → Bool
  | .other className _ => className == "ValueError"
  | _ => false

namespace XReportBlock

/-- The class of the type reads what the length field leaves to it. -/
def unpack (buf : Bytes) : Except PyError XReportBlock := do
  let (header, data) ← XReportBlockHeader.format.unpackHdr .big buf
  match BlockClass.ofType header.type with
  | some cls => do
      let (values, rest) ← cls.format.parsePacket .big cls.name
        (data.take (header.len * 4))
      .ok { header, block := { cls, values, data := rest } }
  | none => .error invalidBlockType

def parse (buf : Bytes) : Except PyError XReportBlock :=
  packetInit "XReportBlock" (some XReportBlockHeader.format.size) unpack buf

/-- How far the loop of the report moves on behind a block. -/
def step (self : XReportBlock) : Nat :=
  XReportBlockHeader.format.size + self.header.len * 4

theorem step_pos (self : XReportBlock) : 0 < self.step :=
  Nat.lt_of_lt_of_le (Nat.zero_lt_succ 3) (Nat.le_add_right _ _)

/-- What the report writes of a block. -/
def bytes (self : XReportBlock) : Except PyError Bytes := do
  let hdr ← XReportBlockHeader.format.packHdr .big self.header
  let block ← self.block.cls.format.packHdr .big self.block.values
  .ok (hdr ++ block ++ self.block.data)

end XReportBlock

structure XReport where
  blocks : List XReportBlock

namespace XReport

/-- The loop over the blocks: those that were appended, and how it ended. -/
def readBlocks (buf : Bytes) : List XReportBlock × Except PyError Unit :=
  if buf = [] then ([], .ok ())
  else
    match XReportBlock.parse buf with
    | .error problem => ([], .error problem)
    | .ok block =>
        let (blocks, ending) := readBlocks (buf.drop block.step)
        (block :: blocks, ending)
termination_by buf.length
decreasing_by
  rename_i some_left
  have moves := block.step_pos
  have length := List.length_pos_iff.mpr some_left
  rw [List.length_drop]
  omega

/-- At least one block must be there before one of no known type. -/
def unpack (buf : Bytes) : Except PyError XReport :=
  match readBlocks buf with
  | (blocks, .ok ()) => .ok { blocks }
  | (blocks, .error problem) =>
      if isValueError problem then
        if blocks.length = 0 then .error invalidBlockType else .ok { blocks }
      else .error problem

def parse (buf : Bytes) : Except PyError XReport :=
  packetInit "XReport" (some 0) unpack buf

def bytes (self : XReport) : Except PyError Bytes :=
  joinBytes XReportBlock.bytes self.blocks

end XReport

structure RTCPHeader where
  versionPCcPt : Nat
  len : Nat
deriving DecidableEq, Repr

def RTCPHeader.format : StructFormat RTCPHeader where
  items := [.int 2, .int 2]
  values header := (header.versionPCcPt, header.len, ())
  ofValues := fun (versionPCcPt, len, _) => { versionPCcPt, len }
  ofValues_values _ := rfl

/-- The bit fields of the first two bytes. -/
def version (field : Nat) : Nat := (field &&& 0xc000) >>> 14

def paddingBit (field : Nat) : Nat := (field &&& 0x2000) >>> 13

def cc (field : Nat) : Nat := (field &&& 0x1f00) >>> 8

def pt (field : Nat) : Nat := field &&& 0xff

def ptSR : Nat := 200

def ptRR : Nat := 201

def ptSDES : Nat := 202

def ptBYE : Nat := 203

def ptAPP : Nat := 204

def ptXR : Nat := 207

inductive Info where
  | sr (info : SRInfo)
  | rr (info : RRInfo)
deriving DecidableEq, Repr

def Info.packHdr : Info → Except PyError Bytes
  | .sr info => SRInfo.format.packHdr .big info
  | .rr info => RRInfo.format.packHdr .big info

/-- What the list `reports` holds. -/
inductive ReportItem where
  | report (report : Report)
  | xr (xr : XReport)

def ReportItem.bytes : ReportItem → Except PyError Bytes
  | .report self => Report.format.packHdr .big self
  | .xr self => self.bytes

structure RTCP where
  header : RTCPHeader
  info : Option Info := none
  reports : List ReportItem := []
  data : Bytes := []

namespace RTCP

def size (header : RTCPHeader) : Nat := header.len * 4 + 4

/-- `for _ in range(self.cc)`: the reports, and the bytes behind them. -/
def takeReports : Nat → Bytes → Except PyError (List ReportItem × Bytes)
  | 0, buf => .ok ([], buf)
  | count + 1, buf => do
      let (report, _) ← Report.format.parsePacket .big "Report" buf
      let (reports, rest) ← takeReports count (buf.drop Report.format.size)
      .ok (.report report :: reports, rest)

def unpackSR (header : RTCPHeader) (buf : Bytes) : Except PyError RTCP := do
  let (info, _) ← SRInfo.format.parsePacket .big "SRInfo" buf
  let (reports, rest) ← takeReports (cc header.versionPCcPt)
    (buf.drop SRInfo.format.size)
  let stop : Int := size header - RTCPHeader.format.size - SRInfo.format.size -
    (cc header.versionPCcPt * 24 : Nat)
  .ok { header, info := some (.sr info), reports, data := cutTo rest stop }

/-- The bytes behind the reports are not kept. -/
def unpackRR (header : RTCPHeader) (buf : Bytes) : Except PyError RTCP := do
  let (info, _) ← RRInfo.format.parsePacket .big "RRInfo" buf
  let (reports, _) ← takeReports (cc header.versionPCcPt)
    (buf.drop RRInfo.format.size)
  .ok { header, info := some (.rr info), reports, data := [] }

/-- One report with all blocks, whatever the count says. -/
def unpackXR (header : RTCPHeader) (buf : Bytes) : Except PyError RTCP := do
  let (info, _) ← RRInfo.format.parsePacket .big "RRInfo" buf
  let stop : Int := size header - RRInfo.format.size
  let xr ← XReport.parse (cutTo (buf.drop RRInfo.format.size) stop)
  .ok { header, info := some (.rr info), reports := [.xr xr], data := [] }

def unpack (buf : Bytes) : Except PyError RTCP := do
  let (header, data) ← RTCPHeader.format.unpackHdr .big buf
  let field := header.versionPCcPt
  if ¬version field = 2 ∨ ¬paddingBit field = 0 then
    .error (.invalid "RTCP" buf)
  else if pt field = ptSR then unpackSR header data
  else if pt field = ptRR then unpackRR header data
  else if pt field = ptSDES ∨ pt field = ptBYE ∨ pt field = ptAPP then
    .ok { header, data := cutTo data (size header - RTCPHeader.format.size) }
  else if pt field = ptXR then unpackXR header data
  -- here `buf` is what stands behind the header
  else .error (.invalid "RTCP" data)

def parse (buf : Bytes) : Except PyError RTCP :=
  packetInit "RTCP" (some RTCPHeader.format.size) unpack buf

/-- `for _ in range(count)`: the reports by their index. -/
def reportBytes : Nat → List ReportItem → Except PyError Bytes
  | 0, _ => .ok []
  | _ + 1, [] => .error .indexError
  | count + 1, report :: rest => do
      .ok ((← report.bytes) ++ (← reportBytes count rest))

def infoBytes : Option Info → Except PyError Bytes
  | some info => info.packHdr
  | none => .ok []

/-- The loop runs when there is a report. -/
def allReportBytes (count : Nat) (reports : List ReportItem) :
    Except PyError Bytes :=
  if reports.length > 0 then reportBytes count reports else .ok []

def bytes (self : RTCP) : Except PyError Bytes := do
  let hdr ← RTCPHeader.format.packHdr .big self.header
  let info ← infoBytes self.info
  let reports ← allReportBytes (cc self.header.versionPCcPt) self.reports
  .ok (hdr ++ info ++ reports ++ self.data)

end RTCP

end DpktNg.Rtcp
