/-
Writing a parsed packet again.

The writer goes through the reports by the count of the header.  For an extended
report the count means nothing, and there is always one report; and what stands
behind the blocks of a receiver report is not kept.
-/

import DpktNg.Rtcp.Message

namespace DpktNg.Rtcp

open Library

theorem SRInfo.exact : SRInfo.format.Exact := fun _values => rfl

theorem RRInfo.exact : RRInfo.format.Exact := fun _values => rfl

theorem Report.exact : Report.format.Exact := fun _values => rfl

theorem BlockClass.exact (cls : BlockClass) : cls.format.Exact :=
  fun _values => rfl

theorem XReportBlockHeader.exact : XReportBlockHeader.format.Exact :=
  fun _values => rfl

theorem RTCPHeader.exact : RTCPHeader.format.Exact := fun _values => rfl

/-! ### Extended reports -/

theorem XReportBlock.bytes_parse {data : Bytes} {block : XReportBlock}
    (parsed : parse data = .ok block) :
    block.bytes = .ok (data.take block.step) := by
  have unpacked : unpack data = .ok block := packetInit_eq_ok.mp parsed
  unfold unpack at unpacked
  obtain ⟨⟨header, behind⟩, hdr, unpacked⟩ := bind_eq_ok.mp unpacked
  obtain ⟨packed, _enough, rest⟩ :=
    StructFormat.repacked XReportBlockHeader.exact hdr
  dsimp only at unpacked
  split at unpacked
  · rename_i cls known
    obtain ⟨⟨values, data'⟩, inner, same⟩ := bind_eq_ok.mp unpacked
    obtain ⟨packedInner, _enough, restInner⟩ :=
      StructFormat.parsePacket_repacked cls.exact inner
    rw [Except.ok.injEq] at same
    rw [← same]
    unfold bytes step
    dsimp only
    rw [packed, ok_bind, packedInner, ok_bind, restInner, List.append_assoc,
      List.take_append_drop, rest, List.take_add]
  · cases unpacked

theorem XReport.bytes_readBlocks {data : Bytes} {blocks : List XReportBlock}
    (read : readBlocks data = (blocks, .ok ())) :
    joinBytes XReportBlock.bytes blocks = .ok data := by
  induction blocks generalizing data with
  | nil =>
      rw [readBlocks] at read
      split at read
      · rename_i empty
        rw [empty]
        rfl
      · split at read
        · cases read
        · cases read
  | cons block others ih =>
      rw [readBlocks] at read
      split at read
      · cases read
      · split at read
        · cases read
        · rename_i first parsed
          obtain ⟨blocks_eq, ending⟩ := Prod.mk.inj read
          obtain ⟨same, later⟩ := List.cons.inj blocks_eq
          have rest : readBlocks (data.drop block.step) = (others, .ok ()) := by
            rw [← same, ← later, ← ending]
          rw [same] at parsed
          rw [joinBytes, XReportBlock.bytes_parse parsed, ok_bind, ih rest,
            ok_bind, List.take_append_drop]

/-- The bytes of a block of a known type, as long as its length field says. -/
structure IsBlock (chunk : Bytes) : Prop where
  known : (BlockClass.ofType (beNat (chunk.take 1))).isSome
  length_eq : chunk.length = 4 + beNat (cut chunk 2 4) * 4

instance : DecidablePred IsBlock := fun chunk =>
  decidable_of_iff
    ((BlockClass.ofType (beNat (chunk.take 1))).isSome ∧
      chunk.length = 4 + beNat (cut chunk 2 4) * 4)
    ⟨fun ⟨known, length_eq⟩ => ⟨known, length_eq⟩,
      fun block => ⟨block.known, block.length_eq⟩⟩

theorem IsBlock.header {chunk : Bytes} (block : IsBlock chunk)
    {rest data : Bytes} {header : XReportBlockHeader}
    (unpacked : XReportBlockHeader.format.unpackHdr .big (chunk ++ rest) =
      .ok (header, data)) :
    header.type = beNat (chunk.take 1) ∧
      header.len = beNat (cut chunk 2 4) := by
  have length := block.length_eq
  obtain ⟨_enough, values, _rest⟩ := StructFormat.unpackHdr_eq_ok.mp unpacked
  have start : (chunk ++ rest).take 4 = chunk.take 4 :=
    List.take_append_of_le_length (by omega)
  have same : header = XReportBlockHeader.format.ofValues
      (StructValues.read .big XReportBlockHeader.format.items
        (chunk.take 4)) := by
    rw [← start]
    exact values
  rw [same]
  refine ⟨?_, ?_⟩
  · change beNat ((chunk.take 4).take 1) = _
    rw [List.take_take]
    rfl
  · change beNat (((((chunk.take 4).drop 1).drop 1)).take 2) = _
    rw [List.drop_drop, List.drop_take, List.take_take]
    rfl

theorem IsBlock.parse_raisesOnly {chunk : Bytes} (block : IsBlock chunk)
    (rest : Bytes) :
    RaisesOnly PyError.IsUnpackError (XReportBlock.parse (chunk ++ rest)) := by
  apply packetInit_raisesOnly
  apply RaisesOnly.bind
  · exact (StructFormat.unpackHdr_raisesOnly _).mono fun _problem => Or.inl
  · rintro ⟨header, data⟩ unpacked
    have known := block.known
    rw [← (block.header unpacked).1] at known
    dsimp only
    split
    · apply RaisesOnly.bind
      · exact (StructFormat.parsePacket_raisesOnly _ _).mono
          fun _problem => Or.inr
      · exact fun _read _parsed => raisesOnly_ok _
    · rename_i unknown
      rw [unknown] at known
      cases known

theorem IsBlock.step {chunk : Bytes} (block : IsBlock chunk) {rest : Bytes}
    {parsed : XReportBlock}
    (found : XReportBlock.parse (chunk ++ rest) = .ok parsed) :
    parsed.step = chunk.length := by
  have unpacked : XReportBlock.unpack (chunk ++ rest) = .ok parsed :=
    packetInit_eq_ok.mp found
  unfold XReportBlock.unpack at unpacked
  obtain ⟨⟨header, data⟩, hdr, unpacked⟩ := bind_eq_ok.mp unpacked
  have len := (block.header hdr).2
  dsimp only at unpacked
  split at unpacked
  · obtain ⟨_values, _inner, same⟩ := bind_eq_ok.mp unpacked
    rw [Except.ok.injEq] at same
    rw [← same, block.length_eq, ← len]
    rfl
  · cases unpacked

theorem notValueError {problem : PyError} (library : problem.IsUnpackError) :
    ¬isValueError problem := by
  cases problem with
  | needData message => exact Bool.false_ne_true
  | unpackError message => exact Bool.false_ne_true
  | structError => cases library
  | indexError => cases library
  | attributeError => cases library
  | typeError => cases library
  | unicodeError => cases library
  | packError message => cases library
  | other className message => cases library

/-- Blocks of known types never end the loop early without an error. -/
theorem XReport.readBlocks_raisesOnly {chunks : List Bytes}
    (known : ∀ chunk ∈ chunks, IsBlock chunk) :
    RaisesOnly PyError.IsUnpackError (readBlocks chunks.flatten).2 := by
  induction chunks with
  | nil =>
      rw [List.flatten_nil, readBlocks, if_pos rfl]
      exact raisesOnly_ok ()
  | cons chunk rest ih =>
      obtain ⟨block, others⟩ := List.forall_mem_cons.mp known
      have some_left : ¬chunk ++ rest.flatten = [] := by
        intro empty
        have length := congrArg List.length empty
        rw [List.length_append, block.length_eq, List.length_nil] at length
        omega
      rw [List.flatten_cons, readBlocks, if_neg some_left]
      split
      · rename_i problem raised
        exact raisesOnly_error.mpr
          (block.parse_raisesOnly _ problem raised)
      · rename_i parsed found
        dsimp only
        rw [block.step found, List.drop_left]
        exact ih others

theorem XReport.bytes_parse {chunks : List Bytes}
    (known : ∀ chunk ∈ chunks, IsBlock chunk) {xr : XReport}
    (parsed : parse chunks.flatten = .ok xr) :
    xr.bytes = .ok chunks.flatten := by
  have unpacked : unpack chunks.flatten = .ok xr := packetInit_eq_ok.mp parsed
  unfold unpack at unpacked
  split at unpacked
  · rename_i blocks read
    rw [Except.ok.injEq] at unpacked
    rw [← unpacked]
    exact bytes_readBlocks read
  · rename_i blocks problem read
    have raised : (readBlocks chunks.flatten).2 = .error problem := by rw [read]
    have library := readBlocks_raisesOnly known problem raised
    rw [if_neg (notValueError library)] at unpacked
    cases unpacked

/-! ### The parts of a packet -/

namespace RTCP

/-- The reports that were taken are written as the bytes they were taken
from. -/
theorem takeReports_eq_ok {count : Nat} {buf rest : Bytes}
    {reports : List ReportItem}
    (taken : takeReports count buf = .ok (reports, rest)) :
    count * 24 ≤ buf.length ∧ rest = buf.drop (count * 24) ∧
      reports.length = count ∧
        reportBytes count reports = .ok (buf.take (count * 24)) := by
  induction count generalizing buf rest reports with
  | zero =>
      rw [takeReports, Except.ok.injEq, Prod.mk.injEq] at taken
      rw [← taken.1, ← taken.2, Nat.zero_mul]
      exact ⟨Nat.zero_le _, rfl, rfl, rfl⟩
  | succ count ih =>
      rw [takeReports] at taken
      obtain ⟨⟨report, _data⟩, parsed, taken⟩ := bind_eq_ok.mp taken
      obtain ⟨⟨others, behind⟩, later, same⟩ := bind_eq_ok.mp taken
      obtain ⟨packed, enough, _rest⟩ :=
        StructFormat.parsePacket_repacked Report.exact parsed
      obtain ⟨enoughLater, restLater, length, written⟩ := ih later
      have size : Report.format.size = 24 := rfl
      rw [size] at packed enough enoughLater restLater written
      rw [List.length_drop] at enoughLater
      rw [Except.ok.injEq, Prod.mk.injEq] at same
      rw [← same.1, ← same.2]
      have total : (count + 1) * 24 = 24 + count * 24 := by omega
      refine ⟨by omega, ?_, ?_, ?_⟩
      · rw [restLater, List.drop_drop, total]
      · rw [List.length_cons, length]
      · rw [reportBytes, ReportItem.bytes, packed, ok_bind, written, ok_bind,
          total, List.take_add]

theorem allReportBytes_of_length {count : Nat} {reports : List ReportItem}
    (length : reports.length = count) :
    allReportBytes count reports = reportBytes count reports := by
  unfold allReportBytes
  split
  · rfl
  · rename_i empty
    have none_counted : count = 0 := by omega
    rw [none_counted]
    rfl

variable {header : RTCPHeader} {data hdr : Bytes} {rtcp : RTCP}

theorem bytes_unpackSR (unpacked : unpackSR header data = .ok rtcp)
    (packed : RTCPHeader.format.packHdr .big header = .ok hdr)
    (whole : size header = 4 + data.length) :
    rtcp.bytes = .ok (hdr ++ data) := by
  unfold unpackSR at unpacked
  obtain ⟨⟨info, _data⟩, parsed, unpacked⟩ := bind_eq_ok.mp unpacked
  obtain ⟨⟨reports, rest⟩, taken, same⟩ := bind_eq_ok.mp unpacked
  obtain ⟨packedInfo, enough, _rest⟩ :=
    StructFormat.parsePacket_repacked SRInfo.exact parsed
  obtain ⟨enoughReports, behind, length, written⟩ := takeReports_eq_ok taken
  have hdrSize : RTCPHeader.format.size = 4 := rfl
  have infoSize : SRInfo.format.size = 24 := rfl
  rw [infoSize] at packedInfo enough enoughReports behind written
  rw [List.length_drop] at enoughReports
  -- the slice has all that is left behind the reports
  have kept : cutTo rest ((size header : Int) - RTCPHeader.format.size -
      SRInfo.format.size - (cc header.versionPCcPt * 24 : Nat)) = rest := by
    rw [hdrSize, infoSize, whole]
    unfold cutTo
    rw [if_pos (by omega), List.take_of_length_le]
    rw [behind, List.length_drop, List.length_drop]
    omega
  rw [Except.ok.injEq] at same
  rw [← same]
  unfold bytes
  dsimp only
  rw [kept, packed, ok_bind, infoBytes, Info.packHdr, packedInfo, ok_bind,
    allReportBytes_of_length length, written, ok_bind, behind,
    List.append_assoc, List.take_append_drop, List.append_assoc,
    List.take_append_drop]

theorem bytes_unpackRR (unpacked : unpackRR header data = .ok rtcp)
    (packed : RTCPHeader.format.packHdr .big header = .ok hdr) :
    4 + cc header.versionPCcPt * 24 ≤ data.length ∧
      rtcp.bytes =
        .ok (hdr ++ data.take (4 + cc header.versionPCcPt * 24)) := by
  unfold unpackRR at unpacked
  obtain ⟨⟨info, _data⟩, parsed, unpacked⟩ := bind_eq_ok.mp unpacked
  obtain ⟨⟨reports, rest⟩, taken, same⟩ := bind_eq_ok.mp unpacked
  obtain ⟨packedInfo, enough, _rest⟩ :=
    StructFormat.parsePacket_repacked RRInfo.exact parsed
  obtain ⟨enoughReports, _behind, length, written⟩ := takeReports_eq_ok taken
  have infoSize : RRInfo.format.size = 4 := rfl
  rw [infoSize] at packedInfo enough enoughReports written
  rw [List.length_drop] at enoughReports
  refine ⟨by omega, ?_⟩
  rw [Except.ok.injEq] at same
  rw [← same]
  unfold bytes
  dsimp only
  rw [packed, ok_bind, infoBytes, Info.packHdr, packedInfo, ok_bind,
    allReportBytes_of_length length, written, ok_bind, List.append_nil,
    List.append_assoc, List.take_add]

theorem bytes_unpackXR {chunks : List Bytes}
    (known : ∀ chunk ∈ chunks, IsBlock chunk)
    (blocks : data.drop 4 = chunks.flatten)
    (unpacked : unpackXR header data = .ok rtcp)
    (packed : RTCPHeader.format.packHdr .big header = .ok hdr)
    (whole : size header = 4 + data.length) :
    4 ≤ data.length ∧ ∃ xr : XReport, xr.bytes = .ok (data.drop 4) ∧
      rtcp.bytes = (do
        let reports ← reportBytes (cc header.versionPCcPt) [.xr xr]
        .ok (hdr ++ data.take 4 ++ reports)) := by
  unfold unpackXR at unpacked
  obtain ⟨⟨info, _data⟩, parsed, unpacked⟩ := bind_eq_ok.mp unpacked
  obtain ⟨xr, found, same⟩ := bind_eq_ok.mp unpacked
  obtain ⟨packedInfo, enough, _rest⟩ :=
    StructFormat.parsePacket_repacked RRInfo.exact parsed
  have infoSize : RRInfo.format.size = 4 := rfl
  rw [infoSize] at packedInfo enough found
  have kept : cutTo (data.drop 4) ((size header : Int) - (4 : Nat)) =
      data.drop 4 := by
    rw [whole]
    unfold cutTo
    rw [if_pos (by omega), List.take_of_length_le]
    rw [List.length_drop]
    omega
  rw [kept, blocks] at found
  refine ⟨enough, xr, ?_, ?_⟩
  · rw [blocks]
    exact XReport.bytes_parse known found
  · have one : allReportBytes (cc header.versionPCcPt) [.xr xr] =
        reportBytes (cc header.versionPCcPt) [.xr xr] :=
      if_pos (Nat.zero_lt_succ 0)
    rw [Except.ok.injEq] at same
    rw [← same]
    unfold bytes
    dsimp only
    rw [packed, ok_bind, infoBytes, Info.packHdr, packedInfo, ok_bind, one]
    simp only [List.append_nil]

end RTCP

/-- One report is written for a count of one, none for none, and a larger count
runs out of reports. -/
theorem RTCP.reportBytes_single {count : Nat} {report : ReportItem}
    {front blocks : Bytes} (written : report.bytes = .ok blocks) :
    (do
      let reports ← reportBytes count [report]
      .ok (front ++ reports)) = (.ok (front ++ blocks) : Except PyError Bytes) ↔
      count = 1 ∨ (count = 0 ∧ blocks = []) := by
  match count with
  | 0 =>
      rw [reportBytes, ok_bind, List.append_nil, Except.ok.injEq,
        List.self_eq_append_right]
      constructor
      · exact fun empty => Or.inr ⟨rfl, empty⟩
      · rintro (impossible | ⟨_zero, empty⟩)
        · cases impossible
        · exact empty
  | 1 =>
      rw [reportBytes, written, ok_bind, reportBytes, ok_bind, ok_bind,
        List.append_nil]
      exact iff_of_true rfl (Or.inl rfl)
  | count + 2 =>
      rw [reportBytes, written, ok_bind, reportBytes]
      refine iff_of_false ?_ ?_
      · intro impossible
        cases impossible
      · rintro (impossible | ⟨impossible, _empty⟩)
        · cases impossible
        · cases impossible

/-! ### Packets -/

/-- The buffer holds one packet, of the length that its header gives. -/
def IsPacket (buf : Bytes) : Prop :=
  buf.length = 4 * (beNat (cut buf 2 4) + 1)

instance : DecidablePred IsPacket := fun buf =>
  inferInstanceAs (Decidable (buf.length = 4 * (beNat (cut buf 2 4) + 1)))

/-- The packet type and the report count that the buffer begins with. -/
def packetType (buf : Bytes) : Nat := pt (beNat (buf.take 2))

def reportCount (buf : Bytes) : Nat := cc (beNat (buf.take 2))

/-- A sender report, a receiver report, or an extended report of blocks of the
known types. -/
def IsReport (buf : Bytes) : Prop :=
  packetType buf = ptSR ∨ packetType buf = ptRR ∨
    (packetType buf = ptXR ∧
      ∃ chunks : List Bytes, (∀ chunk ∈ chunks, IsBlock chunk) ∧
        buf.drop 8 = chunks.flatten)

/-- A sender report, a receiver report without an extension, or an extended
report that is counted once, or not at all when it has no blocks. -/
def Restorable (buf : Bytes) : Prop :=
  packetType buf = ptSR ∨
    (packetType buf = ptRR ∧ buf.length = 8 + 24 * reportCount buf) ∨
      (packetType buf = ptXR ∧
        (reportCount buf = 1 ∨ (reportCount buf = 0 ∧ buf.length = 8)))

theorem RTCPHeader.unpacked {buf data : Bytes} {header : RTCPHeader}
    (hdr : RTCPHeader.format.unpackHdr .big buf = .ok (header, data)) :
    header.versionPCcPt = beNat (buf.take 2) ∧
      header.len = beNat (cut buf 2 4) ∧ 4 ≤ buf.length ∧ data = buf.drop 4 ∧
        RTCPHeader.format.packHdr .big header = .ok (buf.take 4) := by
  obtain ⟨enough, values, rest⟩ := StructFormat.unpackHdr_eq_ok.mp hdr
  obtain ⟨packed, _enough, _rest⟩ := StructFormat.repacked RTCPHeader.exact hdr
  rw [values]
  refine ⟨?_, ?_, enough, rest, ?_⟩
  · change beNat ((buf.take 4).take 2) = _
    rw [List.take_take]
    rfl
  · change beNat (((buf.take 4).drop 2).take 2) = _
    rw [List.drop_take, List.take_take]
    rfl
  · rw [← values]
    exact packed

/-- What the constructor did with a packet of one of the three types. -/
structure RTCP.Opened (buf : Bytes) (rtcp : RTCP) (header : RTCPHeader)
    (data : Bytes) : Prop where
  packed : RTCPHeader.format.packHdr .big header = .ok (buf.take 4)
  split : buf.take 4 ++ data = buf
  length : buf.length = 4 + data.length
  whole : size header = 4 + data.length
  count : cc header.versionPCcPt = reportCount buf
  sr : packetType buf = ptSR → unpackSR header data = .ok rtcp
  rr : packetType buf = ptRR → unpackRR header data = .ok rtcp
  xr : packetType buf = ptXR → unpackXR header data = .ok rtcp

theorem RTCP.opened {buf : Bytes} (packet : IsPacket buf) {rtcp : RTCP}
    (parsed : parse buf = .ok rtcp) :
    ∃ header, Opened buf rtcp header (buf.drop 4) := by
  have unpacked : unpack buf = .ok rtcp := packetInit_eq_ok.mp parsed
  unfold unpack at unpacked
  obtain ⟨⟨header, data⟩, hdr, unpacked⟩ := bind_eq_ok.mp unpacked
  obtain ⟨field, len, enough, rest, packed⟩ := RTCPHeader.unpacked hdr
  have length : buf.length = 4 + (buf.drop 4).length := by
    rw [List.length_drop]
    omega
  have whole : size header = 4 + (buf.drop 4).length := by
    unfold IsPacket at packet
    unfold size
    rw [← length, len, packet]
    omega
  have type : packetType buf = pt header.versionPCcPt := by rw [field]; rfl
  have count : cc header.versionPCcPt = reportCount buf := by rw [field]; rfl
  dsimp only at unpacked
  rw [← type, rest] at unpacked
  split at unpacked
  · cases unpacked
  refine
    ⟨header,
      { packed, split := List.take_append_drop 4 buf, length, whole, count
        sr := fun sr => ?_, rr := fun rr => ?_, xr := fun xr => ?_ }⟩
  · rw [if_pos sr] at unpacked
    exact unpacked
  · rw [if_neg (by rw [rr]; decide), if_pos rr] at unpacked
    exact unpacked
  · rw [if_neg (by rw [xr]; decide), if_neg (by rw [xr]; decide),
      if_neg (by rw [xr]; decide), if_pos xr] at unpacked
    exact unpacked

section

variable {buf data : Bytes} {rtcp : RTCP} {header : RTCPHeader}

theorem RTCP.Opened.bytes_sr (opened : Opened buf rtcp header data)
    (sr : packetType buf = ptSR) : rtcp.bytes = .ok buf := by
  rw [bytes_unpackSR (opened.sr sr) opened.packed opened.whole, opened.split]

/-- The blocks reach to the end exactly when there is no extension. -/
theorem RTCP.Opened.bytes_rr_iff (opened : Opened buf rtcp header data)
    (rr : packetType buf = ptRR) :
    rtcp.bytes = .ok buf ↔ buf.length = 8 + 24 * reportCount buf := by
  obtain ⟨within, written⟩ := bytes_unpackRR (opened.rr rr) opened.packed
  have length := opened.length
  rw [written, Except.ok.injEq, opened.count]
  rw [opened.count] at within
  constructor
  · intro same
    have kept : data.take (4 + reportCount buf * 24) = data :=
      List.append_cancel_left (same.trans opened.split.symm)
    have shorter := congrArg List.length kept
    rw [List.length_take] at shorter
    omega
  · intro sized
    have all : data.length ≤ 4 + reportCount buf * 24 := by omega
    rw [List.take_of_length_le all, opened.split]

theorem RTCP.Opened.bytes_xr_iff (opened : Opened buf rtcp header data)
    (xr : packetType buf = ptXR) {chunks : List Bytes}
    (known : ∀ chunk ∈ chunks, IsBlock chunk)
    (blocks : data.drop 4 = chunks.flatten) :
    rtcp.bytes = .ok buf ↔
      reportCount buf = 1 ∨ (reportCount buf = 0 ∧ buf.length = 8) := by
  obtain ⟨enough, report, reportBytes, written⟩ := bytes_unpackXR known blocks
    (opened.xr xr) opened.packed opened.whole
  have length := opened.length
  have joined : buf.take 4 ++ data.take 4 ++ data.drop 4 = buf := by
    rw [List.append_assoc, List.take_append_drop, opened.split]
  have single := @reportBytes_single (cc header.versionPCcPt) (.xr report)
    (buf.take 4 ++ data.take 4) _ reportBytes
  rw [joined, opened.count] at single
  rw [written, opened.count, single, List.drop_eq_nil_iff]
  exact or_congr_right (and_congr_right fun _zero => by omega)

end

/-- One packet, of reports and blocks that are known, is written again as it was
exactly when nothing stands behind the blocks of a receiver report and an
extended report with blocks is counted once. -/
theorem rtcp_restored_iff {buf : Bytes} (packet : IsPacket buf)
    (report : IsReport buf) {rtcp : RTCP} (parsed : RTCP.parse buf = .ok rtcp) :
    rtcp.bytes = .ok buf ↔ Restorable buf := by
  obtain ⟨header, opened⟩ := RTCP.opened packet parsed
  unfold Restorable
  rcases report with sr | rr | ⟨xr, chunks, known, blocks⟩
  · exact iff_of_true (opened.bytes_sr sr) (Or.inl sr)
  · refine (opened.bytes_rr_iff rr).trans
      ⟨fun length => Or.inr (Or.inl ⟨rr, length⟩), ?_⟩
    rintro (sr | ⟨_rr, length⟩ | ⟨xr, _count⟩)
    · exact absurd (sr.symm.trans rr) (by decide)
    · exact length
    · exact absurd (xr.symm.trans rr) (by decide)
  · have behind : (buf.drop 4).drop 4 = chunks.flatten := by
      rw [List.drop_drop]
      exact blocks
    refine (opened.bytes_xr_iff xr known behind).trans
      ⟨fun count => Or.inr (Or.inr ⟨xr, count⟩), ?_⟩
    rintro (sr | ⟨rr, _length⟩ | ⟨_xr, count⟩)
    · exact absurd (sr.symm.trans xr) (by decide)
    · exact absurd (rr.symm.trans xr) (by decide)
    · exact count

/-- An extended report with one receiver reference time block, after the given
first byte. -/
def timeReport (first : UInt8) : Bytes :=
  [first, 207, 0, 4, 0, 0, 0, 1, 4, 0, 0, 2, 0xe6, 0xa2, 0x5f, 0xaa, 0, 0, 0, 0]

theorem timeReport_isReport {first : UInt8}
    (type : packetType (timeReport first) = ptXR) :
    IsReport (timeReport first) := by
  have block : IsBlock ((timeReport first).drop 8) := by
    change IsBlock [4, 0, 0, 2, 0xe6, 0xa2, 0x5f, 0xaa, 0, 0, 0, 0]
    decide
  refine Or.inr (Or.inr ⟨type, [(timeReport first).drop 8], ?_, ?_⟩)
  · intro chunk member
    rw [List.mem_singleton.mp member]
    exact block
  · exact (List.append_nil _).symm

/-- The count is one. -/
theorem rtcp_restored_iff_one :
    ∃ rtcp, RTCP.parse (timeReport 0x81) = .ok rtcp ∧
      (rtcp.bytes = .ok (timeReport 0x81) ↔ Restorable (timeReport 0x81)) := by
  have written : (do
      let rtcp ← RTCP.parse (timeReport 0x81)
      rtcp.bytes) = .ok (timeReport 0x81) := by
    decide +kernel
  obtain ⟨rtcp, parsed, _bytes⟩ := bind_eq_ok.mp written
  exact ⟨rtcp, parsed, rtcp_restored_iff (by decide)
    (timeReport_isReport (by decide)) parsed⟩

/-- The reserved bits are zero, and the block is not written. -/
theorem timeReport_dropped :
    ¬∀ (buf : Bytes) (rtcp : RTCP), IsPacket buf → IsReport buf →
      RTCP.parse buf = .ok rtcp → rtcp.bytes = .ok buf := by
  intro claimed
  have written : (do
      let rtcp ← RTCP.parse (timeReport 0x80)
      rtcp.bytes) = .ok [0x80, 207, 0, 4, 0, 0, 0, 1] := by
    decide +kernel
  obtain ⟨rtcp, parsed, shorter⟩ := bind_eq_ok.mp written
  have whole := claimed (timeReport 0x80) rtcp (by decide)
    (timeReport_isReport (by decide)) parsed
  rw [shorter] at whole
  cases whole

end DpktNg.Rtcp
