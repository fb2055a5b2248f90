/-
Frames of 802.3 with an LLC body that is not decoded further, and what
serialising them does to the bytes behind the body.
-/

import DpktNg.Link.EthernetBytes

namespace DpktNg.Link

open Library Inet

variable {Other : Type} {others : Others Other}
  {serialisers : Serialisers Other}
  {sub : Layer → Bytes → Except PyError (Carrier Other)}

/-- The service access points of a body let `LLC` leave the data as bytes. -/
def Undecoded (body : Bytes) : Prop :=
  ∃ dsap ssap ctl data, body = dsap :: ssap :: ctl :: data ∧
    dsap.toNat ∉ [0x06, 0x10, 0xe0, 0x42, 0xfe] ∧
    ¬(dsap.toNat = ssap.toNat ∧ ssap.toNat = 0xaa)

theorem sapData_undecoded {dsap : Nat}
    (notKnown : dsap ∉ [0x06, 0x10, 0xe0, 0x42, 0xfe]) (data : Bytes) :
    sapData others sub dsap data = .ok (.raw data) := by
  simp only [List.mem_cons, List.not_mem_nil, or_false, not_or] at notKnown
  obtain ⟨notIp, notNetware1, notNetware2, notStp, notIsis⟩ := notKnown
  unfold sapData
  rw [if_neg notIp, if_neg (not_or_intro notNetware1 notNetware2),
    if_neg notStp, if_neg notIsis]

theorem LLC.parse_undecoded {body : Bytes} (undecoded : Undecoded body) :
    ∃ llc, LLC.parse others sub body = .ok llc ∧
      llc.bytes serialisers = .ok body ∧
      llc.size serialisers = .ok body.length := by
  obtain ⟨dsap, ssap, ctl, data, same, notKnown, notSnap⟩ := undecoded
  have fields : unpackFields [1, 1, 1] [dsap, ssap, ctl] =
      .ok [dsap.toNat, ssap.toNat, ctl.toNat] := by
    unfold unpackFields
    rw [if_pos (show [dsap, ssap, ctl].length = [1, 1, 1].sum by rfl)]
    change Except.ok [beNat [dsap], beNat [ssap], beNat [ctl]] = _
    rw [beNat_singleton, beNat_singleton, beNat_singleton]
  have packed : DpktNg.packHdr
      [(1, dsap.toNat), (1, ssap.toNat), (1, ctl.toNat)] =
        .ok [dsap, ssap, ctl] := by
    apply packHdr_of_packFields
    exact packFields_of_unpackFields fields
  have header : takeHeader 3 body = .ok ([dsap, ssap, ctl], data) := by
    rw [same]
    exact @takeHeader_append 3 [dsap, ssap, ctl] data rfl
  have unpacked : LLC.unpack others sub body =
      .ok { dsap := dsap.toNat, ssap := ssap.toNat, ctl := ctl.toNat,
            data := .raw data } := by
    unfold LLC.unpack
    rw [header, ok_bind]
    dsimp only
    rw [fields, ok_bind]
    dsimp only
    rw [if_neg notSnap, sapData_undecoded notKnown, ok_bind]
  refine ⟨_, packetInit_eq_ok.mpr unpacked, ?_, ?_⟩
  · unfold LLC.bytes LLC.packHdr LLC.isSnap
    dsimp only
    rw [packed, ok_bind, if_neg (by rw [decide_eq_true_iff]; exact notSnap),
      ok_bind, serialisers.bytes_raw, ok_bind, same]
    rfl
  · unfold LLC.size LLC.isSnap
    dsimp only
    rw [if_neg (by rw [decide_eq_true_iff]; exact notSnap),
      serialisers.size_raw, ok_bind, same, List.length_cons, List.length_cons,
      List.length_cons]
    congr 1
    omega

def lengthField (buf : Bytes) : Nat := beNat (cut buf 12 14)

/-- A frame that is read as an 802.3 one with such a body. -/
structure CarriesLlc (buf : Bytes) : Prop where
  body : 3 ≤ lengthField buf
  isLength : lengthField buf ≤ 1500
  notIsl : isIslAddress (cut buf 0 6) = false
  notNovell : cut buf 14 16 ≠ [0xff, 0xff]
  complete : 14 + lengthField buf ≤ buf.length
  undecoded : Undecoded (cut buf 14 (14 + lengthField buf))

/-- Where the FCS is looked for: behind the body, and behind padding if that is
zero throughout. -/
def fcsOffset (buf : Bytes) : Nat :=
  if (buf.drop (14 + lengthField buf)).length > 4 ∧ lengthField buf < 46 ∧
      cut buf (14 + lengthField buf) 60 = zeros (46 - lengthField buf) then 60
  else 14 + lengthField buf

/-- The four bytes there are not all zero, or they are the check value. -/
def FcsKept (buf : Bytes) : Prop :=
  cut buf (fcsOffset buf) (fcsOffset buf + 4) = zeros 4 →
    crc32 (buf.take (fcsOffset buf)) = 0

instance (buf : Bytes) : Decidable (FcsKept buf) :=
  inferInstanceAs (Decidable (_ → _))

/-- What a frame is written as: a zero FCS is filled in. -/
def writtenFrame (buf : Bytes) : Bytes :=
  if cut buf (fcsOffset buf) (fcsOffset buf + 4) = zeros 4 then
    buf.take (fcsOffset buf) ++
      (beBytes 4 (crc32 (buf.take (fcsOffset buf)))).reverse ++
      buf.drop (fcsOffset buf + 4)
  else buf

theorem fcs_split {buf padding : Bytes} {off : Nat} :
    (if (buf.drop off).length ≥ 4 then
      (padding, some (beNat ((buf.drop off).take 4)), (buf.drop off).drop 4)
    else (padding, none, buf.drop off)) =
      (padding,
        if off + 4 ≤ buf.length then some (beNat (cut buf off (off + 4)))
        else none,
        if off + 4 ≤ buf.length then buf.drop (off + 4) else buf.drop off) := by
  have field : (buf.drop off).take 4 = cut buf off (off + 4) := by
    unfold cut
    rw [Nat.add_sub_cancel_left]
  rw [List.length_drop, List.drop_drop, field]
  by_cases whole : off + 4 ≤ buf.length
  · rw [if_pos (by omega), if_pos whole, if_pos whole]
  · rw [if_neg (by omega), if_neg whole, if_neg whole]

theorem splitTail_eq (buf : Bytes) :
    splitTail (lengthField buf) (buf.drop (14 + lengthField buf)) =
      (cut buf (14 + lengthField buf) (fcsOffset buf),
        if fcsOffset buf + 4 ≤ buf.length then
          some (beNat (cut buf (fcsOffset buf) (fcsOffset buf + 4)))
        else none,
        if fcsOffset buf + 4 ≤ buf.length then buf.drop (fcsOffset buf + 4)
        else buf.drop (fcsOffset buf)) := by
  have pad : (buf.drop (14 + lengthField buf)).take (46 - lengthField buf) =
      cut buf (14 + lengthField buf) 60 := by
    unfold cut
    congr 1
    omega
  unfold splitTail fcsOffset
  dsimp only
  rw [pad]
  by_cases padded : (buf.drop (14 + lengthField buf)).length > 4 ∧
      lengthField buf < 46 ∧
      cut buf (14 + lengthField buf) 60 = zeros (46 - lengthField buf)
  · have behind : (buf.drop (14 + lengthField buf)).drop
        (46 - lengthField buf) = buf.drop 60 := by
      rw [List.drop_drop]
      congr 1
      omega
    rw [if_pos padded, if_pos padded, behind]
    exact fcs_split
  · have none_cut : cut buf (14 + lengthField buf) (14 + lengthField buf) =
        [] := by
      unfold cut
      rw [Nat.sub_self, List.take_zero]
    rw [if_neg padded, if_neg padded, none_cut]
    exact fcs_split

def llcEthernet (buf : Bytes) (llc : LLC (Packet Other)) :
    Ethernet (Packet Other) :=
  { dst := cut buf 0 6
    src := cut buf 6 12
    type := lengthField buf
    padding := cut buf (14 + lengthField buf) (fcsOffset buf)
    fcs :=
      if fcsOffset buf + 4 ≤ buf.length then
        some (beNat (cut buf (fcsOffset buf) (fcsOffset buf + 4)))
      else none
    trailer :=
      if fcsOffset buf + 4 ≤ buf.length then buf.drop (fcsOffset buf + 4)
      else buf.drop (fcsOffset buf)
    data := .llc llc }

theorem parse_llcFrame {buf : Bytes} (frame : CarriesLlc buf) :
    ∃ llc, parseFrame others buf = .ok (llcEthernet buf llc) ∧
      llc.bytes serialisers = .ok (cut buf 14 (14 + lengthField buf)) ∧
      llc.size serialisers = .ok (lengthField buf) := by
  have complete := frame.complete
  have positive := frame.body
  obtain ⟨llc, parsed, bytes, size⟩ :=
    @LLC.parse_undecoded Other others serialisers (Layer.parse others) _
      frame.undecoded
  rw [cut_length_of_le complete, Nat.add_sub_cancel_left] at size
  refine ⟨llc, ?_, bytes, size⟩
  have body : (buf.drop 14).take (lengthField buf) =
      cut buf 14 (14 + lengthField buf) := by
    unfold cut
    rw [Nat.add_sub_cancel_left]
  have notLong : ¬lengthField buf > 1500 := by
    have bound := frame.isLength
    omega
  have notZero : ¬lengthField buf = 0 := by omega
  have notIsl : ¬isIslAddress (cut buf 0 6) = true := by
    rw [frame.notIsl]
    decide
  have unpacked : Ethernet.unpack others (Layer.parse others)
      { data := .raw [] } buf = .ok (llcEthernet buf llc) := by
    rw [Ethernet.unpack, dif_neg (by omega)]
    unfold Ethernet.setHdr
    dsimp only
    change (if lengthField buf > 1500 then _ else _) = _
    rw [if_neg notLong, if_neg notIsl]
    unfold Ethernet.unpackLength
    dsimp only
    rw [if_neg (show ¬(buf.drop 14).take 2 = [0xff, 0xff] from
      frame.notNovell)]
    rw [show beNat (cut buf 12 14) = lengthField buf from rfl,
      if_neg notZero, List.drop_drop, splitTail_eq, body, parsed, ok_bind]
    rfl
  unfold parseFrame Ethernet.parse
  rw [packetInit_eq_ok.mpr unpacked, ok_bind]
  rfl

theorem fcsOffset_bounds {buf : Bytes} (frame : CarriesLlc buf) :
    14 + lengthField buf ≤ fcsOffset buf ∧ fcsOffset buf ≤ buf.length := by
  have complete := frame.complete
  unfold fcsOffset
  split
  · rename_i padded
    have whole := congrArg List.length padded.2.2
    rw [zeros_length] at whole
    unfold cut at whole
    rw [List.length_take, List.length_drop] at whole
    omega
  · omega

theorem packString_cut {buf : Bytes} {start : Nat}
    (within : start + 6 ≤ buf.length) :
    packString 6 (cut buf start (start + 6)) = cut buf start (start + 6) := by
  apply packString_exact
  rw [cut_length_of_le within, Nat.add_sub_cancel_left]

theorem packHdr_llcFrame {buf : Bytes} (frame : CarriesLlc buf)
    {llc : LLC (Packet Other)}
    (size : llc.size serialisers = .ok (lengthField buf)) :
    (llcEthernet buf llc).packHdr serialisers = .ok (buf.take 14) := by
  have complete := frame.complete
  have width : (cut buf 12 14).length = 2 := by
    rw [cut_length_of_le (by omega)]
  have own : packHdr [(2, lengthField buf)] = .ok (cut buf 12 14) := by
    apply packHdr_of_packFields
    rw [packFields, packFields]
    unfold lengthField
    rw [packBe_beNat width, ok_bind, ok_bind, List.append_nil]
  have typeField : packBe 2 (lengthField buf) = .ok (cut buf 12 14) :=
    packBe_beNat width
  have tags : ∃ type, (llcEthernet buf llc).packTags serialisers =
      .ok ([], type, false) := ⟨_, rfl⟩
  obtain ⟨type, tags⟩ := tags
  have dst := @packString_cut buf 0 (by omega)
  have src := @packString_cut buf 6 (by omega)
  unfold Ethernet.packHdr
  rw [tags, ok_bind]
  change (llc.size serialisers >>= fun newType =>
    packHdr [(2, lengthField buf)] >>= fun _own =>
      packBe 2 newType >>= fun type =>
        Except.ok (packString 6 (cut buf 0 (0 + 6)) ++
          packString 6 (cut buf 6 (6 + 6)) ++ type ++ [])) = _
  rw [size, ok_bind, own, ok_bind, typeField, ok_bind, dst, src,
    List.append_nil, cut_append_cut buf (by omega) (by omega),
    cut_append_cut buf (by omega) (by omega)]
  rfl

theorem beNat_eq_zero {bytes : Bytes} :
    beNat bytes = 0 ↔ bytes = zeros bytes.length := by
  have zeros_value : ∀ count, beNat (zeros count) = 0 := by
    intro count
    induction count with
    | zero => rfl
    | succ count ih =>
        have step : zeros (count + 1) = zeros count ++ [0] :=
          List.replicate_succ'
        rw [step, beNat_snoc, ih]
        rfl
  constructor
  · intro zero
    have again := beBytes_beNat bytes
    have blank := beBytes_beNat (zeros bytes.length)
    rw [zeros_length, zeros_value] at blank
    rw [zero, blank] at again
    exact again.symm
  · intro blank
    rw [blank]
    exact zeros_value _

theorem writtenTail {buf : Bytes} {llc : LLC (Packet Other)}
    (crcBuf : (llcEthernet buf llc).fcsBuf serialisers =
      .ok (buf.take (fcsOffset buf))) :
    ∃ fcs, (llcEthernet buf llc).writtenFcs serialisers = .ok fcs ∧
      buf.take (fcsOffset buf) ++ (fcs ++ (llcEthernet buf llc).trailer) =
        writtenFrame buf := by
  unfold writtenFrame
  by_cases whole : fcsOffset buf + 4 ≤ buf.length
  · have width : (cut buf (fcsOffset buf) (fcsOffset buf + 4)).length = 4 := by
      rw [cut_length_of_le whole, Nat.add_sub_cancel_left]
    have present : (llcEthernet buf llc).fcs =
        some (beNat (cut buf (fcsOffset buf) (fcsOffset buf + 4))) :=
      if_pos whole
    have behind : (llcEthernet buf llc).trailer =
        buf.drop (fcsOffset buf + 4) := if_pos whole
    have blank := @beNat_eq_zero
      (cut buf (fcsOffset buf) (fcsOffset buf + 4))
    rw [width] at blank
    unfold Ethernet.writtenFcs
    rw [present, behind]
    dsimp only
    by_cases zero : beNat (cut buf (fcsOffset buf) (fcsOffset buf + 4)) = 0
    · rw [if_neg (not_not_intro zero), if_pos (blank.mp zero), crcBuf, ok_bind]
      exact ⟨_, rfl, (List.append_assoc _ _ _).symm⟩
    · rw [if_pos zero, if_neg (fun same => zero (blank.mpr same)),
        packBe_beNat width]
      refine ⟨_, rfl, ?_⟩
      rw [cut_append_drop buf (by omega), List.take_append_drop]
  · have absent : (llcEthernet buf llc).fcs = none := if_neg whole
    have behind : (llcEthernet buf llc).trailer = buf.drop (fcsOffset buf) :=
      if_neg whole
    have short : ¬cut buf (fcsOffset buf) (fcsOffset buf + 4) = zeros 4 := by
      intro same
      have lengths := congrArg List.length same
      rw [zeros_length] at lengths
      unfold cut at lengths
      rw [List.length_take, List.length_drop] at lengths
      omega
    unfold Ethernet.writtenFcs
    rw [absent, behind, if_neg short]
    exact ⟨[], rfl, List.take_append_drop _ _⟩

/-- The frame comes back, apart from a zero FCS. -/
theorem bytes_llcFrame {buf : Bytes} (frame : CarriesLlc buf)
    {llc : LLC (Packet Other)}
    (bytes : llc.bytes serialisers = .ok (cut buf 14 (14 + lengthField buf)))
    (size : llc.size serialisers = .ok (lengthField buf)) :
    (llcEthernet buf llc).bytes serialisers = .ok (writtenFrame buf) := by
  obtain ⟨behindBody, within⟩ := fcsOffset_bounds frame
  have header := packHdr_llcFrame frame size
  have front : buf.take 14 ++ cut buf 14 (14 + lengthField buf) ++
      cut buf (14 + lengthField buf) (fcsOffset buf) =
        buf.take (fcsOffset buf) := by
    rw [take_append_cut (by omega), take_append_cut behindBody]
  have crcBuf : (llcEthernet buf llc).fcsBuf serialisers =
      .ok (buf.take (fcsOffset buf)) := by
    unfold Ethernet.fcsBuf
    rw [header, ok_bind]
    change (llc.bytes serialisers >>= fun data => Except.ok
      (buf.take 14 ++ data ++
        cut buf (14 + lengthField buf) (fcsOffset buf))) = _
    rw [bytes, ok_bind, front]
  obtain ⟨fcs, written, joined⟩ := writtenTail crcBuf
  have data : dataBytes serialisers (llcEthernet buf llc).data =
      .ok (cut buf 14 (14 + lengthField buf)) := bytes
  unfold Ethernet.bytes
  change ((llcEthernet buf llc).writtenFcs serialisers >>= fun fcs =>
    Except.ok ((llcEthernet buf llc).padding ++ fcs ++
      (llcEthernet buf llc).trailer)) >>= _ = _
  rw [written, ok_bind, ok_bind, header, ok_bind, data, ok_bind, ← joined,
    ← front]
  simp only [List.append_assoc]
  rfl

theorem filledFcs_iff (buf : Bytes) :
    (beBytes 4 (crc32 buf)).reverse = zeros 4 ↔ crc32 buf = 0 := by
  have word : crc32 buf < 256 ^ 4 := crc32_lt buf
  constructor
  · intro blank
    have forwards := congrArg List.reverse blank
    rw [List.reverse_reverse] at forwards
    have value := congrArg beNat forwards
    rw [beNat_beBytes word] at value
    exact value
  · intro zero
    rw [zero]
    rfl

theorem writtenFrame_iff (buf : Bytes) :
    writtenFrame buf = buf ↔ FcsKept buf := by
  unfold writtenFrame FcsKept
  by_cases blank : cut buf (fcsOffset buf) (fcsOffset buf + 4) = zeros 4
  · have whole : buf.take (fcsOffset buf) ++ zeros 4 ++
        buf.drop (fcsOffset buf + 4) = buf := by
      rw [← blank, take_append_cut (by omega), List.take_append_drop]
    rw [if_pos blank]
    constructor
    · intro same _blank
      have split := same.trans whole.symm
      rw [List.append_left_inj, List.append_right_inj] at split
      exact (filledFcs_iff _).mp split
    · intro kept
      rw [(filledFcs_iff _).mpr (kept blank)]
      exact whole
  · rw [if_neg blank]
    exact iff_of_true rfl (fun same => absurd same blank)

/-- `Ethernet(buf)` succeeds, and its bytes are those of the buffer. -/
def LlcRestored (others : Others Other) (serialisers : Serialisers Other)
    (buf : Bytes) : Prop :=
  ∃ eth, parseFrame others buf = .ok eth ∧ eth.bytes serialisers = .ok buf

theorem restored_iff_written {buf : Bytes} (frame : CarriesLlc buf) :
    LlcRestored others serialisers buf ↔ writtenFrame buf = buf := by
  obtain ⟨llc, parsed, bytes, size⟩ :=
    @parse_llcFrame Other others serialisers buf frame
  unfold LlcRestored
  constructor
  · rintro ⟨eth, again, same⟩
    rw [parsed, Except.ok.injEq] at again
    rw [← again, bytes_llcFrame frame bytes size, Except.ok.injEq] at same
    exact same
  · intro same
    refine ⟨_, parsed, ?_⟩
    rw [bytes_llcFrame frame bytes size, same]

/-- Padding, FCS and trailer come back, except that an FCS of zero is replaced
by the check value. -/
theorem llc_frame_bytes (others : Others Other)
    (serialisers : Serialisers Other) (buf : Bytes) (frame : CarriesLlc buf) :
    ∃ eth, parseFrame others buf = .ok eth ∧
      eth.bytes serialisers = .ok (writtenFrame buf) := by
  obtain ⟨llc, parsed, bytes, size⟩ :=
    @parse_llcFrame Other others serialisers buf frame
  exact ⟨_, parsed, bytes_llcFrame frame bytes size⟩

theorem restored_iff {buf : Bytes} (frame : CarriesLlc buf) :
    LlcRestored others serialisers buf ↔ FcsKept buf := by
  rw [restored_iff_written frame, writtenFrame_iff]

/-- A body of three bytes, and what is behind it. -/
def shortFrame (tail : Bytes) : Bytes := zeros 13 ++ [3, 4, 4, 3] ++ tail

theorem shortFrame_carriesLlc (tail : Bytes) : CarriesLlc (shortFrame tail) where
  body := Nat.le_refl 3
  isLength := by
    change 3 ≤ 1500
    decide
  notIsl := rfl
  notNovell := by
    change ([4, 4] : Bytes) ≠ [0xff, 0xff]
    decide
  complete := by
    change 17 ≤ (zeros 13 ++ [3, 4, 4, 3] ++ tail).length
    rw [List.length_append]
    exact Nat.le_add_right 17 tail.length
  undecoded := ⟨4, 4, 3, [], rfl, by decide, by decide⟩

theorem shortFrame_bytes :
    ∃ eth, parseFrame noOthers (shortFrame [0, 0, 0, 0]) = .ok eth ∧
      eth.bytes rawSerialisers =
        .ok (writtenFrame (shortFrame [0, 0, 0, 0])) :=
  llc_frame_bytes noOthers rawSerialisers _ (shortFrame_carriesLlc _)

theorem zero_fcs_filled_in :
    ¬∀ buf, CarriesLlc buf → LlcRestored noOthers rawSerialisers buf := by
  intro always
  have kept := (restored_iff (shortFrame_carriesLlc [0, 0, 0, 0])).mp
    (always _ (shortFrame_carriesLlc [0, 0, 0, 0])) rfl
  exact absurd kept (by decide +kernel)

end DpktNg.Link
