/-
The UDP checksum that `IP6.__bytes__` fills in.  It makes the datagram and the
pseudo-header sum up, but a computed checksum of zero is emitted as zero, which
over IPv6 stands for a missing one.
-/

import DpktNg.Inet.Ip6

namespace DpktNg.Inet

open Library

/-- The pseudo-header of an IPv6 packet: the addresses, the length in 32 bits
and the protocol. -/
def pseudoHeader6 (src dst : Bytes) (len p : Nat) : Bytes :=
  packString 16 src ++ packString 16 dst ++ beBytes 4 len ++ beBytes 4 p

def UDP.wire (self : UDP) : Bytes :=
  (self.fields.flatMap fun field => beBytes field.1 field.2) ++ self.data

/-- Serialising succeeds with a checksum that is there and that sums up. -/
def ValidUdpChecksum (ip6 : IP6 Transport) : Prop :=
  ∃ out next, ip6.bytes = .ok (out, next) ∧
    beNat (cut out 46 48) ≠ 0 ∧
    onesSum (pseudoHeader6 ip6.hdr.src ip6.hdr.dst (out.length - 40) 17 ++
      out.drop 40) = 0xffff

/-- A UDP datagram without a checksum behind a header without extensions. -/
structure IP6.AwaitsUdpChecksum (ip6 : IP6 Transport) (datagram : UDP) :
    Prop where
  noExtensions : ip6.allExtensionHeaders = []
  noDict : ip6.extensionHdrs = .empty
  nxt : ip6.hdr.nxt = ipProtoUdp
  isData : ip6.data = .udp datagram
  sum : datagram.sum = 0
  short : datagram.data.length ≤ 65527

/-- The layout that the code packs. -/
def packedPseudo6 (src dst : Bytes) (len p : Nat) : Bytes :=
  packString 16 src ++ packString 16 dst ++ [0] ++ beBytes 1 p ++ beBytes 2 len

@[simp] theorem packedPseudo6_length (src dst : Bytes) (len p : Nat) :
    (packedPseudo6 src dst len p).length = 36 := by
  simp [packedPseudo6]

@[simp] theorem pseudoHeader6_length (src dst : Bytes) (len p : Nat) :
    (pseudoHeader6 src dst len p).length = 40 := by
  simp [pseudoHeader6]

theorem beSum_pseudo6 (src dst : Bytes) {len p : Nat} (lenWord : len ≤ 0xffff)
    (pByte : p < 256) :
    beSum (pseudoHeader6 src dst len p) = beSum (packedPseudo6 src dst len p) := by
  have evenSrc : (packString 16 src).length % 2 = 0 := by
    rw [packString_length]
  have evenDst : (packString 16 dst).length % 2 = 0 := by
    rw [packString_length]
  have wide : beSum (beBytes 4 len ++ beBytes 4 p) = len + p := by
    simp only [beBytes, List.nil_append, List.cons_append, beSum, beWords,
      List.sum_cons, List.sum_nil, UInt8.toNat_ofNat']
    omega
  have narrow : beSum ([0] ++ (beBytes 1 p ++ beBytes 2 len)) = len + p := by
    simp only [beBytes, List.nil_append, List.cons_append, beSum, beWords,
      List.sum_cons, List.sum_nil, UInt8.toNat_ofNat']
    change 256 * 0 + _ + _ = _
    omega
  unfold pseudoHeader6 packedPseudo6
  simp only [List.append_assoc]
  rw [beSum_append evenSrc, beSum_append evenDst, wide, beSum_append evenSrc,
    beSum_append evenDst, narrow]

theorem onesSum_pseudo6 (src dst back : Bytes) {len p : Nat}
    (lenWord : len ≤ 0xffff) (pByte : p < 256) :
    onesSum (pseudoHeader6 src dst len p ++ back) = 0xffff ↔
      onesSum (packedPseudo6 src dst len p ++ back) = 0xffff := by
  rw [onesSum_eq_top_iff, onesSum_eq_top_iff,
    beSum_append (by rw [pseudoHeader6_length]),
    beSum_append (by rw [packedPseudo6_length]),
    beSum_pseudo6 src dst lenWord pByte]

theorem packPseudoHeader6_eq_ok_iff {src dst out : Bytes} {p len : Nat} :
    packPseudoHeader6 src dst p len = .ok out ↔
      FieldsFit [(1, p), (2, len)] ∧ out = packedPseudo6 src dst len p := by
  unfold packPseudoHeader6
  rw [wrapped_eq_ok_iff fun _numbers => packFields_eq_ok_iff]
  simp [packedPseudo6]

theorem UDP.bytes_eq_ok_iff {datagram : UDP} {out : Bytes} :
    datagram.bytes = .ok out ↔
      FieldsFit datagram.fields ∧ out = datagram.wire := by
  unfold UDP.bytes
  rw [wrapped_eq_ok_iff fun _numbers => packHdr_eq_ok_iff]
  rfl

/-- The sum that the code computes the checksum from. -/
def udpSum (ip6 : IP6 Transport) (datagram : UDP) : Nat :=
  inCksumAdd (inCksumAdd 0 (packedPseudo6 ip6.hdr.src ip6.hdr.dst
    datagram.wire.length 17)) datagram.wire

theorem UDP.wire_length (datagram : UDP) :
    datagram.wire.length = 8 + datagram.data.length := by
  unfold UDP.wire UDP.fields
  simp only [List.flatMap_cons, List.flatMap_nil, List.length_append,
    beBytes_length, List.length_nil]

def UDP.front (self : UDP) : Bytes :=
  beBytes 2 self.sport ++ beBytes 2 self.dport ++ beBytes 2 self.ulen

def UDP.setSum (self : UDP) (value : Nat) : UDP := { self with sum := value }

theorem UDP.wire_setSum (datagram : UDP) (sum : Nat) :
    (datagram.setSum sum).wire =
      datagram.front ++ beBytes 2 sum ++ datagram.data := by
  unfold UDP.wire UDP.fields UDP.front UDP.setSum
  simp only [List.flatMap_cons, List.flatMap_nil, List.append_assoc,
    List.nil_append]

section Emitted

variable {ip6 : IP6 Transport} {datagram : UDP}
  (awaits : ip6.AwaitsUdpChecksum datagram)

include awaits

theorem IP6.headersStr_udp : ip6.headersStr = .ok (17, []) := by
  unfold IP6.headersStr
  rw [awaits.noExtensions, awaits.noDict, awaits.nxt]
  rfl

theorem udpSum_lt : udpSum ip6 datagram < 0x100000000 := by
  have short := awaits.short
  have bound := leSum_bound (packedPseudo6 ip6.hdr.src ip6.hdr.dst
    datagram.wire.length 17)
  have boundWire := leSum_bound datagram.wire
  rw [packedPseudo6_length] at bound
  rw [UDP.wire_length] at boundWire
  unfold udpSum
  rw [inCksumAdd_eq, inCksumAdd_eq]
  omega

/-- Serialising succeeds exactly when the fields fit, and then it emits the
datagram with the computed checksum. -/
theorem IP6.bytes_udp_iff {out : Bytes} {next : IP6 Transport} :
    ip6.bytes = .ok (out, next) ↔
      (FieldsFit ip6.hdr.fields ∧ FieldsFit datagram.fields) ∧
        out = ip6.hdr.wire ++
          (datagram.setSum (inCksumDone (udpSum ip6 datagram))).wire ∧
        next = { ip6 with
          p := some 17
          data := .udp
            (datagram.setSum (inCksumDone (udpSum ip6 datagram))) } := by
  have applies : (17 = 6 ∨ 17 = 17 ∨ 17 = 58) ∧ ip6.data.sum? = some 0 := by
    refine ⟨by decide, ?_⟩
    rw [awaits.isData]
    exact congrArg some awaits.sum
  have lengthFits : FieldsFit [(1, 17), (2, datagram.wire.length)] := by
    have short := awaits.short
    simp only [FieldsFit, List.forall_mem_cons, UDP.wire_length]
    exact ⟨by decide, by omega, by simp⟩
  have refits : FieldsFit datagram.fields → FieldsFit
      (datagram.setSum (inCksumDone (udpSum ip6 datagram))).fields := by
    intro fits
    have word := inCksumDone_le (udpSum_lt awaits)
    simp only [FieldsFit, UDP.fields, UDP.setSum, List.forall_mem_cons]
      at fits ⊢
    exact ⟨fits.1, fits.2.1, fits.2.2.1, by omega, fits.2.2.2.2⟩
  -- what filling in the checksum amounts to
  have filling : ∀ self, IP6.fillTransport { ip6 with p := some 17 } 17 =
      .ok self ↔ FieldsFit datagram.fields ∧ self = { ip6 with
        p := some 17
        data := .udp
          (datagram.setSum (inCksumDone (udpSum ip6 datagram))) } := by
    intro self
    unfold IP6.fillTransport
    rw [if_pos applies, awaits.isData, bind_eq_ok]
    constructor
    · intro filled
      obtain ⟨wire, packedWire, filled⟩ := filled
      obtain ⟨pseudo, packedPseudo, done⟩ := bind_eq_ok.mp filled
      obtain ⟨fits, sameWire⟩ := UDP.bytes_eq_ok_iff.mp packedWire
      have samePseudo := (packPseudoHeader6_eq_ok_iff.mp packedPseudo).2
      rw [sameWire] at samePseudo done
      rw [samePseudo, Except.ok.injEq] at done
      exact ⟨fits, done.symm⟩
    · intro filled
      obtain ⟨fits, same⟩ := filled
      have pseudo : packPseudoHeader6 ip6.hdr.src ip6.hdr.dst 17
          datagram.wire.length = .ok (packedPseudo6 ip6.hdr.src ip6.hdr.dst
            datagram.wire.length 17) :=
        packPseudoHeader6_eq_ok_iff.mpr ⟨lengthFits, rfl⟩
      refine ⟨_, UDP.bytes_eq_ok_iff.mpr ⟨fits, rfl⟩, ?_⟩
      rw [pseudo, ok_bind, same]
      rfl
  unfold IP6.bytes
  rw [IP6.headersStr_udp awaits, ok_bind]
  dsimp only
  rw [bind_eq_ok]
  constructor
  · intro packed
    obtain ⟨self, filled, packed⟩ := packed
    obtain ⟨header, packedHeader, packed⟩ := bind_eq_ok.mp packed
    obtain ⟨data, packedData, done⟩ := bind_eq_ok.mp packed
    obtain ⟨fits, same⟩ := (filling self).mp filled
    rw [same] at packedHeader packedData done
    obtain ⟨fitsHdr, sameHeader⟩ := Ip6Hdr.bytes_eq_ok_iff.mp packedHeader
    obtain ⟨_fitsData, sameData⟩ := UDP.bytes_eq_ok_iff.mp packedData
    rw [Except.ok.injEq, Prod.mk.injEq, List.append_nil] at done
    refine ⟨⟨fitsHdr, fits⟩, ?_, done.2.symm⟩
    rw [← done.1, sameHeader, sameData]
  · intro emitted
    obtain ⟨⟨fitsHdr, fits⟩, same, sameNext⟩ := emitted
    refine ⟨next, (filling next).mpr ⟨fits, sameNext⟩, ?_⟩
    have header : next.hdr.bytes = .ok ip6.hdr.wire := by
      rw [sameNext]
      exact Ip6Hdr.bytes_eq_ok_iff.mpr ⟨fitsHdr, rfl⟩
    have data : next.data.bytes = .ok
        (datagram.setSum (inCksumDone (udpSum ip6 datagram))).wire := by
      rw [sameNext]
      exact UDP.bytes_eq_ok_iff.mpr ⟨refits fits, rfl⟩
    rw [header, ok_bind, data, ok_bind, List.append_nil, same]

end Emitted

theorem emitted_parts (hdr : Ip6Hdr) (datagram : UDP) {sum : Nat}
    (word : sum ≤ 0xffff) :
    beNat (cut (hdr.wire ++ (datagram.setSum sum).wire) 46 48) = sum ∧
      (hdr.wire ++ (datagram.setSum sum).wire).drop 40 =
        (datagram.setSum sum).wire ∧
      (hdr.wire ++ (datagram.setSum sum).wire).length - 40 =
        datagram.wire.length := by
  refine ⟨?_, ?_, ?_⟩
  · have field := cut_append (hdr.wire ++ datagram.front) (beBytes 2 sum)
      datagram.data
    have frontLength : (hdr.wire ++ datagram.front).length = 46 := by
      unfold UDP.front
      simp only [List.length_append, Ip6Hdr.wire_length, beBytes_length]
    rw [frontLength, beBytes_length] at field
    rw [UDP.wire_setSum]
    simp only [List.append_assoc] at field ⊢
    rw [field, beNat_beBytes (by omega)]
  · exact List.drop_left' (Ip6Hdr.wire_length hdr)
  · rw [List.length_append, Ip6Hdr.wire_length, UDP.wire_length,
      UDP.wire_length]
    change 40 + (8 + datagram.data.length) - 40 = _
    omega

/-- The emitted checksum is valid exactly when the fields fit and the datagram
does not sum up without one. -/
theorem ip6_udp_checksum_iff (ip6 : IP6 Transport) (datagram : UDP)
    (awaits : ip6.AwaitsUdpChecksum datagram) :
    ValidUdpChecksum ip6 ↔
      (FieldsFit ip6.hdr.fields ∧ FieldsFit datagram.fields) ∧
        onesSum (pseudoHeader6 ip6.hdr.src ip6.hdr.dst
          datagram.wire.length 17 ++ datagram.wire) ≠ 0xffff := by
  have small := udpSum_lt awaits
  have word := inCksumDone_le small
  have lengthWord : datagram.wire.length ≤ 0xffff := by
    have short := awaits.short
    rw [UDP.wire_length]
    omega
  have evenPseudo : (packedPseudo6 ip6.hdr.src ip6.hdr.dst
      datagram.wire.length 17).length % 2 = 0 := by
    rw [packedPseudo6_length]
  have added : udpSum ip6 datagram = leSum (packedPseudo6 ip6.hdr.src
      ip6.hdr.dst datagram.wire.length 17 ++ datagram.wire) := by
    unfold udpSum
    rw [inCksumAdd_eq, inCksumAdd_eq, Nat.zero_add, leSum_append evenPseudo]
  have layouts : ∀ back, _ := fun back => onesSum_pseudo6 ip6.hdr.src
    ip6.hdr.dst back lengthWord (show 17 < 256 by decide)
  rw [ne_eq, layouts, ← inCksumDone_eq_zero small added]
  obtain ⟨field, payload, length⟩ :=
    emitted_parts ip6.hdr datagram word
  constructor
  · intro valid
    obtain ⟨out, next, packed, nonzero, _sums⟩ := valid
    obtain ⟨fits, same, _next⟩ := (IP6.bytes_udp_iff awaits).mp packed
    rw [same, field] at nonzero
    exact ⟨fits, nonzero⟩
  · intro emitted
    obtain ⟨fits, nonzero⟩ := emitted
    refine ⟨_, _, (IP6.bytes_udp_iff awaits).mpr ⟨fits, rfl, rfl⟩, ?_, ?_⟩
    · rw [field]
      exact nonzero
    · have evenFront : (packedPseudo6 ip6.hdr.src ip6.hdr.dst
          datagram.wire.length 17 ++ datagram.front).length % 2 = 0 := by
        unfold UDP.front
        simp only [List.length_append, packedPseudo6_length, beBytes_length]
      have own : datagram.wire =
          datagram.front ++ beBytes 2 0 ++ datagram.data := by
        rw [← UDP.wire_setSum]
        unfold UDP.setSum
        rw [← awaits.sum]
      rw [payload, length, layouts, UDP.wire_setSum]
      simp only [← List.append_assoc]
      apply onesSum_completes evenFront small
      rw [added]
      nth_rewrite 2 [own]
      simp only [List.append_assoc]

/-- A datagram between two unspecified addresses whose checksum is zero. -/
def zeroSumDatagram6 : UDP := { sport := 1, dport := 0xffdd }

def zeroSumPacket6 : IP6 Transport :=
  { hdr :=
      { nxt := ipProtoUdp, plen := 8, src := zeros 16, dst := zeros 16 }
    data := .udp zeroSumDatagram6 }

theorem zeroSumPacket6_awaits :
    zeroSumPacket6.AwaitsUdpChecksum zeroSumDatagram6 where
  noExtensions := rfl
  noDict := rfl
  nxt := rfl
  isData := rfl
  sum := rfl
  short := by decide

theorem ip6_udp_checksum_iff_zeroSum :
    ValidUdpChecksum zeroSumPacket6 ↔
      (FieldsFit zeroSumPacket6.hdr.fields ∧
          FieldsFit zeroSumDatagram6.fields) ∧
        onesSum (pseudoHeader6 zeroSumPacket6.hdr.src zeroSumPacket6.hdr.dst
          zeroSumDatagram6.wire.length 17 ++ zeroSumDatagram6.wire) ≠ 0xffff :=
  ip6_udp_checksum_iff zeroSumPacket6 zeroSumDatagram6 zeroSumPacket6_awaits

/-- The fields of that packet fit, and still its checksum is emitted as zero. -/
theorem zero_checksum_emitted :
    ¬∀ (ip6 : IP6 Transport) (datagram : UDP),
      ip6.AwaitsUdpChecksum datagram →
      FieldsFit ip6.hdr.fields ∧ FieldsFit datagram.fields →
      ValidUdpChecksum ip6 := by
  intro valid
  obtain ⟨out, next, packed, nonzero, _sums⟩ := valid zeroSumPacket6
    zeroSumDatagram6 zeroSumPacket6_awaits (by decide)
  have emitted : (zeroSumPacket6.bytes.map fun result =>
      beNat (cut result.1 46 48)) = .ok 0 := by
    decide +kernel
  rw [packed] at emitted
  rw [Except.map, Except.ok.injEq] at emitted
  exact nonzero emitted

end DpktNg.Inet
