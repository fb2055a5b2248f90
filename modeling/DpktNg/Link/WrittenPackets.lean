/-
IPv4 packets as `IP.__bytes__` writes them, read back by `IP`: the packet comes
back as the call left it, with its length and its checksums filled in.
-/

import DpktNg.Link.EthernetBytes

namespace DpktNg.Link

open Library Inet

/-- The header says how long it is, and how long the packet with the data. -/
structure Heads (hdr : IpHdr) (data : Bytes) : Prop where
  fits : FieldsFit hdr.fields
  srcLength : hdr.src.length = 4
  dstLength : hdr.dst.length = 4
  words : headerLength hdr.vHl = 20 + hdr.opts.length
  len : hdr.len = 20 + hdr.opts.length + data.length

/-- The header as it is written, with what follows it. -/
def headed (hdr : IpHdr) (data : Bytes) : Bytes :=
  hdr.front ++ beBytes 2 hdr.sum ++ hdr.back ++ data

theorem headed_length (hdr : IpHdr) :
    (hdr.front ++ beBytes 2 hdr.sum ++ hdr.back).length =
      20 + hdr.opts.length := by
  simp only [List.length_append, IpHdr.front_length, beBytes_length,
    IpHdr.back_length]
  omega

namespace Heads

variable {hdr : IpHdr} {data : Bytes} (heads : Heads hdr data)

include heads

theorem headerLength :
    ipHeaderLength (headed hdr data) = 20 + hdr.opts.length := by
  have vHl : hdr.vHl < 256 ^ 1 := heads.fits (1, hdr.vHl) List.mem_cons_self
  unfold ipHeaderLength headed IpHdr.front
  simp only [List.append_assoc]
  rw [cut_beBytes, beNat_beBytes vHl, heads.words]

theorem ipHdr : Inet.ipHdr (headed hdr data) = hdr := by
  have length := heads.headerLength
  obtain ⟨fits, srcLength, dstLength, _words, _len⟩ := heads
  simp only [FieldsFit, IpHdr.fields, List.forall_mem_cons] at fits
  obtain ⟨vHl, tos, len, id, flagsOffset, ttl, p, sum, _nothing⟩ := fits
  have optsEnd : 20 + hdr.opts.length - 1 - 1 - 2 - 2 - 2 - 1 - 1 - 2 - 4 - 4 =
      hdr.opts.length := by omega
  obtain ⟨⟩ := hdr
  unfold Inet.ipHdr ipLen
  rw [length]
  unfold headed IpHdr.front IpHdr.back
  dsimp only at *
  rw [packString_exact srcLength, packString_exact dstLength]
  simp only [List.append_assoc, IpHdr.mk.injEq]
  simp (disch := omega) only [cut_behind_beBytes, cut_beBytes, beNat_beBytes,
    Nat.reduceSub, true_and]
  rw [cut_front srcLength, cut_behind srcLength (by decide),
    cut_behind srcLength (by decide), cut_front dstLength,
    cut_behind dstLength (by decide), optsEnd, cut_front rfl]
  exact ⟨rfl, rfl, rfl⟩

theorem length : (headed hdr data).length = hdr.len := by
  unfold headed
  rw [List.length_append, headed_length, heads.len]

theorem payload : ipPayload (headed hdr data) = data := by
  have same : ipLen (headed hdr data) = hdr.len :=
    congrArg IpHdr.len heads.ipHdr
  have len := heads.len
  unfold ipPayload
  rw [same, heads.headerLength, if_pos (by omega), len]
  unfold headed
  rw [cut_behind (headed_length hdr) (Nat.le_refl _), Nat.sub_self,
    Nat.add_sub_cancel_left]
  unfold cut
  rw [List.drop_zero, Nat.sub_zero, List.take_length]

end Heads

theorem TCP.parse_bytes {segment : TCP}
    (whole : TCP.headerLength segment.offFlags = 20 + segment.opts.length)
    {out : Bytes} (packed : segment.bytes = .ok out) :
    TCP.parse out = .ok segment := by
  obtain ⟨header, packedHeader, done⟩ := bind_eq_ok.mp packed
  rw [Except.ok.injEq] at done
  obtain ⟨fits, same⟩ := packHdr_eq_ok_iff.mp packedHeader
  have fields := packFields_eq_ok_iff.mpr ⟨fits, same⟩
  have length : header.length = 20 := packFields_length fields
  have values : unpackFields [2, 2, 4, 4, 2, 2, 2, 2] header =
      .ok [segment.sport, segment.dport, segment.seq, segment.ack,
        segment.offFlags, segment.win, segment.sum, segment.urp] :=
    unpackFields_packFields fields
  refine packetInit_eq_ok.mpr ?_
  rw [← done, List.append_assoc]
  unfold TCP.unpack
  rw [takeHeader_append 20 length, ok_bind]
  dsimp only
  rw [values, ok_bind]
  dsimp only
  rw [if_neg (by omega), whole, cut_behind length (Nat.le_refl _),
    drop_behind length (by omega), Nat.sub_self, Nat.add_sub_cancel_left,
    cut_front rfl, List.drop_left]

theorem UDP.parse_bytes {datagram : UDP} {out : Bytes}
    (packed : datagram.bytes = .ok out) : UDP.parse out = .ok datagram := by
  obtain ⟨header, packedHeader, done⟩ := bind_eq_ok.mp packed
  rw [Except.ok.injEq] at done
  obtain ⟨fits, same⟩ := packHdr_eq_ok_iff.mp packedHeader
  have fields := packFields_eq_ok_iff.mpr ⟨fits, same⟩
  have length : header.length = 8 := packFields_length fields
  have values := unpackFields_packFields fields
  refine packetInit_eq_ok.mpr ?_
  rw [← done]
  unfold UDP.unpack
  rw [takeHeader_append 8 length, ok_bind]
  dsimp only
  rw [show unpackFields [2, 2, 2, 2] header = _ from values, ok_bind]
  rfl

section Packets

variable {Other : Type} {others : Others Other}
  {sub : Layer → Bytes → Except PyError (Carrier Other)}

def packetOf : Transport → Packet Other
  | .raw bytes => .raw bytes
  | .tcp segment => .tcp segment
  | .udp datagram => .udp datagram

/-- The data belongs to the protocol: bytes to one without a class, and a
segment says where its data begins. -/
def Carries (others : Others Other)
    (sub : Layer → Bytes → Except PyError (Carrier Other)) (p : Nat) :
    Transport → Prop
  | .raw _ => protosw others sub p = none
  | .tcp segment => p = ipProtoTcp ∧
      TCP.headerLength segment.offFlags = 20 + segment.opts.length
  | .udp _ => p = ipProtoUdp

theorem Carries.setSum {p : Nat} {data : Transport}
    (carries : Carries others sub p data) (value : Nat) :
    Carries others sub p (data.setSum value) := by
  cases data with
  | raw bytes => exact carries
  | tcp segment => exact carries
  | udp datagram => exact carries

theorem Carries.decode {p : Nat} {data : Transport}
    (carries : Carries others sub p data) {out : Bytes}
    (packed : data.bytes = .ok out) :
    (protoUpper others sub).decode (some p) out = .ok (packetOf data) := by
  cases data with
  | raw bytes =>
      have none : (some p).bind (protoUpper others sub).protosw = none :=
        carries
      unfold Upper.decode
      rw [none, ← Except.ok.inj packed]
      rfl
  | tcp segment =>
      obtain ⟨rfl, whole⟩ := carries
      refine Upper.decode_registered parseTcp rfl ?_
      unfold parseTcp
      rw [TCP.parse_bytes whole packed, ok_bind]
      rfl
  | udp datagram =>
      have udp : p = ipProtoUdp := carries
      rw [udp]
      refine Upper.decode_registered parseUdp rfl ?_
      unfold parseUdp
      rw [UDP.parse_bytes packed, ok_bind]
      rfl

/-- A packet that `bytes` can write and that is not a later fragment. -/
structure Sendable (ip : IP) : Prop extends IP.Ready ip where
  fits : FieldsFit ip.hdr.fields
  dataFits : FieldsFit ip.data.fields
  srcLength : ip.hdr.src.length = 4
  dstLength : ip.hdr.dst.length = 4
  first : ip.hdr.offset = 0

theorem fillTransport_data {ip next : IP}
    (filled : ip.fillTransport = .ok next) :
    next.data = ip.data ∨ ∃ value, next.data = ip.data.setSum value := by
  unfold IP.fillTransport at filled
  split at filled
  · obtain ⟨p, _packed, filled⟩ := bind_eq_ok.mp filled
    obtain ⟨pseudo, _packedPseudo, done⟩ := bind_eq_ok.mp filled
    rw [← Except.ok.inj done]
    exact Or.inr ⟨_, rfl⟩
  · rw [← Except.ok.inj filled]
    exact Or.inl rfl

/-- A packet without checksums is written with a header that says what it is,
and otherwise as it was. -/
theorem Sendable.written {ip : IP} (sendable : Sendable ip) :
    ∃ next data, ip.bytes = .ok (headed next.hdr data, next) ∧
      next.data.bytes = .ok data ∧ Heads next.hdr data ∧
      (∃ len sum, next.hdr = (ip.hdr.setLen len).setSum sum) ∧
      (next.data = ip.data ∨ ∃ sum, next.data = ip.data.setSum sum) := by
  obtain ⟨out, next, written⟩ := IP.bytes_ok sendable.sum sendable.total
    sendable.optionLength sendable.fits sendable.dataFits
  obtain ⟨self, prepared, packed⟩ := bind_eq_ok.mp written
  obtain ⟨header, packedHeader, packed⟩ := bind_eq_ok.mp packed
  obtain ⟨data, packedData, done⟩ := bind_eq_ok.mp packed
  rw [Except.ok.injEq, Prod.mk.injEq] at done
  rw [done.2] at prepared packedHeader packedData
  obtain ⟨_unsummed, _packedUnsummed, sameHeader, sameSize, filled⟩ :=
    IP.prepare_eq_ok sendable.sum prepared
  have sameData := fillTransport_data filled
  obtain ⟨fits, headerBytes⟩ := IpHdr.bytes_eq_ok_iff.mp packedHeader
  have whole : out = headed next.hdr data := by
    rw [← done.1, headerBytes]
    rfl
  refine ⟨next, data, ?_, packedData,
    { fits, srcLength := ?_, dstLength := ?_, words := ?_, len := ?_ },
    ⟨_, _, sameHeader⟩, sameData⟩
  · rw [written, whole]
  · rw [sameHeader]
    exact sendable.srcLength
  · rw [sameHeader]
    exact sendable.dstLength
  · have multiple := sendable.optionWords
    have field := sendable.headerLength
    rw [sameHeader]
    change ip.hdr.vHl % 16 * 4 = 20 + ip.hdr.opts.length
    omega
  · rw [Transport.bytes_length packedData, sameHeader]
    change ip.size = 20 + ip.hdr.opts.length + next.data.size
    rw [← sameSize]
    unfold IP.size
    rw [sameHeader]
    rfl

/-- A packet without checksums is written, and read back as the packet that the
call leaves, which is written as the same bytes. -/
theorem ip_bytes_read {ip : IP} (sendable : Sendable ip)
    (own : Carries others sub ip.hdr.p ip.data) :
    ∃ out next, ip.bytes = .ok (out, next) ∧
      ParsedIP.parse (protoUpper others sub) out =
        .ok { hdr := next.hdr, data := packetOf next.data } ∧
      next.bytes = .ok (out, next) ∧ next.hdr.len = out.length ∧
      (∃ len sum, next.hdr = (ip.hdr.setLen len).setSum sum) ∧
      (next.data = ip.data ∨ ∃ sum, next.data = ip.data.setSum sum) := by
  obtain ⟨next, data, written, packed, heads, sameHeader, sameData⟩ :=
    sendable.written
  refine ⟨_, next, written, ?_, IP.bytes_again written, heads.length.symm,
    sameHeader, sameData⟩
  obtain ⟨len, sum, header⟩ := sameHeader
  have carries : Carries others sub next.hdr.p next.data := by
    rw [header]
    rcases sameData with same | ⟨value, same⟩
    · rw [same]
      exact own
    · rw [same]
      exact own.setSum value
  have first : next.hdr.offset = 0 := by
    rw [header]
    exact sendable.first
  have enough := heads.len
  refine packetInit_eq_ok.mpr ?_
  rw [ParsedIP.unpack_eq, heads.ipHdr, heads.headerLength, heads.payload,
    heads.length, if_neg (by omega), if_neg (by omega)]
  unfold Upper.dataOfIp
  rw [if_pos first, carries.decode packed, ok_bind]

/-- A datagram with a checksum still to be computed. -/
theorem ip_bytes_read_datagram :
    ∃ out next, zeroSumDatagram.bytes = .ok (out, next) ∧
      ParsedIP.parse (protoUpper noOthers (Layer.parse noOthers)) out =
        .ok { hdr := next.hdr, data := packetOf next.data } := by
  have sendable : Sendable zeroSumDatagram :=
    { sum := rfl, optionWords := rfl, optionLength := by decide
      headerLength := rfl, transport := ⟨rfl, rfl⟩, total := by decide
      fits := by decide, dataFits := by decide, srcLength := rfl
      dstLength := rfl, first := rfl }
  obtain ⟨out, next, written, read, _rest⟩ := ip_bytes_read sendable rfl
  exact ⟨out, next, written, read⟩

end Packets

def transportOf : Packet Empty → Option Transport
  | .raw bytes => some (.raw bytes)
  | .tcp segment => some (.tcp segment)
  | .udp datagram => some (.udp datagram)
  | _ => none

def ipBytes : Packet Empty → Except PyError Bytes
  | .raw data => .ok data
  | .ip packet =>
      match transportOf packet.data with
      | some data => do
          let (out, _) ← IP.bytes { hdr := packet.hdr, data }
          .ok out
      | none => .error .typeError
  | _ => .error .typeError

theorem ipBytes_raw (data : Bytes) : ipBytes (.raw data) = .ok data := rfl

def rawSize : Packet Empty → Except PyError Nat
  | .raw data => .ok data.length
  | _ => .error .typeError

theorem rawSize_raw (data : Bytes) :
    rawSize (.raw data) = .ok data.length := rfl

/-- For frames with an IPv4 packet in them; nothing else is written. -/
def ipSerialisers : Serialisers Empty where
  bytes := ipBytes
  size := rawSize
  typeswRev
    | .ip _ => some ethTypeIp
    | _ => none
  bytes_raw := ipBytes_raw
  size_raw := rawSize_raw

def ipFrame (dst src : Bytes) (ip : IP) : Ethernet (Packet Empty) where
  dst := dst
  src := src
  data := .ip { hdr := ip.hdr, data := packetOf ip.data }

theorem bytes_ipFrame (dst src : Bytes) {ip next : IP} {out : Bytes}
    (written : ip.bytes = .ok (out, next)) :
    (ipFrame dst src ip).bytes ipSerialisers =
      .ok (packString 6 dst ++ packString 6 src ++ beBytes 2 ethTypeIp ++
        out) := by
  have transport : transportOf (packetOf ip.data) = some ip.data := by
    cases ip.data with
    | raw bytes => rfl
    | tcp segment => rfl
    | udp datagram => rfl
  have data : dataBytes ipSerialisers (ipFrame dst src ip).data = .ok out := by
    unfold dataBytes ipFrame ipSerialisers ipBytes
    dsimp only
    rw [transport]
    dsimp only
    rw [written, ok_bind]
  have header : (ipFrame dst src ip).packHdr ipSerialisers =
      .ok (packString 6 dst ++ packString 6 src ++ beBytes 2 ethTypeIp) := by
    have tags : (ipFrame dst src ip).packTags ipSerialisers =
        .ok ([], ethTypeIp, false) := rfl
    have fits : FieldsFit [(2, ethTypeIp)] := by decide
    have own : packHdr [(2, (ipFrame dst src ip).type)] = .ok _ :=
      packHdr_ok fits
    unfold Ethernet.packHdr
    rw [tags, ok_bind, own]
    change Except.ok (_ ++ []) = _
    rw [List.append_nil]
    rfl
  unfold Ethernet.bytes
  rw [data, header]
  change Except.ok (_ ++ []) = _
  rw [List.append_nil]

end DpktNg.Link
