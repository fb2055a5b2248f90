/-
`IP.__bytes__` of dpkt/ip.py.  Serialising fills in the length and the
checksums of a packet whose `sum` is zero, and it leaves them in the packet.
-/

import DpktNg.Inet.Transport

namespace DpktNg.Inet

open Library

/-! ### The code -/

/-- The fields of `IP.__hdr__` and the options behind them. -/
structure IpHdr where
  vHl : Nat := 0x45
  tos : Nat := 0
  len : Nat := 20
  id : Nat := 0
  flagsOffset : Nat := 0
  ttl : Nat := 64
  p : Nat := 0
  sum : Nat := 0
  src : Bytes := zeros 4
  dst : Bytes := zeros 4
  opts : Bytes := []
deriving DecidableEq, Repr

def IpHdr.setLen (self : IpHdr) (value : Nat) : IpHdr :=
  { self with len := value }

def IpHdr.setSum (self : IpHdr) (value : Nat) : IpHdr :=
  { self with sum := value }

structure IP where
  hdr : IpHdr := {}
  data : Transport := .raw []
deriving DecidableEq, Repr

/-- `IP_MF | IP_OFFMASK` -/
def fragmentMask : Nat := 0x2000 ||| 0x1fff

def IP.size (self : IP) : Nat := 20 + self.hdr.opts.length + self.data.size

/-- The integers of the header after their widths. -/
def IpHdr.fields (self : IpHdr) : List (Nat × Nat) :=
  [(1, self.vHl), (1, self.tos), (2, self.len), (2, self.id),
    (2, self.flagsOffset), (1, self.ttl), (1, self.p), (2, self.sum)]

def IpHdr.bytes (self : IpHdr) : Except PyError Bytes := do
  let numbers ← packHdr self.fields
  .ok (numbers ++ packString 4 self.src ++ packString 4 self.dst ++ self.opts)

/-- `struct.pack('>4s4sxBH', src, dst, p, len)` -/
def packPseudoHeader (src dst : Bytes) (p len : Nat) :
    Except PyError Bytes := do
  let numbers ← packFields [(1, p), (2, len)]
  .ok (packString 4 src ++ packString 4 dst ++ [0] ++ numbers)

/-- RFC 768: a computed checksum of zero is sent as all ones. -/
def transmittedSum (p sum : Nat) : Nat :=
  if p = ipProtoUdp ∧ sum = 0 then 0xffff else sum

/-- The transport checksum of an unfragmented packet, if its field is zero. -/
def IP.fillTransport (self : IP) : Except PyError IP :=
  if (self.hdr.p = ipProtoTcp ∨ self.hdr.p = ipProtoUdp) ∧
      self.hdr.flagsOffset &&& fragmentMask = 0 ∧
      self.data.sum? = some 0 then do
    let p ← self.data.bytes
    let s ← packPseudoHeader self.hdr.src self.hdr.dst self.hdr.p p.length
    let s := inCksumAdd 0 s
    let s := inCksumAdd s p
    let sum := transmittedSum self.hdr.p (inCksumDone s)
    .ok { self with data := self.data.setSum sum }
  else .ok self

/-- The part of `__bytes__` that changes the packet. -/
def IP.prepare (self : IP) : Except PyError IP :=
  if self.hdr.sum = 0 then do
    let hdr := self.hdr.setLen self.size
    let header ← hdr.bytes
    IP.fillTransport { self with hdr := hdr.setSum (inCksum header) }
  else .ok self

def IP.bytes (self : IP) : Except PyError (Bytes × IP) := do
  let self ← self.prepare
  let header ← self.hdr.bytes
  let data ← self.data.bytes
  .ok (header ++ data, self)

def IpHdr.front (self : IpHdr) : Bytes :=
  beBytes 1 self.vHl ++ beBytes 1 self.tos ++ beBytes 2 self.len ++
    beBytes 2 self.id ++ beBytes 2 self.flagsOffset ++ beBytes 1 self.ttl ++
    beBytes 1 self.p

def IpHdr.back (self : IpHdr) : Bytes :=
  packString 4 self.src ++ packString 4 self.dst ++ self.opts

theorem IpHdr.bytes_eq_ok_iff {hdr : IpHdr} {out : Bytes} :
    hdr.bytes = .ok out ↔
      FieldsFit hdr.fields ∧ out = hdr.front ++ beBytes 2 hdr.sum ++ hdr.back := by
  unfold IpHdr.bytes
  rw [wrapped_eq_ok_iff fun _numbers => packHdr_eq_ok_iff]
  simp [IpHdr.fields, IpHdr.front, IpHdr.back]

@[simp] theorem IpHdr.front_length (hdr : IpHdr) : hdr.front.length = 10 := by
  simp [IpHdr.front]

@[simp] theorem IpHdr.back_length (hdr : IpHdr) :
    hdr.back.length = 8 + hdr.opts.length := by
  simp only [IpHdr.back, List.length_append, packString_length]

theorem IpHdr.setLen_own {hdr : IpHdr} {value : Nat} (own : hdr.len = value) :
    hdr.setLen value = hdr := by
  rw [← own]
  rfl

theorem IpHdr.setSum_own {hdr : IpHdr} {value : Nat} (own : hdr.sum = value) :
    hdr.setSum value = hdr := by
  rw [← own]
  rfl

/-! ### What serialising changes -/

theorem IP.fillTransport_eq_ok {ip next : IP}
    (filled : ip.fillTransport = .ok next) :
    next.hdr = ip.hdr ∧ next.data.size = ip.data.size := by
  unfold IP.fillTransport at filled
  split at filled
  · obtain ⟨p, _packed, filled⟩ := bind_eq_ok.mp filled
    obtain ⟨pseudo, _packedPseudo, done⟩ := bind_eq_ok.mp filled
    rw [Except.ok.injEq] at done
    rw [← done]
    exact ⟨rfl, Transport.size_setSum _ _⟩
  · rw [Except.ok.injEq] at filled
    rw [filled]
    exact ⟨rfl, rfl⟩

/-- The packet that `__bytes__` leaves behind is the one it started from with
its length, its checksum and its transport checksum filled in. -/
theorem IP.prepare_eq_ok {ip next : IP} (empty : ip.hdr.sum = 0)
    (prepared : ip.prepare = .ok next) :
    ∃ header, (ip.hdr.setLen ip.size).bytes = .ok header ∧
      next.hdr = (ip.hdr.setLen ip.size).setSum (inCksum header) ∧
      next.size = ip.size ∧
      IP.fillTransport
        { ip with hdr := (ip.hdr.setLen ip.size).setSum (inCksum header) } =
          .ok next := by
  unfold IP.prepare at prepared
  rw [if_pos empty] at prepared
  obtain ⟨header, packed, filled⟩ := bind_eq_ok.mp prepared
  obtain ⟨sameHeader, sameSize⟩ := IP.fillTransport_eq_ok filled
  refine ⟨header, packed, sameHeader, ?_, filled⟩
  unfold IP.size
  rw [sameSize, sameHeader]
  rfl

theorem IP.fillTransport_again {ip next : IP}
    (filled : ip.fillTransport = .ok next) :
    next.fillTransport = .ok next := by
  by_cases applies : (ip.hdr.p = ipProtoTcp ∨ ip.hdr.p = ipProtoUdp) ∧
      ip.hdr.flagsOffset &&& fragmentMask = 0 ∧ ip.data.sum? = some 0
  · have filledHere := filled
    unfold IP.fillTransport at filledHere
    rw [if_pos applies] at filledHere
    obtain ⟨p, _packed, filledHere⟩ := bind_eq_ok.mp filledHere
    obtain ⟨pseudo, _packedPseudo, done⟩ := bind_eq_ok.mp filledHere
    rw [Except.ok.injEq] at done
    generalize transmittedSum ip.hdr.p
      (inCksumDone (inCksumAdd (inCksumAdd 0 pseudo) p)) = value at done
    by_cases zero : value = 0
    · rw [zero, Transport.setSum_own applies.2.2] at done
      rw [← done] at filled ⊢
      exact filled
    · have nonzero : next.data.sum? ≠ some 0 := by
        rw [← done, Transport.sum?_setSum applies.2.2]
        intro same
        exact zero (Option.some.inj same)
      unfold IP.fillTransport
      rw [if_neg fun again => nonzero again.2.2]
  · have unchanged : ip.fillTransport = .ok ip := if_neg applies
    rw [unchanged, Except.ok.injEq] at filled
    rw [← filled]
    exact unchanged

theorem IP.prepare_again {ip next : IP} (prepared : ip.prepare = .ok next) :
    next.prepare = .ok next := by
  by_cases empty : ip.hdr.sum = 0
  · obtain ⟨header, packed, sameHeader, sameSize, filled⟩ :=
      IP.prepare_eq_ok empty prepared
    unfold IP.prepare
    by_cases zero : next.hdr.sum = 0
    · -- the header sums up by itself, so it is summed up once more
      have headerZero : inCksum header = 0 := by
        rw [sameHeader] at zero
        exact zero
      have sameSum : (ip.hdr.setLen ip.size).sum = 0 := empty
      have sized : next.hdr.setLen next.size = next.hdr := by
        apply IpHdr.setLen_own
        rw [sameHeader, sameSize]
        rfl
      have again : next.hdr.bytes = .ok header := by
        rw [sameHeader, headerZero, IpHdr.setSum_own sameSum]
        exact packed
      rw [if_pos zero]
      dsimp only
      rw [sized, again, ok_bind, headerZero, IpHdr.setSum_own zero]
      exact IP.fillTransport_again filled
    · rw [if_neg zero]
  · have unchanged : ip.prepare = .ok ip := if_neg empty
    rw [unchanged, Except.ok.injEq] at prepared
    rw [← prepared]
    exact unchanged

theorem IP.bytes_again {ip next : IP} {out : Bytes}
    (packed : ip.bytes = .ok (out, next)) : next.bytes = .ok (out, next) := by
  obtain ⟨self, prepared, packed⟩ := bind_eq_ok.mp packed
  obtain ⟨header, packedHeader, packed⟩ := bind_eq_ok.mp packed
  obtain ⟨data, packedData, done⟩ := bind_eq_ok.mp packed
  rw [Except.ok.injEq, Prod.mk.injEq] at done
  rw [done.2] at prepared packedHeader packedData
  unfold IP.bytes
  rw [IP.prepare_again prepared, ok_bind, packedHeader, ok_bind, packedData,
    ok_bind, done.1]

/-! ### What a receiver checks -/

/-- The pseudo-header of an IPv4 packet, as sender and receiver know it. -/
def pseudoHeader (src dst : Bytes) (p len : Nat) : Bytes :=
  packString 4 src ++ packString 4 dst ++ [0] ++ beBytes 1 p ++ beBytes 2 len

/-- The packet is not a fragment. -/
def IpHdr.Unfragmented (self : IpHdr) : Prop :=
  self.flagsOffset &&& fragmentMask = 0

/-- The length that the `hl` field of the header gives. -/
def IpHdr.headerLength (self : IpHdr) : Nat := 4 * (self.vHl % 16)

structure IP.ValidOnWire (ip : IP) (out : Bytes) : Prop where
  headerSum : onesSum (out.take ip.hdr.headerLength) = 0xffff
  length : beNat (cut out 2 4) = out.length
  transportSum : ip.hdr.p = ipProtoTcp ∨ ip.hdr.p = ipProtoUdp →
    ip.hdr.Unfragmented →
    let payload := out.drop ip.hdr.headerLength
    onesSum (pseudoHeader ip.hdr.src ip.hdr.dst ip.hdr.p payload.length ++
      payload) = 0xffff
  udpSum : ip.hdr.p = ipProtoUdp → ip.hdr.Unfragmented →
    beNat (cut (out.drop ip.hdr.headerLength) 6 8) ≠ 0

/-- Raw bytes under another protocol, or a transport packet under its own with
no checksum yet. -/
def Transport.Awaits (p : Nat) : Transport → Prop
  | .raw _ => p ≠ ipProtoTcp ∧ p ≠ ipProtoUdp
  | .tcp segment => p = ipProtoTcp ∧ segment.sum = 0
  | .udp datagram => p = ipProtoUdp ∧ datagram.sum = 0

/-- A packet whose checksums are still to be computed. -/
structure IP.Ready (ip : IP) : Prop where
  sum : ip.hdr.sum = 0
  optionWords : ip.hdr.opts.length % 4 = 0
  optionLength : ip.hdr.opts.length ≤ 40
  headerLength : ip.hdr.vHl % 16 = (20 + ip.hdr.opts.length) / 4
  transport : ip.data.Awaits ip.hdr.p
  total : ip.size ≤ 0xffff

theorem packPseudoHeader_eq_ok_iff {src dst out : Bytes} {p len : Nat} :
    packPseudoHeader src dst p len = .ok out ↔
      FieldsFit [(1, p), (2, len)] ∧ out = pseudoHeader src dst p len := by
  unfold packPseudoHeader
  rw [wrapped_eq_ok_iff fun _numbers => packFields_eq_ok_iff]
  simp [pseudoHeader]

@[simp] theorem pseudoHeader_length (src dst : Bytes) (p len : Nat) :
    (pseudoHeader src dst p len).length = 12 := by
  simp [pseudoHeader]

theorem Transport.Awaits.sum? {data : Transport} {p : Nat}
    (awaits : data.Awaits p) (proto : p = ipProtoTcp ∨ p = ipProtoUdp) :
    data.sum? = some 0 := by
  cases data with
  | raw bytes => exact absurd proto (not_or.mpr awaits)
  | tcp segment => exact congrArg some awaits.2
  | udp datagram => exact congrArg some awaits.2

/-- The checksum over the pseudo-header and the packet with an empty field
makes the two sum up, also when zero is replaced by all ones. -/
theorem transmittedSum_completes {front back pseudo : Bytes} {s : Nat}
    (p : Nat) (evenPseudo : pseudo.length % 2 = 0) (even : front.length % 2 = 0)
    (small : s < 0x100000000)
    (added : s = leSum (pseudo ++ (front ++ beBytes 2 0 ++ back))) :
    onesSum (pseudo ++ (front ++
        beBytes 2 (transmittedSum p (inCksumDone s)) ++ back)) = 0xffff ∧
      transmittedSum p (inCksumDone s) ≤ 0xffff ∧
      (p = ipProtoUdp → transmittedSum p (inCksumDone s) ≠ 0) := by
  have evenBoth : (pseudo ++ front).length % 2 = 0 := by
    rw [List.length_append]
    omega
  have regroup : ∀ value, pseudo ++ (front ++ beBytes 2 value ++ back) =
      pseudo ++ front ++ beBytes 2 value ++ back := by
    intro value
    simp only [List.append_assoc]
  rw [regroup] at added
  have completes := onesSum_completes evenBoth small added
  have bounded := inCksumDone_le small
  unfold transmittedSum
  rw [regroup]
  by_cases replaced : p = ipProtoUdp ∧ inCksumDone s = 0
  · rw [if_pos replaced]
    rw [replaced.2] at completes
    exact ⟨onesSum_all_ones evenBoth completes, Nat.le_refl _,
      fun _udp => Nat.succ_ne_zero _⟩
  · rw [if_neg replaced]
    exact ⟨completes, bounded, fun udp zero => replaced ⟨udp, zero⟩⟩

theorem IP.fillTransport_valid (ip : IP) {next : IP} {data : Bytes}
    (awaits : ip.data.Awaits ip.hdr.p)
    (proto : ip.hdr.p = ipProtoTcp ∨ ip.hdr.p = ipProtoUdp)
    (whole : ip.hdr.Unfragmented)
    (filled : ip.fillTransport = .ok next) (packed : next.data.bytes = .ok data) :
    onesSum (pseudoHeader ip.hdr.src ip.hdr.dst ip.hdr.p data.length ++
        data) = 0xffff ∧
      (ip.hdr.p = ipProtoUdp → beNat (cut data 6 8) ≠ 0) := by
  have empty := awaits.sum? proto
  unfold IP.fillTransport at filled
  rw [if_pos ⟨proto, whole, empty⟩] at filled
  obtain ⟨p, packedP, filled⟩ := bind_eq_ok.mp filled
  obtain ⟨pseudo, packedPseudo, done⟩ := bind_eq_ok.mp filled
  obtain ⟨fits, samePseudo⟩ := packPseudoHeader_eq_ok_iff.mp packedPseudo
  rw [Except.ok.injEq] at done
  obtain ⟨front, back, even, udpFront, sameP, withSum⟩ :=
    Transport.bytes_split empty packedP
  have range : p.length < 0x10000 := fits (2, p.length) (by simp)
  have evenPseudo : pseudo.length % 2 = 0 := by
    rw [samePseudo, pseudoHeader_length]
  have bound := leSum_bound (pseudo ++ p)
  rw [List.length_append, samePseudo, pseudoHeader_length] at bound
  have added : inCksumAdd (inCksumAdd 0 pseudo) p = leSum (pseudo ++ p) := by
    rw [inCksumAdd_eq, inCksumAdd_eq, Nat.zero_add, leSum_append evenPseudo]
  rw [← samePseudo, ← added] at bound
  have small : inCksumAdd (inCksumAdd 0 pseudo) p < 0x100000000 := by omega
  generalize inCksumAdd (inCksumAdd 0 pseudo) p = s at done added small
  rw [sameP] at added
  obtain ⟨completes, word, nonzero⟩ :=
    transmittedSum_completes ip.hdr.p evenPseudo even small added
  -- the data with its checksum in place
  rw [← done] at packed
  rw [withSum _ word, Except.ok.injEq] at packed
  have sameLength : data.length = p.length := by
    rw [← packed, sameP]
    simp only [List.length_append, beBytes_length]
  refine ⟨?_, ?_⟩
  · rw [sameLength, ← samePseudo, ← packed]
    exact completes
  · intro udp
    have frontLength : front.length = 6 := by
      cases isData : ip.data with
      | raw bytes =>
          rw [isData] at empty
          cases empty
      | tcp segment =>
          rw [isData] at awaits
          rw [udp] at awaits
          cases awaits.1
      | udp datagram => exact udpFront datagram isData
    have field := cut_append front
      (beBytes 2 (transmittedSum ip.hdr.p (inCksumDone s))) back
    rw [frontLength, beBytes_length] at field
    rw [← packed, field, beNat_beBytes (Nat.lt_succ_of_le word)]
    exact nonzero udp

theorem IP.header_valid {ip : IP} {header : Bytes} (ready : ip.Ready)
    (packed : (ip.hdr.setLen ip.size).bytes = .ok header) {emitted : Bytes}
    (packedAgain : ((ip.hdr.setLen ip.size).setSum (inCksum header)).bytes =
      .ok emitted) :
    onesSum emitted = 0xffff ∧ emitted.length = ip.hdr.headerLength ∧
      ∀ data, beNat (cut (emitted ++ data) 2 4) = ip.size := by
  obtain ⟨_fits, same⟩ := IpHdr.bytes_eq_ok_iff.mp packed
  obtain ⟨_fitsAgain, sameAgain⟩ := IpHdr.bytes_eq_ok_iff.mp packedAgain
  have empty : (ip.hdr.setLen ip.size).sum = 0 := ready.sum
  rw [empty] at same
  generalize hdrEq : ip.hdr.setLen ip.size = hdr at same sameAgain
  have sameAgain : emitted =
      hdr.front ++ beBytes 2 (inCksum header) ++ hdr.back := sameAgain
  have sameOpts : hdr.opts = ip.hdr.opts := by
    rw [← hdrEq]
    rfl
  have options := ready.optionLength
  refine ⟨?_, ?_, ?_⟩
  · have bound := leSum_bound header
    have length : header.length = 20 + hdr.opts.length := by
      rw [same]
      simp only [List.length_append, IpHdr.front_length, beBytes_length,
        IpHdr.back_length]
      omega
    rw [length, sameOpts] at bound
    rw [sameAgain]
    unfold inCksum
    rw [inCksumAdd_eq, Nat.zero_add]
    apply onesSum_completes
    · rw [IpHdr.front_length]
    · omega
    · rw [← same]
  · have words := ready.headerLength
    have multiple := ready.optionWords
    rw [sameAgain]
    unfold IpHdr.headerLength
    simp only [List.length_append, IpHdr.front_length, beBytes_length,
      IpHdr.back_length, sameOpts]
    omega
  · intro data
    have sized : hdr.len = ip.size := by
      rw [← hdrEq]
      rfl
    have total := ready.total
    have field := cut_append (beBytes 1 hdr.vHl ++ beBytes 1 hdr.tos)
      (beBytes 2 hdr.len) (beBytes 2 hdr.id ++ beBytes 2 hdr.flagsOffset ++
        beBytes 1 hdr.ttl ++ beBytes 1 hdr.p ++
        beBytes 2 (inCksum header) ++ hdr.back ++ data)
    simp only [List.length_append, beBytes_length] at field
    rw [sameAgain]
    unfold IpHdr.front
    simp only [List.append_assoc] at field ⊢
    rw [field, beNat_beBytes (by omega), sized]

/-! ### Serialising succeeds -/

theorem transmittedSum_le {p sum : Nat} (word : sum ≤ 0xffff) :
    transmittedSum p sum ≤ 0xffff := by
  unfold transmittedSum
  split <;> omega

theorem IP.fillTransport_ok (ip : IP) (fits : FieldsFit ip.data.fields)
    (proto : ip.hdr.p < 256) (total : ip.data.size ≤ 0xffff) :
    ∃ next data, ip.fillTransport = .ok next ∧ next.data.bytes = .ok data := by
  obtain ⟨p, packed⟩ := Transport.bytes_of_fit fits
  by_cases applies : (ip.hdr.p = ipProtoTcp ∨ ip.hdr.p = ipProtoUdp) ∧
      ip.hdr.flagsOffset &&& fragmentMask = 0 ∧ ip.data.sum? = some 0
  · have size := Transport.bytes_length packed
    have pseudo : packPseudoHeader ip.hdr.src ip.hdr.dst ip.hdr.p p.length =
        .ok (pseudoHeader ip.hdr.src ip.hdr.dst ip.hdr.p p.length) := by
      rw [packPseudoHeader_eq_ok_iff]
      refine ⟨?_, rfl⟩
      intro field member
      simp only [List.mem_cons, List.not_mem_nil, or_false] at member
      rcases member with here | here
      · rw [here]
        exact proto
      · rw [here]
        change p.length < 0x10000
        omega
    obtain ⟨front, back, _even, _udp, _same, withSum⟩ :=
      Transport.bytes_split applies.2.2 packed
    have bound := leSum_bound
      (pseudoHeader ip.hdr.src ip.hdr.dst ip.hdr.p p.length)
    have boundP := leSum_bound p
    rw [pseudoHeader_length] at bound
    have small : inCksumAdd (inCksumAdd 0 (pseudoHeader ip.hdr.src ip.hdr.dst
        ip.hdr.p p.length)) p < 0x100000000 := by
      rw [inCksumAdd_eq, inCksumAdd_eq]
      omega
    refine ⟨⟨ip.hdr, ip.data.setSum (transmittedSum ip.hdr.p _)⟩, _, ?_,
      withSum _ (transmittedSum_le (inCksumDone_le small))⟩
    unfold IP.fillTransport
    rw [if_pos applies, packed, ok_bind, pseudo, ok_bind]
  · exact ⟨ip, p, if_neg applies, packed⟩

theorem IP.bytes_ok {ip : IP} (empty : ip.hdr.sum = 0)
    (total : ip.size ≤ 0xffff) (options : ip.hdr.opts.length ≤ 40)
    (fits : FieldsFit ip.hdr.fields) (dataFits : FieldsFit ip.data.fields) :
    ∃ out next, ip.bytes = .ok (out, next) := by
  -- the header fits with any other length and checksum that fit
  have refits : ∀ len sum, len ≤ 0xffff → sum ≤ 0xffff →
      FieldsFit ((ip.hdr.setLen len).setSum sum).fields := by
    intro len sum lenWord sumWord
    simp only [FieldsFit, IpHdr.fields, List.forall_mem_cons] at fits ⊢
    refine ⟨fits.1, fits.2.1, ?_, fits.2.2.2.1, fits.2.2.2.2.1,
      fits.2.2.2.2.2.1, fits.2.2.2.2.2.2.1, ?_, fits.2.2.2.2.2.2.2.2⟩
    · change len < 0x10000
      omega
    · change sum < 0x10000
      omega
  have sized : (ip.hdr.setLen ip.size).bytes =
      .ok ((ip.hdr.setLen ip.size).front ++ beBytes 2 0 ++ ip.hdr.back) := by
    have same : (ip.hdr.setLen ip.size).setSum 0 = ip.hdr.setLen ip.size :=
      IpHdr.setSum_own empty
    rw [← same]
    exact IpHdr.bytes_eq_ok_iff.mpr ⟨refits _ 0 total (by omega), rfl⟩
  generalize (ip.hdr.setLen ip.size).front ++ beBytes 2 0 ++ ip.hdr.back =
    header at sized
  have word : inCksum header ≤ 0xffff := by
    apply inCksumDone_le
    have bound := leSum_bound header
    have length : header.length = 20 + ip.hdr.opts.length := by
      rw [(IpHdr.bytes_eq_ok_iff.mp sized).2]
      simp only [List.length_append, IpHdr.front_length, beBytes_length,
        IpHdr.back_length, IpHdr.setLen]
      omega
    rw [inCksumAdd_eq]
    omega
  have proto : ip.hdr.p < 256 := fits (1, ip.hdr.p) (by simp [IpHdr.fields])
  have dataTotal : ip.data.size ≤ 0xffff := by
    unfold IP.size at total
    omega
  obtain ⟨next, data, filled, packed⟩ := IP.fillTransport_ok
    ⟨(ip.hdr.setLen ip.size).setSum (inCksum header), ip.data⟩
    dataFits proto dataTotal
  have sameHeader := (IP.fillTransport_eq_ok filled).1
  have emitted : next.hdr.bytes = .ok
      (next.hdr.front ++ beBytes 2 next.hdr.sum ++ next.hdr.back) := by
    rw [IpHdr.bytes_eq_ok_iff, sameHeader]
    exact ⟨refits _ _ total word, rfl⟩
  refine ⟨next.hdr.front ++ beBytes 2 next.hdr.sum ++ next.hdr.back ++ data,
    next, ?_⟩
  unfold IP.bytes IP.prepare
  rw [if_pos empty]
  dsimp only
  rw [sized, ok_bind, filled, ok_bind, emitted, ok_bind, packed, ok_bind]

/-- Serialising a packet with empty checksums: it succeeds when the fields fit,
and whatever it emits checks out at the receiver and is emitted again by a
second call. -/
theorem ip_bytes_valid (ip : IP) (ready : ip.Ready) :
    (FieldsFit ip.hdr.fields ∧ FieldsFit ip.data.fields →
        ∃ out next, ip.bytes = .ok (out, next)) ∧
      ∀ out next, ip.bytes = .ok (out, next) →
        ip.ValidOnWire out ∧ next.bytes = .ok (out, next) := by
  refine ⟨?_, ?_⟩
  · intro fit
    exact IP.bytes_ok ready.sum ready.total ready.optionLength fit.1 fit.2
  · intro out next packed
    refine ⟨?_, IP.bytes_again packed⟩
    obtain ⟨self, prepared, packed⟩ := bind_eq_ok.mp packed
    obtain ⟨emitted, packedHeader, packed⟩ := bind_eq_ok.mp packed
    obtain ⟨data, packedData, done⟩ := bind_eq_ok.mp packed
    rw [Except.ok.injEq, Prod.mk.injEq] at done
    rw [done.2] at prepared packedHeader packedData
    obtain ⟨header, packedEmpty, sameHeader, sameSize, filled⟩ :=
      IP.prepare_eq_ok ready.sum prepared
    rw [sameHeader] at packedHeader
    obtain ⟨headerSum, headerLength, lengthField⟩ :=
      IP.header_valid ready packedEmpty packedHeader
    have split : out.take ip.hdr.headerLength = emitted ∧
        out.drop ip.hdr.headerLength = data := by
      rw [← done.1, ← headerLength]
      exact ⟨List.take_left, List.drop_left⟩
    have dataSize := Transport.bytes_length packedData
    have transport
        (proto : ip.hdr.p = ipProtoTcp ∨ ip.hdr.p = ipProtoUdp)
        (whole : ip.hdr.Unfragmented) :=
      IP.fillTransport_valid
        ⟨(ip.hdr.setLen ip.size).setSum (inCksum header), ip.data⟩
        ready.transport proto whole filled packedData
    refine
      { headerSum := ?_
        length := ?_
        transportSum := ?_
        udpSum := ?_ }
    · rw [split.1]
      exact headerSum
    · have words := ready.headerLength
      have multiple := ready.optionWords
      rw [← done.1, lengthField data, List.length_append, headerLength,
        dataSize]
      unfold IP.size at sameSize ⊢
      rw [sameHeader] at sameSize
      unfold IpHdr.headerLength
      change 20 + ip.hdr.opts.length + next.data.size = _ at sameSize
      omega
    · intro proto whole
      rw [split.2]
      exact (transport proto whole).1
    · intro udp whole
      rw [split.2]
      exact (transport (Or.inr udp) whole).2 udp

/-- A datagram whose computed checksum is zero. -/
def zeroSumDatagram : IP :=
  { hdr := { p := ipProtoUdp, src := [0, 0, 0, 1], dst := [0, 0, 0, 1] }
    data := .udp { sport := 1, dport := 0xffdb } }

theorem ip_bytes_valid_zeroSum :
    (FieldsFit zeroSumDatagram.hdr.fields ∧
        FieldsFit zeroSumDatagram.data.fields →
      ∃ out next, zeroSumDatagram.bytes = .ok (out, next)) ∧
    ∀ out next, zeroSumDatagram.bytes = .ok (out, next) →
      zeroSumDatagram.ValidOnWire out ∧ next.bytes = .ok (out, next) :=
  ip_bytes_valid zeroSumDatagram
    { sum := rfl
      optionWords := rfl
      optionLength := by decide
      headerLength := rfl
      transport := ⟨rfl, rfl⟩
      total := by decide }

end DpktNg.Inet
