/-
Classes that fill in their own checksum: `if not self.sum: self.sum =
dpkt.in_cksum(...)`, in dpkt/igmp.py, pim.py, edp.py, icmp.py, eigrp.py, ospf.py
and vrrp.py.  They differ in the fields around the checksum.

A checksum of zero counts as missing, so a packet that was sent with one is
written with a computed one.
-/

import DpktNg.Inet.Checksum
import DpktNg.Python.StructFormat

namespace DpktNg.Inet

open Library

/-! ### The family -/

/-- The formats of the header fields before and behind `sum`. -/
structure SummedClass where
  name : String
  front : List StructItem
  behind : List StructItem
  even : StructValues.size front % 2 = 0

/-- A packet; `data` is what `bytes(self.data)` yields. -/
structure Summed (cls : SummedClass) where
  front : StructValues cls.front
  sum : Nat
  behind : StructValues cls.behind
  data : Bytes

def SummedClass.hdrLen (cls : SummedClass) : Nat :=
  StructValues.size cls.front + (2 + StructValues.size cls.behind)

def igmp : SummedClass where
  name := "IGMP"
  front := [.int 1, .int 1]
  behind := [.str 4]
  even := rfl

def pim : SummedClass where
  name := "PIM"
  front := [.int 1, .int 1]
  behind := []
  even := rfl

def edp : SummedClass where
  name := "EDP"
  front := [.int 1, .int 1, .int 2]
  behind := [.int 2, .int 2, .str 6]
  even := rfl

def icmp : SummedClass where
  name := "ICMP"
  front := [.int 1, .int 1]
  behind := []
  even := rfl

def ospf : SummedClass where
  name := "OSPF"
  front := [.int 1, .int 1, .int 2, .int 4, .int 4]
  behind := []
  even := rfl

def ospfv2 : SummedClass where
  name := "OSPFv2"
  front := [.int 1, .int 1, .int 2, .int 4, .int 4]
  behind := [.int 2, .str 8]
  even := rfl

def ospfv3 : SummedClass where
  name := "OSPFv3"
  front := [.int 1, .int 1, .int 2, .int 4, .int 4]
  behind := [.int 1, .int 1]
  even := rfl

def eigrp : SummedClass where
  name := "EIGRP"
  front := [.int 1, .int 1]
  behind := [.int 4, .int 4, .int 4, .int 4]
  even := rfl

namespace Summed

variable {cls : SummedClass}

def pack (self : Summed cls) : Except PyError Bytes := do
  let front ← StructValues.pack .big cls.front self.front
  let sum ← packBe 2 self.sum
  let behind ← StructValues.pack .big cls.behind self.behind
  .ok (front ++ (sum ++ behind))

/-- `pack_hdr`, whose error is one of the library. -/
def packHdr (self : Summed cls) : Except PyError Bytes :=
  match self.pack with
  | .ok header => .ok header
  | .error _ => .error (.packError [])

def packetBytes (self : Summed cls) : Except PyError Bytes := do
  .ok ((← self.packHdr) ++ self.data)

/-- `if not self.sum: self.sum = dpkt.in_cksum(dpkt.Packet.__bytes__(self))` -/
def fillSum (self : Summed cls) : Except PyError (Summed cls) :=
  if self.sum = 0 then do
    let written ← self.packetBytes
    .ok { self with sum := inCksum written }
  else .ok self

def bytes (self : Summed cls) : Except PyError (Summed cls × Bytes) := do
  let filled ← self.fillSum
  .ok (filled, ← filled.packetBytes)

def unpack (cls : SummedClass) (buf : Bytes) : Except PyError (Summed cls) := do
  let (header, data) ← takeHeader cls.hdrLen buf
  let sumAt := StructValues.size cls.front
  .ok
    { front := StructValues.read .big cls.front header
      sum := beNat (cut header sumAt (sumAt + 2))
      behind := StructValues.read .big cls.behind (header.drop (sumAt + 2))
      data }

/-- The constructor on a buffer, of a class that keeps the bytes behind its
header. -/
def parse (cls : SummedClass) : Bytes → Except PyError (Summed cls) :=
  packetInit cls.name (some cls.hdrLen) (unpack cls)

end Summed

/-! ### Packing -/

/-- The header fields other than the checksum are packed without loss. -/
structure Summed.Fits {cls : SummedClass} (packet : Summed cls) : Prop where
  front : StructValues.Fits cls.front packet.front
  behind : StructValues.Fits cls.behind packet.behind

namespace Summed

variable {cls : SummedClass} {self : Summed cls}

def frontBytes (self : Summed cls) : Bytes :=
  StructValues.bytes .big cls.front self.front

def rest (self : Summed cls) : Bytes :=
  StructValues.bytes .big cls.behind self.behind ++ self.data

def written (self : Summed cls) (sum : Nat) : Bytes :=
  self.frontBytes ++ beBytes 2 sum ++ self.rest

theorem frontBytes_length (fits : self.Fits) :
    self.frontBytes.length = StructValues.size cls.front :=
  StructValues.bytes_length fits.front

theorem written_length (fits : self.Fits) (sum : Nat) :
    (self.written sum).length = cls.hdrLen + self.data.length := by
  unfold written rest SummedClass.hdrLen
  rw [List.length_append, List.length_append, List.length_append,
    frontBytes_length fits, beBytes_length,
    StructValues.bytes_length fits.behind]
  omega

theorem packetBytes_ok (fits : self.Fits) (word : self.sum < 256 ^ 2) :
    self.packetBytes = .ok (self.written self.sum) := by
  have packed : self.pack =
      .ok (self.frontBytes ++ (beBytes 2 self.sum ++
        StructValues.bytes .big cls.behind self.behind)) := by
    unfold pack
    rw [StructValues.pack_ok fits.front, ok_bind, packBe_ok word, ok_bind,
      StructValues.pack_ok fits.behind, ok_bind]
    rfl
  unfold packetBytes packHdr
  rw [packed]
  change Except.ok _ = _
  unfold written rest
  simp only [List.append_assoc]

def computed (self : Summed cls) : Nat :=
  if self.sum = 0 then inCksum (self.written 0) else self.sum

theorem inCksum_eq (buf : Bytes) : inCksum buf = inCksumDone (leSum buf) := by
  unfold inCksum
  rw [inCksumAdd_eq, Nat.zero_add]

theorem leSum_small {buf : Bytes} (short : buf.length ≤ 0x20000) :
    leSum buf < 0x100000000 := by
  have bound := leSum_bound buf
  omega

theorem inCksum_lt (buf : Bytes) : inCksum buf < 256 ^ 2 := by
  rw [inCksum_eq, inCksumDone_folded]
  omega

theorem computed_lt (word : self.sum < 256 ^ 2) : self.computed < 256 ^ 2 := by
  unfold computed
  split
  · exact inCksum_lt _
  · exact word

theorem bytes_ok (fits : self.Fits) (word : self.sum < 256 ^ 2) :
    self.bytes =
      .ok ({ self with sum := self.computed }, self.written self.computed) := by
  have filled : self.fillSum = .ok { self with sum := self.computed } := by
    unfold fillSum computed
    split
    · rename_i zero
      rw [packetBytes_ok fits word, zero]
      rfl
    · rfl
  have packed : ({ self with sum := self.computed } : Summed cls).packetBytes =
      .ok (self.written self.computed) :=
    packetBytes_ok ⟨fits.front, fits.behind⟩ (computed_lt word)
  unfold bytes
  rw [filled, ok_bind, packed, ok_bind]

/-- What was computed once is not computed again, or again to the same value. -/
theorem computed_filled :
    ({ self with sum := self.computed } : Summed cls).computed =
      self.computed := by
  by_cases zero : self.sum = 0
  · by_cases nothing : self.computed = 0
    · have again : self.computed = inCksum (self.written 0) := if_pos zero
      rw [again] at nothing ⊢
      unfold computed
      dsimp only
      rw [if_pos nothing]
      rfl
    · exact if_neg nothing
  · have same : self.computed = self.sum := if_neg zero
    rw [same]
    exact if_neg zero

/-- A packet that fills in its checksum sums up for the receiver. -/
theorem onesSum_computed (fits : self.Fits) (zero : self.sum = 0)
    (short : cls.hdrLen + self.data.length ≤ 0x20000) :
    onesSum (self.written self.computed) = 0xffff := by
  have computedEq : self.computed = inCksum (self.written 0) := if_pos zero
  have even : self.frontBytes.length % 2 = 0 := by
    rw [frontBytes_length fits]
    exact cls.even
  rw [← written_length fits 0] at short
  rw [computedEq, inCksum_eq]
  exact onesSum_completes even (leSum_small short) rfl

theorem parse_written (fits : self.Fits) {sum : Nat} (word : sum < 256 ^ 2) :
    Summed.parse cls (self.written sum) = .ok { self with sum } := by
  have front := frontBytes_length fits
  have behind := @StructValues.bytes_length .big _ _ fits.behind
  have split : self.written sum =
      (self.frontBytes ++ (beBytes 2 sum ++
        StructValues.bytes .big cls.behind self.behind)) ++ self.data := by
    unfold written rest
    simp only [List.append_assoc]
  have length : (self.frontBytes ++ (beBytes 2 sum ++
      StructValues.bytes .big cls.behind self.behind)).length =
        cls.hdrLen := by
    rw [List.length_append, List.length_append, front, beBytes_length, behind]
    rfl
  unfold Summed.parse
  rw [packetInit_eq_ok]
  unfold unpack
  rw [split, takeHeader_append _ length, ok_bind]
  dsimp only
  have readFront : StructValues.read .big cls.front (self.frontBytes ++
      (beBytes 2 sum ++ StructValues.bytes .big cls.behind self.behind)) =
        self.front := StructValues.read_bytes fits.front _
  have readBehind := @StructValues.read_bytes .big _ _ fits.behind []
  rw [List.append_nil] at readBehind
  rw [readFront, cut_behind front (Nat.le_refl _),
    drop_behind front (Nat.le_add_right _ 2), Nat.sub_self,
    Nat.add_sub_cancel_left, cut_beBytes,
    List.drop_left' (beBytes_length 2 sum), readBehind, beNat_beBytes word]

theorem written_of_parse {buf : Bytes} (parsed : Summed.parse cls buf = .ok self) :
    self.Fits ∧ self.sum < 256 ^ 2 ∧ buf = self.written self.sum := by
  unfold Summed.parse at parsed
  rw [packetInit_eq_ok] at parsed
  unfold unpack at parsed
  obtain ⟨⟨header, data⟩, taken, done⟩ := bind_eq_ok.mp parsed
  obtain ⟨enough, sameHeader, sameData⟩ := takeHeader_eq_ok.mp taken
  have length : header.length = cls.hdrLen := by
    rw [sameHeader, List.length_take]
    omega
  have sizes : cls.hdrLen = StructValues.size cls.front +
      (2 + StructValues.size cls.behind) := rfl
  dsimp only at done
  rw [Except.ok.injEq] at done
  have behindLength :
      (header.drop (StructValues.size cls.front + 2)).length =
        StructValues.size cls.behind := by
    rw [List.length_drop]
    omega
  have sumLength : (cut header (StructValues.size cls.front)
      (StructValues.size cls.front + 2)).length = 2 := by
    rw [cut_length_of_le (by omega)]
    omega
  have front := @StructValues.bytes_read .big cls.front header (by omega)
  have behind := @StructValues.bytes_read .big cls.behind _
    (le_of_eq behindLength.symm)
  rw [List.take_of_length_le (le_of_eq behindLength)] at behind
  have sum := beBytes_beNat (cut header (StructValues.size cls.front)
    (StructValues.size cls.front + 2))
  rw [sumLength] at sum
  have bound := beNat_lt (cut header (StructValues.size cls.front)
    (StructValues.size cls.front + 2))
  rw [sumLength] at bound
  rw [← done]
  refine ⟨⟨?_, ?_⟩, bound, ?_⟩
  · exact StructValues.read_fits (by omega)
  · exact StructValues.read_fits (le_of_eq behindLength.symm)
  · unfold written frontBytes rest
    dsimp only
    rw [front, sum, behind, take_append_cut (Nat.le_add_right _ 2),
      ← List.append_assoc, List.take_append_drop, sameHeader, sameData,
      List.take_append_drop]

/-! ### The contract -/

/-- A packet whose fields fit is written with a checksum that it keeps: writing
it again gives the same bytes, parsing them gives the packet, and the checksum
is the one that was set or one that sums up. -/
theorem fills_checksum (self : Summed cls) (fits : self.Fits)
    (word : self.sum < 256 ^ 2) :
    ∃ filled out, self.bytes = .ok (filled, out) ∧
      filled.bytes = .ok (filled, out) ∧
      Summed.parse cls out = .ok filled ∧
      filled = { self with sum := filled.sum } ∧
      (self.sum ≠ 0 → filled.sum = self.sum) ∧
      (self.sum = 0 → out.length ≤ 0x20000 → onesSum out = 0xffff) := by
  have filledFits : ({ self with sum := self.computed } : Summed cls).Fits :=
    ⟨fits.front, fits.behind⟩
  have again := bytes_ok filledFits (computed_lt word)
  rw [computed_filled] at again
  refine ⟨_, _, bytes_ok fits word, again, parse_written fits (computed_lt word),
    rfl, fun set => if_neg set, ?_⟩
  intro zero short
  rw [written_length fits] at short
  exact onesSum_computed fits zero short

/-- A multicast query without a checksum. -/
theorem fills_checksum_igmp :
    let query : Summed igmp :=
      { front := (0x11, 100, ()), sum := 0, behind := (zeros 4, ()), data := [] }
    ∃ filled out, query.bytes = .ok (filled, out) ∧
      filled.bytes = .ok (filled, out) := by
  intro query
  have fits : query.Fits :=
    ⟨⟨by decide, by decide, trivial⟩, ⟨by decide, trivial⟩⟩
  obtain ⟨filled, out, written, again, _rest⟩ :=
    fills_checksum query fits (by decide)
  exact ⟨filled, out, written, again⟩

/-- Parsing and writing changes a buffer exactly when the checksum in it is zero
and the computed one is not. -/
theorem bytes_buf_iff (buf : Bytes) {self : Summed cls}
    (parsed : Summed.parse cls buf = .ok self) :
    (∃ filled, self.bytes = .ok (filled, buf)) ↔
      self.sum ≠ 0 ∨ inCksum buf = 0 := by
  obtain ⟨fits, word, same⟩ := written_of_parse parsed
  have wrote := bytes_ok fits word
  by_cases zero : self.sum = 0
  · rw [zero] at same
    have computedEq : self.computed = inCksum buf := by
      rw [same]
      exact if_pos zero
    rw [computedEq] at wrote
    have fields : self.written (inCksum buf) = buf ↔ inCksum buf = 0 := by
      constructor
      · intro equal
        have reread := parse_written fits (inCksum_lt buf)
        rw [equal, parsed, Except.ok.injEq] at reread
        have sums := congrArg Summed.sum reread
        rw [zero] at sums
        exact sums.symm
      · intro nothing
        rw [nothing]
        exact same.symm
    rw [wrote, ← fields]
    constructor
    · rintro ⟨filled, equal⟩
      rw [Except.ok.injEq, Prod.mk.injEq] at equal
      exact Or.inr equal.2
    · rintro (set | equal)
      · exact absurd zero set
      · rw [equal]
        exact ⟨_, rfl⟩
  · have computedEq : self.computed = self.sum := if_neg zero
    rw [computedEq, ← same] at wrote
    exact iff_of_true ⟨_, wrote⟩ (Or.inl zero)

end Summed

/-! ### VRRP -/

/-- The header of `VRRP` ends with its checksum. -/
def vrrp : SummedClass where
  name := "VRRP"
  front := [.int 1, .int 1, .int 1, .int 1, .int 1, .int 1]
  behind := []
  even := rfl

structure VRRP where
  vType : Nat
  vrid : Nat
  priority : Nat
  count : Nat
  atype : Nat
  advtime : Nat
  sum : Nat
  addrs : List Bytes
  auth : Bytes
deriving DecidableEq, Repr

namespace VRRP

/-- The packet of the family: its data is `b''.join(self.addrs) + self.auth`. -/
def toSummed (self : VRRP) : Summed vrrp where
  front := (self.vType, self.vrid, self.priority, self.count, self.atype,
    self.advtime, ())
  sum := self.sum
  behind := ()
  data := self.addrs.flatten ++ self.auth

/-- What `off` is behind the loop over the addresses. -/
def lastOff (count : Nat) : Nat := 4 * (count - 1)

/-- `unpack` behind the header. -/
def ofSummed (packet : Summed vrrp) : VRRP :=
  let (vType, vrid, priority, count, atype, advtime, _) := packet.front
  { vType, vrid, priority, count, atype, advtime
    sum := packet.sum
    addrs := (List.range count).map fun i =>
      cut packet.data (4 * i) (4 * i + 4)
    auth := packet.data.drop (lastOff count + 4) }

def parse (buf : Bytes) : Except PyError VRRP := do
  .ok (ofSummed (← Summed.parse vrrp buf))

def bytes (self : VRRP) : Except PyError (VRRP × Bytes) := do
  let (filled, out) ← self.toSummed.bytes
  .ok ({ self with sum := filled.sum }, out)

theorem flatten_slices (data : Bytes) (count : Nat) :
    ((List.range count).map fun i => cut data (4 * i) (4 * i + 4)).flatten =
      data.take (4 * count) := by
  induction count with
  | zero => rfl
  | succ count ih =>
      rw [List.range_succ, List.map_append, List.flatten_append, ih]
      change data.take (4 * count) ++
        (cut data (4 * count) (4 * count + 4) ++ []) = _
      rw [List.append_nil, take_append_cut (Nat.le_add_right _ 4)]
      rfl

theorem lastOff_add {count : Nat} (some : count ≠ 0) :
    lastOff count + 4 = 4 * count := by
  unfold lastOff
  omega

/-- Without addresses the first four bytes behind the header are lost. -/
theorem toSummed_ofSummed (packet : Summed vrrp) :
    (ofSummed packet).toSummed =
      if (ofSummed packet).count = 0 then
        { packet with data := packet.data.drop 4 }
      else packet := by
  obtain ⟨⟨vType, vrid, priority, count, atype, advtime, _⟩, sum, _, data⟩ :=
    packet
  have joined := flatten_slices data count
  change (⟨_, _, _, ((List.range count).map _).flatten ++
    data.drop (lastOff count + 4)⟩ : Summed vrrp) = if count = 0 then _ else _
  rw [joined]
  by_cases none : count = 0
  · rw [if_pos none, none]
    rfl
  · have behind := lastOff_add none
    rw [if_neg none, behind, List.take_append_drop]
    rfl

theorem bytes_eq_ok {packet : Summed vrrp} (fits : packet.Fits)
    (word : packet.sum < 256 ^ 2) {filled : VRRP} {out : Bytes}
    (wrote : (ofSummed packet).bytes = .ok (filled, out)) :
    out.length = 8 + (ofSummed packet).toSummed.data.length := by
  have data := toSummed_ofSummed packet
  have fits' : (ofSummed packet).toSummed.Fits := by
    rw [data]
    split
    · exact ⟨fits.front, fits.behind⟩
    · exact fits
  have word' : (ofSummed packet).toSummed.sum < 256 ^ 2 := word
  unfold VRRP.bytes at wrote
  rw [Summed.bytes_ok fits' word', ok_bind] at wrote
  dsimp only at wrote
  rw [Except.ok.injEq, Prod.mk.injEq] at wrote
  rw [← wrote.2, Summed.written_length fits']
  rfl

theorem bytes_buf_iff (self : VRRP) (buf : Bytes) :
    (∃ filled, self.bytes = .ok (filled, buf)) ↔
      ∃ filled, self.toSummed.bytes = .ok (filled, buf) := by
  unfold VRRP.bytes
  constructor
  · rintro ⟨filled, wrote⟩
    obtain ⟨⟨packet, out⟩, written, done⟩ := bind_eq_ok.mp wrote
    dsimp only at done
    rw [Except.ok.injEq, Prod.mk.injEq] at done
    rw [done.2] at written
    exact ⟨packet, written⟩
  · rintro ⟨packet, written⟩
    rw [written]
    exact ⟨_, rfl⟩

/-- A VRRP packet is written as it was read exactly when it has an address or
nothing behind its header, and its checksum is there or comes out zero. -/
theorem vrrp_rewritten_iff (buf : Bytes) {self : VRRP}
    (parsed : VRRP.parse buf = .ok self) :
    (∃ filled, self.bytes = .ok (filled, buf)) ↔
      (self.count ≠ 0 ∨ buf.length = 8) ∧
        (self.sum ≠ 0 ∨ inCksum buf = 0) := by
  obtain ⟨packet, read, made⟩ := bind_eq_ok.mp parsed
  rw [Except.ok.injEq] at made
  obtain ⟨fits, word, same⟩ := Summed.written_of_parse read
  have length : buf.length = 8 + packet.data.length := by
    rw [same]
    exact Summed.written_length fits packet.sum
  have sums : self.sum = packet.sum := by
    rw [← made]
    rfl
  have data := toSummed_ofSummed packet
  rw [made] at data
  -- the packet of the family comes back as it was
  have kept (equal : self.toSummed = packet) :
      (∃ filled, self.bytes = .ok (filled, buf)) ↔
        (self.sum ≠ 0 ∨ inCksum buf = 0) := by
    rw [bytes_buf_iff, equal, sums]
    exact Summed.bytes_buf_iff buf read
  by_cases none : self.count = 0
  · rw [if_pos none] at data
    by_cases bare : buf.length = 8
    · have empty : packet.data = [] := by
        rw [← List.length_eq_zero_iff]
        omega
      have whole : self.toSummed = packet := by
        rw [data, empty]
        cases packet
        cases empty
        rfl
      rw [kept whole]
      exact (and_iff_right (Or.inr bare)).symm
    · refine iff_of_false ?_ fun both => ?_
      · rintro ⟨filled, wrote⟩
        rw [← made] at wrote
        have shorter := bytes_eq_ok fits word wrote
        rw [made, data] at shorter
        dsimp only at shorter
        rw [List.length_drop] at shorter
        omega
      · rcases both.1 with some | alone
        · exact some none
        · exact bare alone
  · rw [if_neg none] at data
    rw [kept data]
    exact (and_iff_right (Or.inl none)).symm

/-- The packet of the tests with one address. -/
theorem vrrp_rewritten_iff_one :
    let buf : Bytes :=
      [0x21, 0x01, 0x64, 0x01, 0x00, 0x01, 0xba, 0x52, 0xc0, 0xa8, 0x00, 0x01,
        0, 0, 0, 0, 0, 0, 0, 0]
    ∃ self filled, VRRP.parse buf = .ok self ∧
      self.bytes = .ok (filled, buf) := by
  intro buf
  have parsed : VRRP.parse buf =
      .ok
        { vType := 0x21, vrid := 1, priority := 0x64, count := 1, atype := 0
          advtime := 1, sum := 0xba52, addrs := [[0xc0, 0xa8, 0, 1]]
          auth := [0, 0, 0, 0, 0, 0, 0, 0] } := rfl
  obtain ⟨filled, written⟩ := (vrrp_rewritten_iff buf parsed).mpr
    ⟨Or.inl (by decide), Or.inl (by decide)⟩
  exact ⟨_, filled, parsed, written⟩

end VRRP

end DpktNg.Inet
