/-
EIGRP packets, `EIGRP` of dpkt/eigrp.py: the header, the message that the opcode
selects, and the checksum that `bytes` fills in.

The six classes of messages differ in their names only.  They keep the bytes
that they were made of, so writing a packet does not depend on its TLVs; parsing
it does, since an external route may be one byte too short for its class.
-/

import DpktNg.Eigrp.Hello
import DpktNg.Inet.Checksummed

namespace DpktNg.Eigrp

open Library DpktNg.Inet

inductive Opcode where
  | update
  | query
  | reply
  | hello
  | siaQuery
  | siaReply
deriving DecidableEq, Repr

def opcodeSw : List (Nat × Opcode) :=
  [(5, .hello), (1, .update), (3, .query), (4, .reply), (10, .siaQuery),
    (11, .siaReply)]

def Opcode.className : Opcode → String
  | .update => "EIGRPUpdate"
  | .query => "EIGRPQuery"
  | .reply => "EIGRPReply"
  | .hello => "EIGRPHello"
  | .siaQuery => "EIGRPSIAQuery"
  | .siaReply => "EIGRPSIAReply"

/-- A message of one of the classes: its bytes, and the TLVs in them. -/
structure EIGRPMessage where
  opcode : Opcode
  buf : Bytes
  tlvs : List MessageTLV

namespace EIGRPMessage

def unpack (opcode : Opcode) (buf : Bytes) : Except PyError EIGRPMessage := do
  .ok { opcode, buf, tlvs := ← parseTlvs buf }

def parse (opcode : Opcode) : Bytes → Except PyError EIGRPMessage :=
  packetInit opcode.className none (unpack opcode)

end EIGRPMessage

inductive EIGRPData where
  | raw (data : Bytes)
  | message (body : EIGRPMessage)

def EIGRPData.bytes : EIGRPData → Bytes
  | .raw data => data
  | .message body => body.buf

structure EIGRP where
  v : Nat
  opcode : Nat
  sum : Nat
  flags : Nat
  seq : Nat
  ack : Nat
  asn : Nat
  data : EIGRPData

namespace EIGRP

/-- The packet of the family that fill in their checksums. -/
def toSummed (self : EIGRP) : Summed eigrp where
  front := (self.v, self.opcode, ())
  sum := self.sum
  behind := (self.flags, self.seq, self.ack, self.asn, ())
  data := self.data.bytes

def unpackData (opcode : Nat) (data : Bytes) : Except PyError EIGRPData :=
  match opcodeSw.lookup opcode with
  | some cls => do .ok (.message (← EIGRPMessage.parse cls data))
  | none => .ok (.raw data)

def opcodeOf (packet : Summed eigrp) : Nat :=
  let (_, opcode, _) := packet.front
  opcode

/-- The packet with the object that `data` becomes. -/
def ofSummed (packet : Summed eigrp) (data : EIGRPData) : EIGRP :=
  let (v, opcode, _) := packet.front
  let (flags, seq, ack, asn, _) := packet.behind
  { v, opcode, sum := packet.sum, flags, seq, ack, asn, data }

def unpack (buf : Bytes) : Except PyError EIGRP := do
  let packet ← Summed.unpack eigrp buf
  .ok (ofSummed packet (← unpackData (opcodeOf packet) packet.data))

def parse : Bytes → Except PyError EIGRP :=
  packetInit "EIGRP" (some eigrp.hdrLen) unpack

def bytes (self : EIGRP) : Except PyError (EIGRP × Bytes) := do
  let (filled, out) ← self.toSummed.bytes
  .ok ({ self with sum := filled.sum }, out)

end EIGRP

/-- The value of a TLV that is all there. -/
def tlvValue (chunk : Bytes) : Bytes := chunk.drop 4

theorem value_ofBytes {chunk : Bytes} (whole : tlvCutter.Whole chunk) :
    (EIGRPTLV.ofBytes chunk).value = tlvValue chunk := by
  obtain ⟨_enough, _least, _within, length⟩ := tlvCutter_eq_some.mp whole
  unfold EIGRPTLV.ofBytes tlvValue
  dsimp only
  rw [length]
  unfold cut
  rw [List.take_of_length_le (le_of_eq List.length_drop)]

/-- The length of the prefix that the class of internal routes finds. -/
def foundPrefixLength (value : Bytes) : Nat :=
  if value.length < 26 then 0 else (value.getD 20 0).toNat

theorem internalRoute_parsed {chunk : Bytes} (whole : tlvCutter.Whole chunk) :
    ∃ route, EIGRPInternalRouteTLV.parse chunk = .ok route ∧
      route.prefixLength = foundPrefixLength (tlvValue chunk) := by
  obtain ⟨enough, _least, _within, _length⟩ := tlvCutter_eq_some.mp whole
  have unpacked : EIGRPTLV.unpack chunk = .ok (EIGRPTLV.ofBytes chunk) :=
    if_neg (Nat.not_lt_of_le enough)
  unfold EIGRPInternalRouteTLV.parse foundPrefixLength
  rw [unpacked, ok_bind, value_ofBytes whole]
  dsimp only
  generalize tlvValue chunk = value
  by_cases short : value.length < 26
  · rw [if_pos short, if_pos short]
    exact ⟨_, rfl, rfl⟩
  · have word {start : Nat} (le : start + 4 ≤ 26) :
        unpackBe 4 (cut value start (start + 4)) =
          .ok (beNat (cut value start (start + 4))) := by
      refine unpackBe_eq_ok.mpr ⟨?_, rfl⟩
      rw [cut_length_of_le (by omega)]
      omega
    have mtu : unpackBe 4 (cut value 12 15 ++ [0]) =
        .ok (beNat (cut value 12 15 ++ [0])) := by
      refine unpackBe_eq_ok.mpr ⟨?_, rfl⟩
      rw [List.length_append, cut_length_of_le (by omega)]
      rfl
    have octet {index : Nat} (inside : index < 26) :
        byteAt value index = .ok (value.getD index 0).toNat := by
      rw [byteAt_inside (by omega), List.getD_eq_getElem _ _ (by omega)]
    rw [if_neg short, if_neg short, word (by omega), ok_bind, word (by omega),
      ok_bind, word (by omega), ok_bind, mtu, ok_bind, octet (by omega),
      ok_bind, octet (by omega), ok_bind, octet (by omega), ok_bind,
      octet (by omega), ok_bind]
    exact ⟨_, rfl, rfl⟩

/-- An external route whose value ends just where its last field would be. -/
def EndsEarly (chunk : Bytes) : Prop :=
  beNat (cut chunk 0 2) = tlvExternalRoute ∧
    (tlvValue chunk).length =
      34 + prefixBytes (foundPrefixLength (tlvValue chunk))

instance (chunk : Bytes) : Decidable (EndsEarly chunk) :=
  inferInstanceAs (Decidable (_ ∧ _))

/-- The class of external routes checks for thirteen bytes and reads
fourteen. -/
theorem externalRoute_parsed {chunk : Bytes} (whole : tlvCutter.Whole chunk) :
    if (tlvValue chunk).length =
        34 + prefixBytes (foundPrefixLength (tlvValue chunk)) then
      EIGRPExternalRouteTLV.parse chunk = .error .indexError
    else ∃ route, EIGRPExternalRouteTLV.parse chunk = .ok route := by
  obtain ⟨route, parsed, prefixLength⟩ := internalRoute_parsed whole
  unfold EIGRPExternalRouteTLV.parse
  rw [parsed, ok_bind, value_ofBytes whole]
  dsimp only
  rw [prefixLength]
  generalize tlvValue chunk = value
  generalize prefixBytes (foundPrefixLength value) = octets
  by_cases enough : 21 + octets + 13 ≤ value.length
  · have word {start : Nat} (le : start + 4 ≤ value.length) :
        unpackBe 4 (cut value start (start + 4)) =
          .ok (beNat (cut value start (start + 4))) := by
      refine unpackBe_eq_ok.mpr ⟨?_, rfl⟩
      rw [cut_length_of_le le]
      omega
    rw [if_pos enough, word (by omega), ok_bind,
      show 21 + octets + 8 = 21 + octets + 4 + 4 by omega, word (by omega),
      ok_bind, show 21 + octets + 12 = 21 + octets + 4 + 4 + 4 by omega,
      word (by omega), ok_bind, byteAt_inside (by omega), ok_bind]
    split
    · rw [byteAt_outside (by omega)]
      rfl
    · rw [byteAt_inside (by omega)]
      exact ⟨_, rfl⟩
  · rw [if_neg enough, if_neg (by omega)]
    exact ⟨_, rfl⟩

theorem messageTlv_parsed {chunk : Bytes} (whole : tlvCutter.Whole chunk) :
    if EndsEarly chunk then
      MessageTLV.parse (beNat (cut chunk 0 2)) chunk = .error .indexError
    else ∃ tlv, MessageTLV.parse (beNat (cut chunk 0 2)) chunk = .ok tlv := by
  obtain ⟨enough, _least, _within, _length⟩ := tlvCutter_eq_some.mp whole
  have unpacked : EIGRPTLV.unpack chunk = .ok (EIGRPTLV.ofBytes chunk) :=
    if_neg (Nat.not_lt_of_le enough)
  unfold MessageTLV.parse
  by_cases isParam : beNat (cut chunk 0 2) = tlvParam
  · have other : ¬EndsEarly chunk := by
      rintro ⟨isExternal, _length⟩
      rw [isParam] at isExternal
      exact absurd isExternal (by decide)
    rw [if_pos isParam, if_neg other]
    exact ⟨_, rfl⟩
  · rw [if_neg isParam]
    by_cases isInternal : beNat (cut chunk 0 2) = tlvInternalRoute
    · have other : ¬EndsEarly chunk := by
        rintro ⟨isExternal, _length⟩
        rw [isInternal] at isExternal
        exact absurd isExternal (by decide)
      obtain ⟨route, parsed, _found⟩ := internalRoute_parsed whole
      rw [if_pos isInternal, if_neg other, parsed]
      exact ⟨_, rfl⟩
    · rw [if_neg isInternal]
      by_cases isExternal : beNat (cut chunk 0 2) = tlvExternalRoute
      · have outcome := externalRoute_parsed whole
        rw [if_pos isExternal]
        by_cases early : EndsEarly chunk
        · rw [if_pos early.2] at outcome
          rw [if_pos early, outcome]
          rfl
        · have long := fun length => early ⟨isExternal, length⟩
          rw [if_neg long] at outcome
          obtain ⟨route, parsed⟩ := outcome
          rw [if_neg early, parsed]
          exact ⟨_, rfl⟩
      · have other : ¬EndsEarly chunk := fun early => isExternal early.1
        rw [if_neg isExternal, if_neg other, unpacked]
        exact ⟨_, rfl⟩

/-- The loop over the TLVs fails with the first external route that ends early,
and with nothing else. -/
theorem parseTlvs_outcome (rest : Bytes) :
    ((∀ chunk ∈ tlvCutter.chunks rest, ¬EndsEarly chunk) →
        ∃ tlvs, parseTlvs rest = .ok tlvs) ∧
      ((∃ chunk ∈ tlvCutter.chunks rest, EndsEarly chunk) →
        parseTlvs rest = .error .indexError) := by
  fun_induction parseTlvs rest with
  | case1 rest enough slen stops =>
      have none : tlvCutter.next rest = none :=
        tlvCutter_eq_none.mpr (Or.inr stops)
      rw [Cutter.chunks_none none]
      refine ⟨fun _none => ⟨_, rfl⟩, ?_⟩
      rintro ⟨chunk, impossible, _early⟩
      cases impossible
  | case2 rest enough slen goes ih =>
      have here : tlvCutter.next rest = some slen := by
        refine tlvCutter_eq_some.mpr ⟨enough, ?_, ?_, rfl⟩
        · omega
        · omega
      have length : (rest.take slen).length = slen := by
        rw [List.length_take]
        omega
      have whole : tlvCutter.Whole (rest.take slen) := by
        refine tlvCutter_eq_some.mpr ⟨by omega, by omega, le_rfl, ?_⟩
        rw [cut_take (by omega), length]
      have type : beNat (cut (rest.take slen) 0 2) = beNat (cut rest 0 2) := by
        rw [cut_take (by omega)]
      have outcome := messageTlv_parsed whole
      rw [type] at outcome
      rw [Cutter.chunks_some here]
      simp only [List.forall_mem_cons, List.exists_mem_cons_iff]
      by_cases early : EndsEarly (rest.take slen)
      · rw [if_pos early] at outcome
        rw [outcome]
        exact ⟨fun both => absurd early both.1, fun _early => rfl⟩
      · rw [if_neg early] at outcome
        obtain ⟨tlv, parsed⟩ := outcome
        rw [parsed, ok_bind]
        refine ⟨?_, ?_⟩
        · rintro ⟨_here, later⟩
          obtain ⟨tlvs, others⟩ := ih.1 later
          rw [others]
          exact ⟨_, rfl⟩
        · rintro (now | later)
          · exact absurd now early
          · rw [ih.2 later]
            rfl
  | case3 rest short =>
      have none : tlvCutter.next rest = none :=
        tlvCutter_eq_none.mpr (Or.inl (by omega))
      rw [Cutter.chunks_none none]
      refine ⟨fun _none => ⟨_, rfl⟩, ?_⟩
      rintro ⟨chunk, impossible, _early⟩
      cases impossible

/-- The messages of the opcodes in `opcodeSw` have an external route that ends
early. -/
def FailsOn (opcode : Nat) (data : Bytes) : Prop :=
  opcodeSw.lookup opcode ≠ none ∧
    ∃ chunk ∈ tlvCutter.chunks data, EndsEarly chunk

theorem unpackData_outcome (opcode : Nat) (data : Bytes) :
    (¬FailsOn opcode data →
        ∃ body, EIGRP.unpackData opcode data = .ok body ∧ body.bytes = data) ∧
      (FailsOn opcode data →
        EIGRP.unpackData opcode data = .error .indexError) := by
  obtain ⟨accepted, refused⟩ := parseTlvs_outcome data
  unfold FailsOn EIGRP.unpackData EIGRPMessage.parse
  cases opcodeSw.lookup opcode with
  | none => exact ⟨fun _plain => ⟨_, rfl, rfl⟩, fun fails => absurd rfl fails.1⟩
  | some cls =>
      have known : some cls ≠ none := Option.some_ne_none cls
      dsimp only
      refine ⟨fun fine => ?_, fun fails => ?_⟩
      · obtain ⟨tlvs, parsed⟩ := accepted fun chunk member early =>
          fine ⟨known, chunk, member, early⟩
        have unpacked : EIGRPMessage.unpack cls data =
            .ok { opcode := cls, buf := data, tlvs } := by
          unfold EIGRPMessage.unpack
          rw [parsed, ok_bind]
        rw [packetInit_eq_ok.mpr unpacked, ok_bind]
        exact ⟨_, rfl, rfl⟩
      · have unpacked : EIGRPMessage.unpack cls data = .error .indexError := by
          unfold EIGRPMessage.unpack
          rw [refused fails.2]
          rfl
        rw [packetInit_passes unpacked (by intro same; cases same)]
        rfl

namespace EIGRP

theorem toSummed_ofSummed {packet : Summed eigrp} {data : EIGRPData}
    (kept : data.bytes = packet.data) :
    (ofSummed packet data).toSummed = packet := by
  obtain ⟨⟨v, opcode, _⟩, sum, ⟨flags, seq, ack, asn, _⟩, raw⟩ := packet
  unfold toSummed ofSummed
  dsimp only
  rw [kept]

theorem summed_unpacked {buf : Bytes} (enough : 20 ≤ buf.length) :
    ∃ packet, Summed.unpack eigrp buf = .ok packet ∧
      opcodeOf packet = beNat (cut buf 1 2) ∧ packet.data = buf.drop 20 := by
  have taken : takeHeader eigrp.hdrLen buf = .ok (buf.take 20, buf.drop 20) :=
    takeHeader_eq_ok.mpr ⟨enough, rfl, rfl⟩
  unfold Summed.unpack
  rw [taken, ok_bind]
  refine ⟨_, rfl, ?_, rfl⟩
  change beNat (cut (buf.take 20) 1 2) = _
  rw [cut_take (by omega)]

theorem parse_short {buf : Bytes} (short : buf.length < 20) :
    parse buf = .error (.tooShort buf.length 20) := by
  have raised : unpack buf = .error .structError := by
    have taken : takeHeader eigrp.hdrLen buf = .error .structError :=
      if_pos short
    unfold unpack Summed.unpack
    rw [taken]
    rfl
  exact packetInit_short raised short

/-- Behind a whole header only the TLVs of a message can fail. -/
theorem parse_outcome {buf : Bytes} (enough : 20 ≤ buf.length) :
    (¬FailsOn (beNat (cut buf 1 2)) (buf.drop 20) →
        ∃ packet self, Summed.parse eigrp buf = .ok packet ∧
          parse buf = .ok self ∧ self.toSummed = packet) ∧
      (FailsOn (beNat (cut buf 1 2)) (buf.drop 20) →
        parse buf = .error .indexError) := by
  obtain ⟨packet, read, opcode, data⟩ := summed_unpacked enough
  obtain ⟨accepted, refused⟩ :=
    unpackData_outcome (opcodeOf packet) packet.data
  rw [← opcode, ← data]
  refine ⟨fun fine => ?_, fun fails => ?_⟩
  · obtain ⟨body, unpacked, kept⟩ := accepted fine
    have done : unpack buf = .ok (ofSummed packet body) := by
      unfold unpack
      rw [read, ok_bind, unpacked, ok_bind]
    exact ⟨packet, _, packetInit_eq_ok.mpr read, packetInit_eq_ok.mpr done,
      toSummed_ofSummed kept⟩
  · have raised : unpack buf = .error .indexError := by
      unfold unpack
      rw [read, ok_bind, refused fails]
      rfl
    exact packetInit_passes raised (by intro same; cases same)

theorem bytes_iff (self : EIGRP) (buf : Bytes) :
    (∃ filled, self.bytes = .ok (filled, buf)) ↔
      ∃ filled, self.toSummed.bytes = .ok (filled, buf) := by
  unfold EIGRP.bytes
  constructor
  · rintro ⟨filled, wrote⟩
    obtain ⟨⟨packet, out⟩, written, done⟩ := bind_eq_ok.mp wrote
    dsimp only at done
    rw [Except.ok.injEq, Prod.mk.injEq] at done
    rw [done.2] at written
    exact ⟨packet, written⟩
  · rintro ⟨packet, written⟩
    rw [written]
    exact ⟨_, rfl⟩

/-- A buffer is a packet when it has the header, and no message behind it in
which an external route ends early; such a message raises `IndexError`.  A
packet is written as it was read when it has a checksum or needs none. -/
theorem eigrp_accepted_iff (buf : Bytes) :
    ((∃ self, parse buf = .ok self) ↔
        20 ≤ buf.length ∧ ¬FailsOn (beNat (cut buf 1 2)) (buf.drop 20)) ∧
      (parse buf = .error .indexError ↔
        20 ≤ buf.length ∧ FailsOn (beNat (cut buf 1 2)) (buf.drop 20)) ∧
      ∀ self, parse buf = .ok self →
        ((∃ filled, self.bytes = .ok (filled, buf)) ↔
          self.sum ≠ 0 ∨ inCksum buf = 0) := by
  by_cases enough : 20 ≤ buf.length
  · obtain ⟨accepted, refused⟩ := parse_outcome enough
    simp only [enough, true_and]
    by_cases fails : FailsOn (beNat (cut buf 1 2)) (buf.drop 20)
    · have raised := refused fails
      rw [raised]
      refine ⟨iff_of_false ?_ fun fine => fine fails, iff_of_true rfl fails, ?_⟩
      · rintro ⟨self, impossible⟩
        cases impossible
      · intro self impossible
        cases impossible
    · obtain ⟨packet, self, read, parsed, kept⟩ := accepted fails
      rw [parsed]
      refine ⟨iff_of_true ⟨_, rfl⟩ fails, iff_of_false ?_ fails, ?_⟩
      · intro impossible
        cases impossible
      · intro self' same
        rw [Except.ok.injEq] at same
        have sums : self.sum = packet.sum := congrArg Summed.sum kept
        rw [← same, bytes_iff, kept, sums]
        exact Summed.bytes_buf_iff buf read
  · rw [parse_short (Nat.lt_of_not_le enough)]
    refine ⟨iff_of_false ?_ fun both => enough both.1,
      iff_of_false ?_ fun both => enough both.1, ?_⟩
    · rintro ⟨self, impossible⟩
      cases impossible
    · intro impossible
      cases impossible
    · intro self impossible
      cases impossible

end EIGRP

end DpktNg.Eigrp
