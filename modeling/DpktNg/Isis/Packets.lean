/-
IS-IS packets, `ISIS` of dpkt/isis.py: the header, the nine classes of PDUs with
their fixed parts, and the TLVs behind these.

The classes of PDUs have no `__hdr__`, so a `struct.error` inside one of them
leaves as the `AttributeError` that `Packet.__init__` raises when it looks for
`__hdr_len__`, and `bytes` of a packet with a PDU raises one as well.
-/

import DpktNg.Isis.Tlvs
import DpktNg.Python.FixedReads
import DpktNg.Python.StructFormat

namespace DpktNg.Isis

open Library TypeLengthValue

structure ISISHeader where
  nlpid : Nat
  hdrLen : Nat
  version : Nat
  idLen : Nat
  pduType : Nat
  version2 : Nat
  rsvd : Nat
  maxArea : Nat
deriving DecidableEq, Repr

def ISISHeader.format : StructFormat ISISHeader where
  items :=
    [.int 1, .int 1, .int 1, .int 1, .int 1, .int 1, .int 1, .int 1]
  values header :=
    (header.nlpid, header.hdrLen, header.version, header.idLen,
      header.pduType, header.version2, header.rsvd, header.maxArea, ())
  ofValues := fun (nlpid, hdrLen, version, idLen, pduType, version2, rsvd,
      maxArea, _) =>
    { nlpid, hdrLen, version, idLen, pduType, version2, rsvd, maxArea }
  ofValues_values _ := rfl

/-! ### PDUs -/

structure ISISLANHello where
  circuitType : Nat
  sourceId : Bytes
  holdTime : Nat
  pduLen : Nat
  priority : Nat
  lanId : Bytes
  tlvs : List ISISTLV
deriving DecidableEq, Repr

structure ISISP2PHello where
  circuitType : Nat
  sourceId : Bytes
  holdTime : Nat
  pduLen : Nat
  localCircuitId : Nat
  tlvs : List ISISTLV
deriving DecidableEq, Repr

structure ISISLSP where
  pduLen : Nat
  remainingLife : Nat
  lspId : Bytes
  seq : Nat
  checksum : Nat
  flags : Nat
  tlvs : List ISISTLV
deriving DecidableEq, Repr

structure ISISCSNP where
  pduLen : Nat
  sourceId : Bytes
  startLspId : Bytes
  endLspId : Bytes
  tlvs : List ISISTLV
deriving DecidableEq, Repr

structure ISISPSNP where
  pduLen : Nat
  sourceId : Bytes
  tlvs : List ISISTLV
deriving DecidableEq, Repr

def ISISLANHello.unpack (buf : Bytes) : Except PyError ISISLANHello := do
  let circuitType ← byteAt buf 0
  let holdTime ← unpackBe 2 (cut buf 7 9)
  let pduLen ← unpackBe 2 (cut buf 9 11)
  let priority ← byteAt buf 11
  let tlvs ← parseTlvs (buf.drop 19)
  .ok
    { circuitType, sourceId := cut buf 1 7, holdTime, pduLen, priority
      lanId := cut buf 12 19, tlvs }

def ISISP2PHello.unpack (buf : Bytes) : Except PyError ISISP2PHello := do
  let circuitType ← byteAt buf 0
  let holdTime ← unpackBe 2 (cut buf 7 9)
  let pduLen ← unpackBe 2 (cut buf 9 11)
  let localCircuitId ← byteAt buf 11
  let tlvs ← parseTlvs (buf.drop 12)
  .ok
    { circuitType, sourceId := cut buf 1 7, holdTime, pduLen, localCircuitId
      tlvs }

def ISISLSP.unpack (buf : Bytes) : Except PyError ISISLSP := do
  let pduLen ← unpackBe 2 (cut buf 0 2)
  let remainingLife ← unpackBe 2 (cut buf 2 4)
  let seq ← unpackBe 4 (cut buf 12 16)
  let checksum ← unpackBe 2 (cut buf 16 18)
  let flags ← byteAt buf 18
  let tlvs ← parseTlvs (buf.drop 19)
  .ok
    { pduLen, remainingLife, lspId := cut buf 4 12, seq, checksum, flags
      tlvs }

def ISISCSNP.unpack (buf : Bytes) : Except PyError ISISCSNP := do
  let pduLen ← unpackBe 2 (cut buf 0 2)
  let tlvs ← parseTlvs (buf.drop 26)
  .ok
    { pduLen, sourceId := cut buf 2 10, startLspId := cut buf 10 18
      endLspId := cut buf 18 26, tlvs }

def ISISPSNP.unpack (buf : Bytes) : Except PyError ISISPSNP := do
  let pduLen ← unpackBe 2 (cut buf 0 2)
  let tlvs ← parseTlvs (buf.drop 10)
  .ok { pduLen, sourceId := cut buf 2 10, tlvs }

/-- Level 1 and level 2 have a class each, the one a subclass of the other. -/
inductive Level where
  | l1
  | l2
deriving DecidableEq, Repr

inductive PDU where
  | lanHello (level : Level) (hello : ISISLANHello)
  | p2pHello (hello : ISISP2PHello)
  | lsp (level : Level) (body : ISISLSP)
  | csnp (level : Level) (body : ISISCSNP)
  | psnp (level : Level) (body : ISISPSNP)
deriving DecidableEq, Repr

def PDU.tlvs : PDU → List ISISTLV
  | .lanHello _ hello => hello.tlvs
  | .p2pHello hello => hello.tlvs
  | .lsp _ body => body.tlvs
  | .csnp _ body => body.tlvs
  | .psnp _ body => body.tlvs

inductive PDUClass where
  | lanHello (level : Level)
  | p2pHello
  | lsp (level : Level)
  | csnp (level : Level)
  | psnp (level : Level)
deriving DecidableEq, Repr

def pduSw : List (Nat × PDUClass) :=
  [(1, .lanHello .l1), (2, .lanHello .l2), (3, .p2pHello), (4, .lsp .l1),
    (5, .lsp .l2), (6, .csnp .l1), (7, .csnp .l2), (8, .psnp .l1),
    (9, .psnp .l2)]

def PDUClass.unpack (buf : Bytes) : PDUClass → Except PyError PDU
  | .lanHello level => do .ok (.lanHello level (← ISISLANHello.unpack buf))
  | .p2pHello => do .ok (.p2pHello (← ISISP2PHello.unpack buf))
  | .lsp level => do .ok (.lsp level (← ISISLSP.unpack buf))
  | .csnp level => do .ok (.csnp level (← ISISCSNP.unpack buf))
  | .psnp level => do .ok (.psnp level (← ISISPSNP.unpack buf))

def PDUClass.parse (cls : PDUClass) : Bytes → Except PyError PDU :=
  packetInit "ISISPDU" none fun buf => cls.unpack buf

inductive ISISData where
  | raw (data : Bytes)
  | pdu (pdu : PDU)
deriving DecidableEq, Repr

structure ISIS where
  header : ISISHeader
  data : ISISData
deriving DecidableEq, Repr

namespace ISIS

def unpackData (pduType : Nat) (data : Bytes) : Except PyError ISISData :=
  match pduSw.lookup pduType with
  | some cls =>
      if data = [] then .ok (.raw data) else do .ok (.pdu (← cls.parse data))
  | none => .ok (.raw data)

def unpack (buf : Bytes) : Except PyError ISIS := do
  let (header, data) ← ISISHeader.format.unpackHdr .big buf
  let data ← unpackData header.pduType data
  .ok { header, data }

def parse : Bytes → Except PyError ISIS :=
  packetInit "ISIS" (some ISISHeader.format.size) unpack

def bytes (self : ISIS) : Except PyError Bytes := do
  let header ← ISISHeader.format.packHdr .big self.header
  match self.data with
  | .raw data => .ok (header ++ data)
  | .pdu _ => .error .attributeError

end ISIS

/-! ### The fixed parts -/

section Reads

variable {α : Type} {buf : Bytes} {good : α → Prop}

/-- The TLVs come last, and reading them never fails. -/
theorem follows_tlvs (behind : Nat) {rest : List ISISTLV → α}
    (kept : ∀ tlvs, parseTlvs (buf.drop behind) = .ok tlvs →
      good (rest tlvs)) :
    Follows buf [] good (do
      let tlvs ← parseTlvs (buf.drop behind)
      .ok (rest tlvs)) := by
  obtain ⟨tlvs, _joined, parsed, _bytes, _longest⟩ :=
    parseTlvs_longest (buf.drop behind)
  change ∃ value, _
  rw [parsed, ok_bind]
  exact ⟨_, rfl, kept tlvs parsed⟩

end Reads

def PDU.cls : PDU → PDUClass
  | .lanHello level _ => .lanHello level
  | .p2pHello _ => .p2pHello
  | .lsp level _ => .lsp level
  | .csnp level _ => .csnp level
  | .psnp level _ => .psnp level

namespace PDUClass

/-- What the `unpack` of a class reads outside slices. -/
def reads : PDUClass → List FixedRead
  | .lanHello _ | .p2pHello =>
      [.byte 0, .number 7 9, .number 9 11, .byte 11]
  | .lsp _ =>
      [.number 0 2, .number 2 4, .number 12 16, .number 16 18, .byte 18]
  | .csnp _ | .psnp _ => [.number 0 2]

/-- Where the TLVs begin. -/
def tlvsFrom : PDUClass → Nat
  | .lanHello _ => 19
  | .p2pHello => 12
  | .lsp _ => 19
  | .csnp _ => 26
  | .psnp _ => 10

/-- How many bytes are read by index or as numbers.  The texts between and behind
them are slices, which may come out short. -/
def needs : PDUClass → Nat
  | .lanHello _ | .p2pHello => 12
  | .lsp _ => 19
  | .csnp _ | .psnp _ => 2

/-- The last of these bytes is read by its index. -/
def endsInByte : PDUClass → Bool
  | .lanHello _ | .p2pHello | .lsp _ => true
  | .csnp _ | .psnp _ => false

end PDUClass

/-- A PDU of the class, with the TLVs behind its fixed part. -/
structure PDU.Reads (buf : Bytes) (cls : PDUClass) (pdu : PDU) : Prop where
  cls_eq : pdu.cls = cls
  tlvs_eq : parseTlvs (buf.drop cls.tlvsFrom) = .ok pdu.tlvs

theorem PDUClass.unpack_follows (cls : PDUClass) (buf : Bytes) :
    Follows buf cls.reads (PDU.Reads buf cls) (cls.unpack buf) := by
  cases cls with
  | lanHello level =>
      simp only [PDUClass.unpack, ISISLANHello.unpack, bind_assoc, ok_bind]
      refine .byte 0 fun _circuit => ?_
      refine .number (by decide) (by decide) fun _hold => ?_
      refine .number (by decide) (by decide) fun _length => ?_
      refine .byte 11 fun _priority => ?_
      exact follows_tlvs 19 fun tlvs parsed => ⟨rfl, parsed⟩
  | p2pHello =>
      simp only [PDUClass.unpack, ISISP2PHello.unpack, bind_assoc, ok_bind]
      refine .byte 0 fun _circuit => ?_
      refine .number (by decide) (by decide) fun _hold => ?_
      refine .number (by decide) (by decide) fun _length => ?_
      refine .byte 11 fun _circuit => ?_
      exact follows_tlvs 12 fun tlvs parsed => ⟨rfl, parsed⟩
  | lsp level =>
      simp only [PDUClass.unpack, ISISLSP.unpack, bind_assoc, ok_bind]
      refine .number (by decide) (by decide) fun _length => ?_
      refine .number (by decide) (by decide) fun _life => ?_
      refine .number (by decide) (by decide) fun _seq => ?_
      refine .number (by decide) (by decide) fun _checksum => ?_
      refine .byte 18 fun _flags => ?_
      exact follows_tlvs 19 fun tlvs parsed => ⟨rfl, parsed⟩
  | csnp level =>
      simp only [PDUClass.unpack, ISISCSNP.unpack, bind_assoc, ok_bind]
      refine .number (by decide) (by decide) fun _length => ?_
      exact follows_tlvs 26 fun tlvs parsed => ⟨rfl, parsed⟩
  | psnp level =>
      simp only [PDUClass.unpack, ISISPSNP.unpack, bind_assoc, ok_bind]
      refine .number (by decide) (by decide) fun _length => ?_
      exact follows_tlvs 10 fun tlvs parsed => ⟨rfl, parsed⟩

theorem PDUClass.firstFailure_reads (cls : PDUClass) {buf : Bytes}
    (nonempty : buf ≠ []) :
    firstFailure buf cls.reads =
      if cls.needs ≤ buf.length then none
      else if cls.endsInByte ∧ buf.length + 1 = cls.needs then some .indexError
      else some .structError := by
  have positive := List.length_pos_iff.mpr nonempty
  cases cls with
  | lanHello level =>
      simp only [firstFailure, reads, needs, endsInByte, List.findSome?_cons,
        FixedRead.failure, List.findSome?_nil]
      grind
  | p2pHello =>
      simp only [firstFailure, reads, needs, endsInByte, List.findSome?_cons,
        FixedRead.failure, List.findSome?_nil]
      grind
  | lsp level =>
      simp only [firstFailure, reads, needs, endsInByte, List.findSome?_cons,
        FixedRead.failure, List.findSome?_nil]
      grind
  | csnp level =>
      simp only [firstFailure, reads, needs, endsInByte, List.findSome?_cons,
        FixedRead.failure, List.findSome?_nil]
      grind
  | psnp level =>
      simp only [firstFailure, reads, needs, endsInByte, List.findSome?_cons,
        FixedRead.failure, List.findSome?_nil]
      grind

theorem PDUClass.parse_outcome (cls : PDUClass) {buf : Bytes}
    (nonempty : buf ≠ []) :
    if cls.needs ≤ buf.length then
      ∃ pdu, cls.parse buf = .ok pdu ∧ pdu.Reads buf cls
    else
      cls.parse buf = .error
        (if cls.endsInByte ∧ buf.length + 1 = cls.needs then .indexError
        else .attributeError) := by
  have follows := cls.unpack_follows buf
  unfold Follows at follows
  rw [cls.firstFailure_reads nonempty] at follows
  by_cases enough : cls.needs ≤ buf.length
  · rw [if_pos enough] at follows ⊢
    obtain ⟨pdu, unpacked, reads⟩ := follows
    exact ⟨pdu, packetInit_eq_ok.mpr unpacked, reads⟩
  · rw [if_neg enough] at follows ⊢
    by_cases atByte : cls.endsInByte ∧ buf.length + 1 = cls.needs
    · rw [if_pos atByte] at follows ⊢
      exact packetInit_passes follows PyError.noConfusion
    · rw [if_neg atByte] at follows ⊢
      have refused : cls.unpack buf = .error .structError := follows
      unfold PDUClass.parse packetInit
      dsimp only
      rw [refused]

/-! ### Whole packets -/

namespace ISIS

theorem headerFormat_exact : ISISHeader.format.Exact := fun _values => rfl

def pduTypeOf (buf : Bytes) : Nat := (buf.getD 4 0).toNat

/-- A header, and behind it nothing, bytes of no class, or a PDU with the bytes
that its class reads by index or as numbers. -/
def Accepted (buf : Bytes) : Prop :=
  8 ≤ buf.length ∧
    ∀ cls, pduSw.lookup (pduTypeOf buf) = some cls →
      buf.length = 8 ∨ 8 + cls.needs ≤ buf.length

/-- What the packet keeps of the buffer. -/
def Keeps (buf : Bytes) (self : ISIS) : Prop :=
  match self.data with
  | .raw data => data = buf.drop 8 ∧ self.bytes = .ok buf
  | .pdu pdu =>
      self.bytes = .error .attributeError ∧
        ∃ joined, joinBytes ISISTLV.bytes pdu.tlvs = .ok joined ∧
          LongestFront (buf.drop (8 + pdu.cls.tlvsFrom)) joined

theorem unpackHdr_eq {buf : Bytes} (enough : 8 ≤ buf.length) :
    ∃ header, ISISHeader.format.unpackHdr .big buf = .ok (header, buf.drop 8) ∧
      header.pduType = pduTypeOf buf ∧
      ISISHeader.format.packHdr .big header = .ok (buf.take 8) := by
  have unpacked : ISISHeader.format.unpackHdr .big buf = .ok (_, buf.drop 8) :=
    StructFormat.unpackHdr_eq_ok.mpr ⟨enough, rfl, rfl⟩
  obtain ⟨packed, _enough, _data⟩ :=
    StructFormat.repacked headerFormat_exact unpacked
  refine ⟨_, unpacked, ?_, packed⟩
  match buf, enough with
  | _ :: _ :: _ :: _ :: pduType :: _, _enough => exact beNat_singleton pduType

theorem keeps_raw {buf : Bytes} {header : ISISHeader}
    (packed : ISISHeader.format.packHdr .big header = .ok (buf.take 8)) :
    Keeps buf { header, data := .raw (buf.drop 8) } := by
  refine ⟨rfl, ?_⟩
  unfold ISIS.bytes
  rw [packed, ok_bind]
  exact congrArg Except.ok (List.take_append_drop 8 buf)

theorem keeps_pdu {buf : Bytes} {header : ISISHeader} {cls : PDUClass}
    {pdu : PDU}
    (packed : ISISHeader.format.packHdr .big header = .ok (buf.take 8))
    (reads : pdu.Reads (buf.drop 8) cls) :
    Keeps buf { header, data := .pdu pdu } := by
  obtain ⟨tlvs, joined, parsed, bytes, longest⟩ :=
    parseTlvs_longest ((buf.drop 8).drop cls.tlvsFrom)
  rw [reads.tlvs_eq, Except.ok.injEq] at parsed
  rw [List.drop_drop] at longest
  refine ⟨?_, joined, ?_, ?_⟩
  · unfold ISIS.bytes
    rw [packed]
    rfl
  · rw [parsed]
    exact bytes
  · rw [reads.cls_eq]
    exact longest

/-- The error for a PDU without all of those bytes. -/
def cutShort (buf : Bytes) (cls : PDUClass) : PyError :=
  if cls.endsInByte ∧ buf.length + 1 = 8 + cls.needs then .indexError
  else .attributeError

theorem parse_outcome (buf : Bytes) :
    (Accepted buf → ∃ isis, ISIS.parse buf = .ok isis ∧ Keeps buf isis) ∧
      (buf.length < 8 → ISIS.parse buf = .error (.tooShort buf.length 8)) ∧
      ∀ cls, pduSw.lookup (pduTypeOf buf) = some cls →
        8 < buf.length → buf.length < 8 + cls.needs →
          ISIS.parse buf = .error (cutShort buf cls) := by
  refine ⟨?_, ?_, ?_⟩
  · rintro ⟨enough, whole⟩
    obtain ⟨header, unpacked, typed, packed⟩ := unpackHdr_eq enough
    have after : unpack buf = (do
        let data ← unpackData header.pduType (buf.drop 8)
        .ok { header, data }) := by
      unfold unpack
      rw [unpacked]
      rfl
    unfold parse
    simp only [packetInit_eq_ok, after]
    unfold unpackData
    rw [typed]
    cases registered : pduSw.lookup (pduTypeOf buf) with
    | none => exact ⟨_, rfl, keeps_raw packed⟩
    | some cls =>
        dsimp only
        by_cases empty : buf.drop 8 = []
        · rw [if_pos empty]
          exact ⟨_, rfl, keeps_raw packed⟩
        · have long : 8 + cls.needs ≤ buf.length := by
            rcases whole cls registered with bare | long
            · exact absurd (List.drop_eq_nil_iff.mpr (le_of_eq bare)) empty
            · exact long
          have outcome := cls.parse_outcome empty
          rw [if_pos (by rw [List.length_drop]; omega)] at outcome
          obtain ⟨pdu, parsed, reads⟩ := outcome
          rw [if_neg empty, parsed]
          exact ⟨_, rfl, keeps_pdu packed reads⟩
  · intro short
    refine packetInit_short ?_ short
    unfold unpack StructFormat.unpackHdr StructFormat.unpack
    have cut : (buf.take ISISHeader.format.size).length ≠
        ISISHeader.format.size := by
      change (buf.take 8).length ≠ 8
      rw [List.length_take]
      omega
    rw [if_neg cut]
    rfl
  · intro cls registered long short
    obtain ⟨header, unpacked, typed, _packed⟩ :=
      unpackHdr_eq (Nat.le_of_lt long)
    have nonempty : buf.drop 8 ≠ [] := by
      rw [ne_eq, List.drop_eq_nil_iff]
      omega
    have outcome := cls.parse_outcome nonempty
    have length : (buf.drop 8).length = buf.length - 8 := List.length_drop
    rw [length, if_neg (by omega)] at outcome
    have same : (buf.length - 8 + 1 = cls.needs) ↔
        (buf.length + 1 = 8 + cls.needs) := by omega
    simp only [same] at outcome
    have refused : unpack buf = .error (cutShort buf cls) := by
      unfold unpack
      rw [unpacked, ok_bind]
      dsimp only
      unfold unpackData
      rw [typed, registered]
      dsimp only
      rw [if_neg nonempty, outcome]
      rfl
    refine packetInit_passes refused ?_
    unfold cutShort
    split <;> exact PyError.noConfusion

/-- Every buffer is accepted, or shorter than the header, or too short for what
its PDU reads by index or by `struct`. -/
theorem parse_cases (buf : Bytes) :
    Accepted buf ∨ buf.length < 8 ∨
      ∃ cls, pduSw.lookup (pduTypeOf buf) = some cls ∧ 8 < buf.length ∧
        buf.length < 8 + cls.needs := by
  by_cases enough : 8 ≤ buf.length
  · cases registered : pduSw.lookup (pduTypeOf buf) with
    | none =>
        refine Or.inl ⟨enough, fun cls impossible => ?_⟩
        rw [registered] at impossible
        cases impossible
    | some cls =>
        by_cases whole : buf.length = 8 ∨ 8 + cls.needs ≤ buf.length
        · refine Or.inl ⟨enough, fun other same => ?_⟩
          rw [registered, Option.some.injEq] at same
          rw [← same]
          exact whole
        · exact Or.inr (Or.inr ⟨cls, rfl, by omega, by omega⟩)
  · exact Or.inr (Or.inl (Nat.lt_of_not_le enough))

/-- Packets are accepted exactly when their PDU has the bytes that its class reads
by index or as numbers, which may be fewer than its fixed part has.  The TLVs of
an accepted one are the whole TLVs in front of what is behind the fixed part, and
it is written again exactly when it has no PDU.  What is refused is `NeedData`
only where the header is not there; a PDU that is cut shorter leaves an error
that is not one of the library. -/
theorem isis_accepted_iff (buf : Bytes) :
    ((∃ isis, ISIS.parse buf = .ok isis) ↔ Accepted buf) ∧
      (∀ isis, ISIS.parse buf = .ok isis → Keeps buf isis) ∧
      ∀ problem, ISIS.parse buf = .error problem →
        (buf.length < 8 ∧ problem = .tooShort buf.length 8) ∨
          ∃ cls, pduSw.lookup (pduTypeOf buf) = some cls ∧
            8 < buf.length ∧ buf.length < 8 + cls.needs ∧
            problem = cutShort buf cls := by
  obtain ⟨accepts, short, cut⟩ := parse_outcome buf
  rcases parse_cases buf with accepted | tooShort | ⟨cls, typed, long, missing⟩
  · obtain ⟨isis, parsed, keeps⟩ := accepts accepted
    rw [parsed]
    refine ⟨iff_of_true ⟨isis, rfl⟩ accepted, ?_, ?_⟩
    · intro other same
      rw [Except.ok.injEq] at same
      rw [← same]
      exact keeps
    · intro problem impossible
      cases impossible
  · rw [short tooShort]
    refine ⟨iff_of_false ?_ fun accepted => ?_, ?_, ?_⟩
    · rintro ⟨isis, impossible⟩
      cases impossible
    · exact absurd accepted.1 (Nat.not_le_of_lt tooShort)
    · intro isis impossible
      cases impossible
    · intro problem same
      rw [Except.error.injEq] at same
      exact Or.inl ⟨tooShort, same.symm⟩
  · rw [cut cls typed long missing]
    refine ⟨iff_of_false ?_ fun accepted => ?_, ?_, ?_⟩
    · rintro ⟨isis, impossible⟩
      cases impossible
    · rcases accepted.2 cls typed with bare | whole
      · omega
      · omega
    · intro isis impossible
      cases impossible
    · intro problem same
      rw [Except.error.injEq] at same
      exact Or.inr ⟨cls, typed, long, missing, same.symm⟩

end ISIS

end DpktNg.Isis
