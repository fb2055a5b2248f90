/-
Encoder streams: the encodings of instructions, and what `parse_qpack_encoder`
makes of them.  The bits above the prefix of an instruction pick its class, and
the instruction is then read in front of any rest.
-/

import DpktNg.Qpack.Instruction

namespace DpktNg.Qpack

open Library

namespace EncoderInstruction

theorem classOf_capacity {first : Nat} (kind : first &&& 0xe0 = 0x20) :
    classOf first = some unpackDynamicCapacity :=
  if_pos kind

theorem classOf_duplicate {first : Nat} (kind : first &&& 0xe0 = 0x00) :
    classOf first = some unpackDuplicate := by
  unfold classOf
  dsimp only
  rw [kind]
  rfl

/-- The three bits of the first tests take in one of the index. -/
theorem classOf_insertRef {first : Nat} (top : first &&& 0x80 = 0x80) :
    classOf first = some unpackInsertRef := by
  have others {bits : Nat} (same : first &&& 0xe0 = bits) :
      0x80 = bits &&& 0x80 :=
    top.symm.trans (@mask_within first 0xe0 0x80 bits (by decide) same)
  unfold classOf
  dsimp only
  rw [if_neg fun same => absurd (others same) (by decide),
    if_neg fun same => absurd (others same) (by decide), top]
  rfl

theorem classOf_insertNoRef {first : Nat} (kind : first &&& 0xc0 = 0x40) :
    classOf first = some unpackInsertNoRef := by
  have others {bits : Nat} (same : first &&& 0xe0 = bits) :
      0x40 = bits &&& 0xc0 :=
    kind.symm.trans (@mask_within first 0xe0 0xc0 bits (by decide) same)
  have top : first &&& 0x80 = 0x40 &&& 0x80 :=
    @mask_within first 0xc0 0x80 0x40 (by decide) kind
  have second : first &&& 0x40 = 0x40 &&& 0x40 :=
    @mask_within first 0xc0 0x40 0x40 (by decide) kind
  unfold classOf
  dsimp only
  rw [if_neg fun same => absurd (others same) (by decide),
    if_neg fun same => absurd (others same) (by decide), top, second]
  rfl

end EncoderInstruction

/-- Instructions of an encoder stream by what they stand for. -/
inductive WireInstruction where
  | setCapacity (capacity : Nat)
  | insertNameRef (static : Bool) (index : Nat) (value : StringLiteral)
  | insertLiteralName (name value : StringLiteral)
  | duplicate (index : Nat)

namespace WireInstruction

def above : WireInstruction → UInt8
  | .setCapacity _ => 0x20
  | .insertNameRef static _ _ => 0x80 ||| flag static 0x40
  | .insertLiteralName name _ => 0x40 ||| flag name.huffman 0x20
  | .duplicate _ => 0x00

def bytes (inst : WireInstruction) : Bytes :=
  match inst with
  | .setCapacity capacity => encodeInt inst.above 5 capacity
  | .insertNameRef _ index value => nameRefBytes inst.above 6 index value
  | .insertLiteralName name value =>
      literalNameBytes inst.above 5 name.octets value
  | .duplicate index => encodeInt inst.above 5 index

def parsed (inst : WireInstruction) : EncoderInstruction :=
  match inst with
  | .setCapacity capacity => .dynamicCapacity capacity inst.bytes.length
  | .insertNameRef static index value =>
      .insertRef
        { static, nameIndex := index, valueLen := value.octets.length
          value := value.octets, consumed := inst.bytes.length }
  | .insertLiteralName name value =>
      .insertNoRef
        { nameLen := name.octets.length, name := name.octets
          valueLen := value.octets.length, value := value.octets
          consumed := inst.bytes.length }
  | .duplicate index => .duplicate index inst.bytes.length

def cls : WireInstruction → Bytes → Except PyError EncoderInstruction
  | .setCapacity _ => EncoderInstruction.unpackDynamicCapacity
  | .insertNameRef _ _ _ => EncoderInstruction.unpackInsertRef
  | .insertLiteralName _ _ => EncoderInstruction.unpackInsertNoRef
  | .duplicate _ => EncoderInstruction.unpackDuplicate

def prefixBits : WireInstruction → Nat
  | .setCapacity _ => 5
  | .insertNameRef _ _ _ => 6
  | .insertLiteralName _ _ => 5
  | .duplicate _ => 5

theorem bytes_eq_cons (inst : WireInstruction) :
    ∃ low rest, low < 2 ^ inst.prefixBits ∧
      inst.bytes = firstByte inst.above inst.prefixBits low :: rest := by
  cases inst with
  | setCapacity capacity => exact encodeInt_eq_cons _ _ _
  | insertNameRef static index value =>
      obtain ⟨low, rest, small, same⟩ := encodeInt_eq_cons
        (WireInstruction.insertNameRef static index value).above 6 index
      exact ⟨low, rest ++ value.bytes, small,
        congrArg (· ++ value.bytes) same⟩
  | insertLiteralName name value =>
      obtain ⟨low, rest, small, same⟩ := encodeInt_eq_cons
        (WireInstruction.insertLiteralName name value).above 5
        name.octets.length
      exact ⟨low, rest ++ (name.octets ++ value.bytes), small,
        congrArg (· ++ (name.octets ++ value.bytes)) same⟩
  | duplicate index => exact encodeInt_eq_cons _ _ _

theorem classOf_first (inst : WireInstruction) {low : Nat}
    (small : low < 2 ^ inst.prefixBits) :
    EncoderInstruction.classOf
        (firstByte inst.above inst.prefixBits low).toNat =
      some inst.cls := by
  cases inst with
  | setCapacity capacity =>
      exact EncoderInstruction.classOf_capacity
        (@firstByte_mask 0x20 5 low 0xe0 (by decide) small (by decide))
  | insertNameRef static index value =>
      have top := @firstByte_mask (0x80 ||| flag static 0x40) 6 low 0x80
        (by decide) small (by decide)
      refine EncoderInstruction.classOf_insertRef (top.trans ?_)
      cases static <;> rfl
  | insertLiteralName name value =>
      have kind := @firstByte_mask (0x40 ||| flag name.huffman 0x20) 5 low
        0xc0 (by decide) small (by decide)
      refine EncoderInstruction.classOf_insertNoRef (kind.trans ?_)
      cases name.huffman <;> rfl
  | duplicate index =>
      exact EncoderInstruction.classOf_duplicate
        (@firstByte_mask 0x00 5 low 0xe0 (by decide) small (by decide))

theorem cls_bytes (inst : WireInstruction) (rest : Bytes) :
    inst.cls (inst.bytes ++ rest) = .ok inst.parsed := by
  cases inst with
  | setCapacity capacity =>
      change (decodeInt (encodeInt 0x20 5 capacity ++ rest) 5 >>= _) = _
      rw [decodeInt_begins (by decide) (List.prefix_append _ _), ok_bind]
      rfl
  | insertNameRef static index value =>
      have read := NameRef.unpack_front (0x80 ||| flag static 0x40) index
        value (by decide) (show 0x40 % 2 ^ 6 = 0 from rfl) rest
      change (NameRef.unpack 0x40 6
        (nameRefBytes (0x80 ||| flag static 0x40) 6 index value ++ rest) >>=
          _) = _
      rw [read, ok_bind]
      cases static <;> rfl
  | insertLiteralName name value =>
      have read := LiteralName.unpack_front (0x40 ||| flag name.huffman 0x20)
        name.octets value (show 5 ≤ 8 by decide) rest
      change (LiteralName.unpack 5
        (literalNameBytes (0x40 ||| flag name.huffman 0x20) 5 name.octets
          value ++ rest) >>= _) = _
      rw [read, ok_bind]
      rfl
  | duplicate index =>
      change (decodeInt (encodeInt 0x00 5 index ++ rest) 5 >>= _) = _
      rw [decodeInt_begins (by decide) (List.prefix_append _ _), ok_bind]
      rfl

theorem consumed_parsed (inst : WireInstruction) :
    inst.parsed.consumed = inst.bytes.length := by
  cases inst <;> rfl

theorem parse_bytes (inst : WireInstruction) (rest : Bytes) :
    parseQpackEncoder (inst.bytes ++ rest) = (do
      let insts ← parseQpackEncoder rest
      .ok (inst.parsed :: insts)) := by
  obtain ⟨low, others, small, same⟩ := inst.bytes_eq_cons
  have read := inst.cls_bytes rest
  have picked : encoderSet.classOf
      (firstByte inst.above inst.prefixBits low).toNat = some inst.cls :=
    inst.classOf_first small
  have behind : (inst.bytes ++ rest).drop
      (encoderSet.consumed inst.parsed) = rest :=
    List.drop_left' inst.consumed_parsed.symm
  rw [same, List.cons_append] at read behind ⊢
  unfold parseQpackEncoder
  rw [InstructionSet.parse_inst picked read, behind]

end WireInstruction

/-- An encoder stream is parsed as its instructions. -/
theorem parseQpackEncoder_decodes (insts : List WireInstruction) :
    parseQpackEncoder (insts.flatMap WireInstruction.bytes) =
      .ok (insts.map WireInstruction.parsed) := by
  induction insts with
  | nil => exact InstructionSet.parse_nil
  | cons inst rest ih =>
      rw [List.flatMap_cons, inst.parse_bytes, ih, ok_bind, List.map_cons]

end DpktNg.Qpack
