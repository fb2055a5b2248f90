/-
Field lines of a request, and what `parse_qpack_request` makes of a buffer that
ends anywhere in them.
-/

import DpktNg.Qpack.Instruction

namespace DpktNg.Qpack

open Library

namespace RequestInstruction

theorem classOf_indexedField {b : Nat} (kind : b &&& 0x80 = 0x80) :
    classOf b = some unpackIndexedField := by
  unfold classOf
  rw [kind]
  rfl

theorem classOf_literalNameRef {b : Nat} (kind : b &&& 0xc0 = 0x40) :
    classOf b = some unpackLiteralNameRef := by
  have first := @mask_within b 0xc0 0x80 0x40 (by decide) kind
  have second := @mask_within b 0xc0 0x40 0x40 (by decide) kind
  unfold classOf
  rw [first, second]
  rfl

theorem classOf_literalLiteral {b : Nat} (kind : b &&& 0xe0 = 0x20) :
    classOf b = some unpackLiteralLiteral := by
  have first := @mask_within b 0xe0 0x80 0x20 (by decide) kind
  have second := @mask_within b 0xe0 0x40 0x20 (by decide) kind
  have third := @mask_within b 0xe0 0x20 0x20 (by decide) kind
  unfold classOf
  rw [first, second, third]
  rfl

theorem classOf_postBase {b : Nat} (kind : b &&& 0xf0 = 0x10) :
    classOf b = some unpackPostBase := by
  have first := @mask_within b 0xf0 0x80 0x10 (by decide) kind
  have second := @mask_within b 0xf0 0x40 0x10 (by decide) kind
  have third := @mask_within b 0xf0 0x20 0x10 (by decide) kind
  have fourth := @mask_within b 0xf0 0x10 0x10 (by decide) kind
  unfold classOf
  rw [first, second, third, fourth]
  rfl

end RequestInstruction

/-- Field lines by what they stand for.  The bit `N` asks intermediaries to
keep a line literal; the static bit of an indexed line has no attribute. -/
inductive FieldLine where
  | indexed (static : Bool) (index : Nat)
  | literalNameRef (never static : Bool) (index : Nat) (value : StringLiteral)
  | literalName (never : Bool) (name value : StringLiteral)
  | postBase (index : Nat)

namespace FieldLine

def above : FieldLine → UInt8
  | .indexed static _ => 0x80 ||| flag static 0x40
  | .literalNameRef never static _ _ => 0x40 ||| flag never 0x20 |||
      flag static 0x10
  | .literalName never name _ => 0x20 ||| flag never 0x10 |||
      flag name.huffman 0x08
  | .postBase _ => 0x10

def prefixBits : FieldLine → Nat
  | .indexed _ _ => 6
  | .literalNameRef _ _ _ _ => 4
  | .literalName _ _ _ => 3
  | .postBase _ => 4

def bytes (line : FieldLine) : Bytes :=
  match line with
  | .indexed _ index => encodeInt line.above 6 index
  | .literalNameRef _ _ index value => nameRefBytes line.above 4 index value
  | .literalName _ name value =>
      literalNameBytes line.above 3 name.octets value
  | .postBase index => encodeInt line.above 4 index

def parsed (line : FieldLine) : RequestInstruction :=
  match line with
  | .indexed _ index => .indexedField index line.bytes.length
  | .literalNameRef _ static index value =>
      .literalNameRef
        { static, nameIndex := index, valueLen := value.octets.length
          value := value.octets, consumed := line.bytes.length }
  | .literalName _ name value =>
      .literalLiteral
        { nameLen := name.octets.length, name := name.octets
          valueLen := value.octets.length, value := value.octets
          consumed := line.bytes.length }
  | .postBase index => .postBase index line.bytes.length

def cls : FieldLine → Bytes → Except PyError RequestInstruction
  | .indexed _ _ => RequestInstruction.unpackIndexedField
  | .literalNameRef _ _ _ _ => RequestInstruction.unpackLiteralNameRef
  | .literalName _ _ _ => RequestInstruction.unpackLiteralLiteral
  | .postBase _ => RequestInstruction.unpackPostBase

theorem bytes_eq_cons (line : FieldLine) :
    ∃ low rest, low < 2 ^ line.prefixBits ∧
      line.bytes = firstByte line.above line.prefixBits low :: rest := by
  cases line with
  | indexed static index => exact encodeInt_eq_cons _ _ _
  | literalNameRef never static index value =>
      obtain ⟨low, rest, small, same⟩ := encodeInt_eq_cons
        (FieldLine.literalNameRef never static index value).above 4 index
      exact ⟨low, rest ++ value.bytes, small,
        congrArg (· ++ value.bytes) same⟩
  | literalName never name value =>
      obtain ⟨low, rest, small, same⟩ := encodeInt_eq_cons
        (FieldLine.literalName never name value).above 3 name.octets.length
      exact ⟨low, rest ++ (name.octets ++ value.bytes), small,
        congrArg (· ++ (name.octets ++ value.bytes)) same⟩
  | postBase index => exact encodeInt_eq_cons _ _ _

theorem classOf_first (line : FieldLine) {low : Nat}
    (small : low < 2 ^ line.prefixBits) :
    RequestInstruction.classOf
        (firstByte line.above line.prefixBits low).toNat =
      some line.cls := by
  cases line with
  | indexed static index =>
      have kind := @firstByte_mask (0x80 ||| flag static 0x40) 6 low 0x80
        (by decide) small (by decide)
      refine RequestInstruction.classOf_indexedField (kind.trans ?_)
      cases static <;> rfl
  | literalNameRef never static index value =>
      have kind := @firstByte_mask
        (0x40 ||| flag never 0x20 ||| flag static 0x10) 4 low 0xc0
        (by decide) small (by decide)
      refine RequestInstruction.classOf_literalNameRef (kind.trans ?_)
      cases never <;> cases static <;> rfl
  | literalName never name value =>
      have kind := @firstByte_mask
        (0x20 ||| flag never 0x10 ||| flag name.huffman 0x08) 3 low 0xe0
        (by decide) small (by decide)
      refine RequestInstruction.classOf_literalLiteral (kind.trans ?_)
      cases never <;> cases name.huffman <;> rfl
  | postBase index =>
      exact RequestInstruction.classOf_postBase
        (@firstByte_mask 0x10 4 low 0xf0 (by decide) small (by decide))

theorem cls_bytes (line : FieldLine) (rest : Bytes) :
    line.cls (line.bytes ++ rest) = .ok line.parsed := by
  cases line with
  | indexed static index =>
      change (decodeInt (encodeInt (0x80 ||| flag static 0x40) 6 index ++
        rest) 6 >>= _) = _
      rw [decodeInt_begins (by decide) (List.prefix_append _ _), ok_bind]
      rfl
  | literalNameRef never static index value =>
      have read := NameRef.unpack_front
        (0x40 ||| flag never 0x20 ||| flag static 0x10) index value
        (show 4 ≤ 8 by decide) (show 0x10 % 2 ^ 4 = 0 from rfl) rest
      change (NameRef.unpack 0x10 4
        (nameRefBytes (0x40 ||| flag never 0x20 ||| flag static 0x10) 4 index
          value ++ rest) >>= _) = _
      rw [read, ok_bind]
      cases never <;> cases static <;> rfl
  | literalName never name value =>
      have read := LiteralName.unpack_front
        (0x20 ||| flag never 0x10 ||| flag name.huffman 0x08) name.octets
        value (show 3 ≤ 8 by decide) rest
      change (LiteralName.unpack 3
        (literalNameBytes (0x20 ||| flag never 0x10 |||
          flag name.huffman 0x08) 3 name.octets value ++ rest) >>= _) = _
      rw [read, ok_bind]
      rfl
  | postBase index =>
      change (decodeInt (encodeInt 0x10 4 index ++ rest) 4 >>= _) = _
      rw [decodeInt_begins (by decide) (List.prefix_append _ _), ok_bind]
      rfl

theorem consumed_parsed (line : FieldLine) :
    line.parsed.consumed = line.bytes.length := by
  cases line <;> rfl

theorem parse_bytes (line : FieldLine) (rest : Bytes) :
    parseQpackRequest (line.bytes ++ rest) = (do
      let insts ← parseQpackRequest rest
      .ok (line.parsed :: insts)) := by
  obtain ⟨low, others, small, same⟩ := line.bytes_eq_cons
  have read := line.cls_bytes rest
  have picked : requestSet.classOf
      (firstByte line.above line.prefixBits low).toNat = some line.cls :=
    line.classOf_first small
  have behind : (line.bytes ++ rest).drop
      (requestSet.consumed line.parsed) = rest :=
    List.drop_left' line.consumed_parsed.symm
  rw [same, List.cons_append] at read behind ⊢
  unfold parseQpackRequest
  rw [InstructionSet.parse_inst picked read, behind]

/-- How many bytes of a cut line go unnoticed: an index and the length of a
value are each read from the first byte on that is there. -/
def openBytes (line : FieldLine) : Nat :=
  match line with
  | .indexed _ _ => 0
  | .literalNameRef _ _ index _ => (encodeInt line.above 4 index).length
  | .literalName _ name _ =>
      (encodeInt line.above 3 name.octets.length ++ name.octets).length
  | .postBase _ => 0

theorem cls_early (line : FieldLine) {count : Nat} (positive : 0 < count)
    (early : count ≤ line.openBytes) :
    line.cls (line.bytes.take count) = .error .indexError := by
  cases line with
  | indexed static index =>
      exact absurd (Nat.lt_of_lt_of_le positive early) (Nat.lt_irrefl 0)
  | literalNameRef never static index value =>
      change (NameRef.unpack 0x10 4 ((nameRefBytes _ 4 index value).take
        count) >>= _) = _
      rw [NameRef.unpack_early _ index value (by decide) positive early]
      rfl
  | literalName never name value =>
      change (LiteralName.unpack 3 ((literalNameBytes _ 3 name.octets
        value).take count) >>= _) = _
      rw [LiteralName.unpack_early _ name.octets value (by decide) positive
        early]
      rfl
  | postBase index =>
      exact absurd (Nat.lt_of_lt_of_le positive early) (Nat.lt_irrefl 0)

theorem cls_late (line : FieldLine) {count : Nat}
    (inside : count ≤ line.bytes.length) (late : line.openBytes < count) :
    ∃ inst, line.cls (line.bytes.take count) = .ok inst := by
  cases line with
  | indexed static index =>
      obtain ⟨found, read⟩ := decodeInt_cut _ (show 6 ≤ 8 by decide) late
        inside
      exact ⟨_, bind_eq_ok.mpr ⟨_, read, rfl⟩⟩
  | literalNameRef never static index value =>
      obtain ⟨fields, read⟩ := @NameRef.unpack_late
        (FieldLine.literalNameRef never static index value).above 0x10 4 index
        value (by decide) count late
      exact ⟨_, bind_eq_ok.mpr ⟨fields, read, rfl⟩⟩
  | literalName never name value =>
      obtain ⟨fields, read⟩ := @LiteralName.unpack_late
        (FieldLine.literalName never name value).above 3 name.octets
        value (by decide) count late
      exact ⟨_, bind_eq_ok.mpr ⟨fields, read, rfl⟩⟩
  | postBase index =>
      obtain ⟨found, read⟩ := decodeInt_cut _ (show 4 ≤ 8 by decide) late
        inside
      exact ⟨_, bind_eq_ok.mpr ⟨_, read, rfl⟩⟩

/-- Nothing comes of a line that is cut off within its open bytes, and only
then. -/
theorem parse_cut (line : FieldLine) {count : Nat}
    (inside : count ≤ line.bytes.length) :
    parseQpackRequest (line.bytes.take count) = .ok [] ↔
      count ≤ line.openBytes := by
  cases count with
  | zero =>
      exact ⟨fun _nothing => Nat.zero_le _,
        fun _open => InstructionSet.parse_nil⟩
  | succ count =>
      obtain ⟨low, others, small, same⟩ := line.bytes_eq_cons
      have picked : requestSet.classOf
          (firstByte line.above line.prefixBits low).toNat = some line.cls :=
        line.classOf_first small
      have taken : line.bytes.take (count + 1) =
          firstByte line.above line.prefixBits low :: others.take count := by
        rw [same, List.take_succ_cons]
      by_cases early : count + 1 ≤ line.openBytes
      · have raised := line.cls_early (Nat.succ_pos count) early
        rw [taken] at raised ⊢
        exact ⟨fun _nothing => early,
          fun _open => InstructionSet.parse_raised picked raised⟩
      · obtain ⟨inst, read⟩ := line.cls_late inside (Nat.not_le.mp early)
        rw [taken] at read ⊢
        constructor
        · intro nothing
          unfold parseQpackRequest at nothing
          rw [InstructionSet.parse_inst picked read] at nothing
          obtain ⟨insts, _parsed, impossible⟩ := bind_eq_ok.mp nothing
          cases impossible
        · intro contrary
          exact absurd contrary early

end FieldLine

/-- The lines that lie wholly inside so many bytes. -/
def wholeLines : List FieldLine → Nat → List FieldLine
  | [], _ => []
  | line :: rest, count =>
      if line.bytes.length ≤ count then
        line :: wholeLines rest (count - line.bytes.length)
      else []

/-- The line that so many bytes end in, if there is one, is cut off within its
open bytes. -/
def CutUnnoticed : List FieldLine → Nat → Prop
  | [], _ => True
  | line :: rest, count =>
      if line.bytes.length ≤ count then
        CutUnnoticed rest (count - line.bytes.length)
      else count ≤ line.openBytes

theorem bind_cons_eq_ok {α : Type} {read : Except PyError (List α)} {first : α}
    {others : List α} :
    (read >>= fun items => .ok (first :: items)) = .ok (first :: others) ↔
      read = .ok others := by
  cases read with
  | error problem =>
      constructor
      · intro impossible
        cases impossible
      · intro impossible
        cases impossible
  | ok items =>
      rw [ok_bind, Except.ok.injEq, Except.ok.injEq, List.cons_inj_right]

/-- A buffer that ends anywhere is parsed as the lines that are there exactly
if the last line is cut off within its open bytes. -/
theorem parseQpackRequest_cut_iff (lines : List FieldLine) (buf : Bytes)
    (cutOff : buf <+: lines.flatMap FieldLine.bytes) :
    parseQpackRequest buf =
        .ok ((wholeLines lines buf.length).map FieldLine.parsed) ↔
      CutUnnoticed lines buf.length := by
  induction lines generalizing buf with
  | nil =>
      rw [List.prefix_nil.mp cutOff]
      exact ⟨fun _parsed => trivial, fun _unnoticed =>
        InstructionSet.parse_nil⟩
  | cons line rest ih =>
      rw [List.flatMap_cons] at cutOff
      unfold wholeLines CutUnnoticed
      split
      · rename_i whole
        obtain ⟨behind, same⟩ : line.bytes <+: buf :=
          List.prefix_of_prefix_length_le (List.prefix_append _ _) cutOff whole
        rw [← same] at cutOff ⊢
        rw [line.parse_bytes, List.length_append, Nat.add_sub_cancel_left,
          ← ih behind ((List.prefix_append_right_inj _).mp cutOff),
          List.map_cons]
        exact bind_cons_eq_ok
      · rename_i cutInside
        have shorter : buf.length ≤ line.bytes.length :=
          (Nat.not_le.mp cutInside).le
        have taken : buf = line.bytes.take buf.length :=
          List.prefix_iff_eq_take.mp (List.prefix_of_prefix_length_le cutOff
            (List.prefix_append _ _) shorter)
        have cut := line.parse_cut shorter
        rw [← taken] at cut
        exact cut

def threeOctets : FieldLine :=
  .literalNameRef false false 7 ⟨false, [0x76, 0x61, 0x6c]⟩

/-- The index of a line and not a byte more: nothing is reported. -/
theorem cutIndex_unnoticed :
    parseQpackRequest [0x47] =
        .ok ((wholeLines [threeOctets] 1).map FieldLine.parsed) ↔
      CutUnnoticed [threeOctets] 1 :=
  parseQpackRequest_cut_iff [threeOctets] [0x47] (by decide +kernel)

/-- One of three octets of a value: the line is reported all the same. -/
theorem cutValue_reported :
    [0x47, 0x03, 0x76] <+: [threeOctets].flatMap FieldLine.bytes ∧
      parseQpackRequest [0x47, 0x03, 0x76] ≠
        .ok ((wholeLines [threeOctets] 3).map FieldLine.parsed) := by
  decide +kernel

end DpktNg.Qpack
