/-
Instructions of dpkt/qpack.py and the two functions that parse a stream of
them, `parse_qpack_encoder` and `parse_qpack_request`.  A class that begins
with an index and one that begins with a name are both there twice, with
another prefix; each is read in front of any rest, and read when it is cut off.
-/

import DpktNg.Qpack.Integer

namespace DpktNg.Qpack

open Library

/-! ### The classes -/

/-- What `QPACKLiteralNameRef` and `QPACKEncoderInsertRef` hold. -/
structure NameRef where
  static : Bool
  nameIndex : Nat
  valueLen : Nat
  value : Bytes
  consumed : Nat
deriving DecidableEq, Repr

/-- What `QPACKLiteralLiteral` and `QPACKEncoderInsertNoRef` hold. -/
structure LiteralName where
  nameLen : Nat
  name : Bytes
  valueLen : Nat
  value : Bytes
  consumed : Nat
deriving DecidableEq, Repr

def NameRef.unpack (staticMask prefixBits : Nat) (buf : Bytes) :
    Except PyError NameRef := do
  let first ← byteAt buf 0
  let (nameIndex, n) ← decodeInt buf prefixBits
  let (valueLen, m) ← decodeInt (buf.drop n) 7
  .ok
    { static := first &&& staticMask ≠ 0, nameIndex, valueLen
      value := cut buf (n + m) (n + m + valueLen)
      consumed := n + m + valueLen }

def LiteralName.unpack (prefixBits : Nat) (buf : Bytes) :
    Except PyError LiteralName := do
  let (nameLen, n) ← decodeInt buf prefixBits
  let off := n + nameLen
  let (valueLen, m) ← decodeInt (buf.drop off) 7
  .ok
    { nameLen, name := cut buf n (n + nameLen), valueLen
      value := cut buf (off + m) (off + m + valueLen)
      consumed := off + m + valueLen }

/-- Instructions of an encoder stream: `QPACKDynamicCapacity`, `QPACKDuplicate`,
`QPACKEncoderInsertRef` and `QPACKEncoderInsertNoRef`. -/
inductive EncoderInstruction where
  | dynamicCapacity (capacity consumed : Nat)
  | duplicate (index consumed : Nat)
  | insertRef (fields : NameRef)
  | insertNoRef (fields : LiteralName)
deriving DecidableEq, Repr

namespace EncoderInstruction

def consumed : EncoderInstruction → Nat
  | .dynamicCapacity _ consumed => consumed
  | .duplicate _ consumed => consumed
  | .insertRef fields => fields.consumed
  | .insertNoRef fields => fields.consumed

def unpackDynamicCapacity (buf : Bytes) : Except PyError EncoderInstruction := do
  let (capacity, consumed) ← decodeInt buf 5
  .ok (.dynamicCapacity capacity consumed)

def unpackDuplicate (buf : Bytes) : Except PyError EncoderInstruction := do
  let (index, consumed) ← decodeInt buf 5
  .ok (.duplicate index consumed)

def unpackInsertRef (buf : Bytes) : Except PyError EncoderInstruction := do
  .ok (.insertRef (← NameRef.unpack 0x40 6 buf))

def unpackInsertNoRef (buf : Bytes) : Except PyError EncoderInstruction := do
  .ok (.insertNoRef (← LiteralName.unpack 5 buf))

/-- The class that `parse_qpack_encoder` picks for a first byte. -/
def classOf (first : Nat) : Option (Bytes → Except PyError EncoderInstruction) :=
  let prefix_ := first &&& 0xe0
  if prefix_ = 0x20 then some unpackDynamicCapacity
  else if prefix_ = 0x00 then some unpackDuplicate
  else if first &&& 0x80 ≠ 0 then some unpackInsertRef
  else if first &&& 0x40 ≠ 0 then some unpackInsertNoRef
  else none

end EncoderInstruction

/-- Field lines of a request stream: `QPACKIndexedField`, `QPACKLiteralNameRef`,
`QPACKLiteralLiteral` and `QPACKPostBase`. -/
inductive RequestInstruction where
  | indexedField (index consumed : Nat)
  | literalNameRef (fields : NameRef)
  | literalLiteral (fields : LiteralName)
  | postBase (index consumed : Nat)
deriving DecidableEq, Repr

namespace RequestInstruction

def consumed : RequestInstruction → Nat
  | .indexedField _ consumed => consumed
  | .literalNameRef fields => fields.consumed
  | .literalLiteral fields => fields.consumed
  | .postBase _ consumed => consumed

def unpackIndexedField (buf : Bytes) : Except PyError RequestInstruction := do
  let (index, consumed) ← decodeInt buf 6
  .ok (.indexedField index consumed)

def unpackLiteralNameRef (buf : Bytes) : Except PyError RequestInstruction := do
  .ok (.literalNameRef (← NameRef.unpack 0x10 4 buf))

def unpackLiteralLiteral (buf : Bytes) : Except PyError RequestInstruction := do
  .ok (.literalLiteral (← LiteralName.unpack 3 buf))

def unpackPostBase (buf : Bytes) : Except PyError RequestInstruction := do
  let (index, consumed) ← decodeInt buf 4
  .ok (.postBase index consumed)

/-- The class that `parse_qpack_request` picks for a first byte. -/
def classOf (b : Nat) : Option (Bytes → Except PyError RequestInstruction) :=
  if b &&& 0x80 ≠ 0 then some unpackIndexedField
  else if b &&& 0x40 ≠ 0 then some unpackLiteralNameRef
  else if b &&& 0x20 ≠ 0 then some unpackLiteralLiteral
  else if b &&& 0x10 ≠ 0 then some unpackPostBase
  else none

end RequestInstruction

/-! ### Every instruction takes a byte -/

theorem decodeInt_pos {buf : Bytes} {prefixBits value n : Nat}
    (read : decodeInt buf prefixBits = .ok (value, n)) : 0 < n := by
  cases buf with
  | nil => cases read
  | cons first rest =>
      obtain ⟨_value, _n, found, positive, _within⟩ :=
        @decodeInt_present (first :: rest) (Nat.zero_lt_succ _) prefixBits
      rw [found, Except.ok.injEq, Prod.mk.injEq] at read
      rw [← read.2]
      exact positive

theorem NameRef.consumed_pos {staticMask prefixBits : Nat} {buf : Bytes}
    {fields : NameRef}
    (unpacked : NameRef.unpack staticMask prefixBits buf = .ok fields) :
    0 < fields.consumed := by
  obtain ⟨first, _present, behind⟩ := bind_eq_ok.mp unpacked
  obtain ⟨⟨nameIndex, n⟩, readIndex, behind⟩ := bind_eq_ok.mp behind
  obtain ⟨⟨valueLen, m⟩, _readLen, same⟩ := bind_eq_ok.mp behind
  have positive := decodeInt_pos readIndex
  rw [Except.ok.injEq] at same
  rw [← same]
  dsimp only
  omega

theorem LiteralName.consumed_pos {prefixBits : Nat} {buf : Bytes}
    {fields : LiteralName}
    (unpacked : LiteralName.unpack prefixBits buf = .ok fields) :
    0 < fields.consumed := by
  obtain ⟨⟨nameLen, n⟩, readName, behind⟩ := bind_eq_ok.mp unpacked
  obtain ⟨⟨valueLen, m⟩, _readLen, same⟩ := bind_eq_ok.mp behind
  have positive := decodeInt_pos readName
  rw [Except.ok.injEq] at same
  rw [← same]
  dsimp only
  omega

theorem integer_consumed {α : Type} {prefixBits : Nat} {buf : Bytes}
    {make : Nat → Nat → α} {consumed : α → Nat}
    (holds : ∀ value n, consumed (make value n) = n) {inst : α}
    (unpacked : (do
      let (value, n) ← decodeInt buf prefixBits
      .ok (make value n)) = .ok inst) : 0 < consumed inst := by
  obtain ⟨⟨value, n⟩, read, same⟩ := bind_eq_ok.mp unpacked
  rw [Except.ok.injEq] at same
  rw [← same, holds]
  exact decodeInt_pos read

theorem EncoderInstruction.progress {first : Nat}
    {cls : Bytes → Except PyError EncoderInstruction}
    {buf : Bytes} {inst : EncoderInstruction}
    (picked : classOf first = some cls) (unpacked : cls buf = .ok inst) :
    0 < inst.consumed := by
  unfold classOf at picked
  dsimp only at picked
  split at picked
  · cases picked
    exact integer_consumed (fun _value _n => rfl) unpacked
  · split at picked
    · cases picked
      exact integer_consumed (fun _value _n => rfl) unpacked
    · split at picked
      · cases picked
        obtain ⟨fields, read, same⟩ := bind_eq_ok.mp unpacked
        rw [Except.ok.injEq] at same
        rw [← same]
        exact NameRef.consumed_pos read
      · split at picked
        · cases picked
          obtain ⟨fields, read, same⟩ := bind_eq_ok.mp unpacked
          rw [Except.ok.injEq] at same
          rw [← same]
          exact LiteralName.consumed_pos read
        · cases picked

theorem RequestInstruction.progress {b : Nat}
    {cls : Bytes → Except PyError RequestInstruction}
    {buf : Bytes} {inst : RequestInstruction}
    (picked : classOf b = some cls) (unpacked : cls buf = .ok inst) :
    0 < inst.consumed := by
  unfold classOf at picked
  split at picked
  · cases picked
    exact integer_consumed (fun _value _n => rfl) unpacked
  · split at picked
    · cases picked
      obtain ⟨fields, read, same⟩ := bind_eq_ok.mp unpacked
      rw [Except.ok.injEq] at same
      rw [← same]
      exact NameRef.consumed_pos read
    · split at picked
      · cases picked
        obtain ⟨fields, read, same⟩ := bind_eq_ok.mp unpacked
        rw [Except.ok.injEq] at same
        rw [← same]
        exact LiteralName.consumed_pos read
      · split at picked
        · cases picked
          exact integer_consumed (fun _value _n => rfl) unpacked
        · cases picked

/-! ### Streams -/

/-- The instructions of a stream: the class for a first byte, and how many
bytes an instruction took. -/
structure InstructionSet (α : Type) where
  classOf : Nat → Option (Bytes → Except PyError α)
  consumed : α → Nat
  progress : ∀ {first cls buf inst}, classOf first = some cls →
    cls buf = .ok inst → 0 < consumed inst

/-- The errors that end the loops. -/
def endsStream : PyError → Bool
  | .indexError => true
  | .structError => true
  | _ => false

/-- The loop of both functions, from the bytes that are left on. -/
def InstructionSet.parse {α : Type} (set : InstructionSet α) (buf : Bytes) :
    Except PyError (List α) :=
  match buf with
  | [] => .ok []
  | first :: rest =>
      match _picked : set.classOf first.toNat with
      | none => .ok []
      | some cls =>
          match _unpacked : cls (first :: rest) with
          | .error problem =>
              if endsStream problem then .ok [] else .error problem
          | .ok inst => do
              let insts ← set.parse ((first :: rest).drop (set.consumed inst))
              .ok (inst :: insts)
termination_by buf.length
decreasing_by
  have positive := set.progress _picked _unpacked
  rw [List.length_drop, List.length_cons]
  omega

def encoderSet : InstructionSet EncoderInstruction where
  classOf := EncoderInstruction.classOf
  consumed := EncoderInstruction.consumed
  progress := EncoderInstruction.progress

def requestSet : InstructionSet RequestInstruction where
  classOf := RequestInstruction.classOf
  consumed := RequestInstruction.consumed
  progress := RequestInstruction.progress

def parseQpackEncoder (buf : Bytes) :
    Except PyError (List EncoderInstruction) :=
  encoderSet.parse buf

def parseQpackRequest (buf : Bytes) :
    Except PyError (List RequestInstruction) :=
  requestSet.parse buf

section Loop

variable {α : Type} {set : InstructionSet α} {first : UInt8} {rest : Bytes}
  {cls : Bytes → Except PyError α}

theorem InstructionSet.parse_nil : set.parse [] = .ok [] := by
  rw [parse]

theorem InstructionSet.parse_inst {inst : α}
    (picked : set.classOf first.toNat = some cls)
    (unpacked : cls (first :: rest) = .ok inst) :
    set.parse (first :: rest) = (do
      let insts ← set.parse ((first :: rest).drop (set.consumed inst))
      .ok (inst :: insts)) := by
  rw [parse]
  split
  · rename_i none
    rw [picked] at none
    cases none
  · rename_i other same
    rw [picked, Option.some.injEq] at same
    subst same
    split
    · rename_i problem raised
      rw [unpacked] at raised
      cases raised
    · rename_i found unpackedToo
      rw [unpacked, Except.ok.injEq] at unpackedToo
      rw [unpackedToo]

theorem InstructionSet.parse_raised
    (picked : set.classOf first.toNat = some cls)
    (raised : cls (first :: rest) = .error .indexError) :
    set.parse (first :: rest) = .ok [] := by
  rw [parse]
  split
  · rfl
  · rename_i other same
    rw [picked, Option.some.injEq] at same
    subst same
    split
    · rename_i problem raisedToo
      rw [raised, Except.error.injEq] at raisedToo
      rw [← raisedToo]
      rfl
    · rename_i found unpacked
      rw [raised] at unpacked
      cases unpacked

end Loop

/-! ### Lines that hold a string -/

theorem mask_within {first mask inner bits : Nat}
    (within : mask &&& inner = inner) (seen : first &&& mask = bits) :
    first &&& inner = bits &&& inner := by
  rw [← seen, Nat.and_assoc, within]

/-- A string with its Huffman bit; the octets are those of the encoding. -/
structure StringLiteral where
  huffman : Bool
  octets : Bytes

def flag (set : Bool) (bit : UInt8) : UInt8 := if set then bit else 0

/-- A string with its length behind a prefix of seven bits. -/
def StringLiteral.bytes (literal : StringLiteral) : Bytes :=
  encodeInt (flag literal.huffman 0x80) 7 literal.octets.length ++
    literal.octets

def nameRefBytes (above : UInt8) (prefixBits index : Nat)
    (value : StringLiteral) : Bytes :=
  encodeInt above prefixBits index ++ value.bytes

/-- A name whose length has the given bits above it, and a value. -/
def literalNameBytes (above : UInt8) (prefixBits : Nat) (name : Bytes)
    (value : StringLiteral) : Bytes :=
  encodeInt above prefixBits name.length ++ (name ++ value.bytes)

theorem byteAt_encodeInt (above : UInt8) (prefixBits value : Nat)
    (rest : Bytes) :
    ∃ low, low < 2 ^ prefixBits ∧
      byteAt (encodeInt above prefixBits value ++ rest) 0 =
        .ok (firstByte above prefixBits low).toNat := by
  obtain ⟨low, others, small, same⟩ := encodeInt_eq_cons above prefixBits value
  refine ⟨low, small, ?_⟩
  rw [same]
  rfl

theorem StringLiteral.read (literal : StringLiteral) {front : Bytes} {n : Nat}
    (length : front.length = n) (rest : Bytes) :
    let size := (encodeInt (flag literal.huffman 0x80) 7
      literal.octets.length).length
    decodeInt ((front ++ (literal.bytes ++ rest)).drop n) 7 =
        .ok (literal.octets.length, size) ∧
      cut (front ++ (literal.bytes ++ rest)) (n + size)
        (n + size + literal.octets.length) = literal.octets := by
  dsimp only
  constructor
  · rw [List.drop_left' length]
    unfold bytes
    rw [List.append_assoc,
      decodeInt_begins (by decide) (List.prefix_append _ _)]
  · unfold bytes
    rw [List.append_assoc, ← List.append_assoc front, ← List.append_assoc]
    exact cut_middle (by rw [List.length_append, length]) rfl rest

theorem byteAt_present {buf : Bytes} (present : 0 < buf.length) :
    ∃ first, byteAt buf 0 = .ok first := by
  cases buf with
  | nil => exact absurd present (Nat.lt_irrefl 0)
  | cons first rest => exact ⟨first.toNat, rfl⟩

theorem StringLiteral.bytes_length_pos (literal : StringLiteral) :
    0 < literal.bytes.length := by
  have positive := encodeInt_length_pos (flag literal.huffman 0x80) 7
    literal.octets.length
  unfold bytes
  rw [List.length_append]
  omega

theorem StringLiteral.take_behind (literal : StringLiteral) {front : Bytes}
    {count : Nat} (late : front.length < count) :
    ∃ some_left, (front ++ literal.bytes).take count = front ++ some_left ∧
      0 < some_left.length := by
  have positive := literal.bytes_length_pos
  refine ⟨literal.bytes.take (count - front.length), ?_, ?_⟩
  · rw [List.take_append, List.take_of_length_le late.le]
  · rw [List.length_take]
    omega

section NameRef

variable (above : UInt8) {staticMask prefixBits : Nat} (index : Nat)
  (value : StringLiteral)

def NameRef.of (above : UInt8) (staticMask prefixBits index : Nat)
    (value : StringLiteral) : NameRef where
  static := above.toNat &&& staticMask ≠ 0
  nameIndex := index
  valueLen := value.octets.length
  value := value.octets
  consumed := (nameRefBytes above prefixBits index value).length

theorem NameRef.unpack_front (width : prefixBits ≤ 8)
    (high : staticMask % 2 ^ prefixBits = 0) (rest : Bytes) :
    NameRef.unpack staticMask prefixBits
        (nameRefBytes above prefixBits index value ++ rest) =
      .ok (NameRef.of above staticMask prefixBits index value) := by
  obtain ⟨low, small, first⟩ := byteAt_encodeInt above prefixBits index
    (value.bytes ++ rest)
  obtain ⟨len, slice⟩ := @StringLiteral.read value
    (encodeInt above prefixBits index) _ rfl rest
  unfold NameRef.unpack nameRefBytes
  rw [List.append_assoc, first, ok_bind,
    decodeInt_begins width (List.prefix_append _ _), ok_bind]
  dsimp only
  rw [len, ok_bind]
  dsimp only
  rw [slice, firstByte_mask above width small high]
  unfold NameRef.of nameRefBytes StringLiteral.bytes
  rw [List.length_append, List.length_append, Nat.add_assoc]

theorem NameRef.unpack_early (width : prefixBits ≤ 8) {count : Nat}
    (positive : 0 < count)
    (early : count ≤ (encodeInt above prefixBits index).length) :
    NameRef.unpack staticMask prefixBits
        ((nameRefBytes above prefixBits index value).take count) =
      .error .indexError := by
  obtain ⟨found, read⟩ := decodeInt_cut above width positive early
  have length : ((encodeInt above prefixBits index).take count).length =
      count := List.length_take_of_le early
  obtain ⟨first, present⟩ := byteAt_present
    (Nat.lt_of_lt_of_le positive length.ge)
  unfold NameRef.unpack nameRefBytes
  rw [List.take_append_of_le_length early, present, ok_bind, read, ok_bind]
  dsimp only
  rw [List.drop_of_length_le length.le]
  rfl

theorem NameRef.unpack_late (width : prefixBits ≤ 8) {count : Nat}
    (late : (encodeInt above prefixBits index).length < count) :
    ∃ fields, NameRef.unpack staticMask prefixBits
        ((nameRefBytes above prefixBits index value).take count) =
      .ok fields := by
  obtain ⟨some_left, same, present⟩ := value.take_behind late
  obtain ⟨low, _small, first⟩ := byteAt_encodeInt above prefixBits index
    some_left
  obtain ⟨valueLen, m, read, _positive, _within⟩ :=
    decodeInt_present present 7
  unfold NameRef.unpack nameRefBytes
  rw [same, first, ok_bind,
    decodeInt_begins width (List.prefix_append _ _), ok_bind]
  dsimp only
  rw [List.drop_left, read, ok_bind]
  exact ⟨_, rfl⟩

end NameRef

section LiteralName

variable (above : UInt8) {prefixBits : Nat} (name : Bytes)
  (value : StringLiteral)

def LiteralName.of (above : UInt8) (prefixBits : Nat) (name : Bytes)
    (value : StringLiteral) : LiteralName where
  nameLen := name.length
  name := name
  valueLen := value.octets.length
  value := value.octets
  consumed := (literalNameBytes above prefixBits name value).length

theorem LiteralName.unpack_front (width : prefixBits ≤ 8) (rest : Bytes) :
    LiteralName.unpack prefixBits
        (literalNameBytes above prefixBits name value ++ rest) =
      .ok (LiteralName.of above prefixBits name value) := by
  have length : (encodeInt above prefixBits name.length ++ name).length =
      (encodeInt above prefixBits name.length).length + name.length :=
    List.length_append
  have own : cut (encodeInt above prefixBits name.length ++
      (name ++ (value.bytes ++ rest)))
        (encodeInt above prefixBits name.length).length
        ((encodeInt above prefixBits name.length).length + name.length) =
      name := by
    rw [← List.append_assoc]
    exact cut_append _ name _
  obtain ⟨len, slice⟩ := value.read length rest
  unfold LiteralName.unpack literalNameBytes
  rw [List.append_assoc, List.append_assoc,
    decodeInt_begins width (List.prefix_append _ _), ok_bind]
  dsimp only
  rw [own, ← List.append_assoc, len, ok_bind]
  dsimp only
  rw [slice]
  unfold LiteralName.of literalNameBytes StringLiteral.bytes
  rw [List.length_append, List.length_append, List.length_append,
    Nat.add_assoc, Nat.add_assoc]

theorem LiteralName.unpack_early (width : prefixBits ≤ 8) {count : Nat}
    (positive : 0 < count)
    (early : count ≤
      (encodeInt above prefixBits name.length ++ name).length) :
    LiteralName.unpack prefixBits
        ((literalNameBytes above prefixBits name value).take count) =
      .error .indexError := by
  unfold LiteralName.unpack literalNameBytes
  rw [← List.append_assoc, List.take_append_of_le_length early]
  have length : ((encodeInt above prefixBits name.length ++ name).take
      count).length = count := List.length_take_of_le early
  rw [List.length_append] at early
  rcases Nat.le_total count
      (encodeInt above prefixBits name.length).length with within | past
  · obtain ⟨found, read⟩ := decodeInt_cut above width positive within
    rw [List.take_append_of_le_length within] at length ⊢
    rw [read, ok_bind]
    dsimp only
    rw [List.drop_of_length_le (by omega)]
    rfl
  · rw [List.take_append, List.take_of_length_le past] at length ⊢
    rw [decodeInt_begins width (List.prefix_append _ _), ok_bind]
    dsimp only
    rw [List.drop_of_length_le (by omega)]
    rfl

theorem LiteralName.unpack_late (width : prefixBits ≤ 8) {count : Nat}
    (late : (encodeInt above prefixBits name.length ++ name).length <
      count) :
    ∃ fields, LiteralName.unpack prefixBits
        ((literalNameBytes above prefixBits name value).take count) =
      .ok fields := by
  obtain ⟨some_left, same, present⟩ := value.take_behind late
  obtain ⟨valueLen, m, read, _positive, _within⟩ :=
    decodeInt_present present 7
  have behind : (encodeInt above prefixBits name.length ++
      (name ++ some_left)).drop
        ((encodeInt above prefixBits name.length).length + name.length) =
      some_left := by
    rw [← List.append_assoc]
    exact List.drop_left' List.length_append
  unfold LiteralName.unpack literalNameBytes
  rw [← List.append_assoc, same, List.append_assoc,
    decodeInt_begins width (List.prefix_append _ _), ok_bind]
  dsimp only
  rw [behind, read, ok_bind]
  exact ⟨_, rfl⟩

end LiteralName

end DpktNg.Qpack
