/-
Unsigned integers of fixed widths in either byte order, as `struct` packs and
unpacks them behind `'>'` and `'<'`.  Each field is turned around on its own.
-/

import DpktNg.Python.Struct

namespace DpktNg

open Library

inductive ByteOrder where
  | big
  | little
deriving DecidableEq, Repr

/-- The bytes of one field: a big-endian field as it stands in the file, and
back. -/
def ByteOrder.arrange : ByteOrder → Bytes → Bytes
  | .big, bytes => bytes
  | .little, bytes => bytes.reverse

/-- `struct.unpack` of one integer that is there. -/
def ByteOrder.nat (order : ByteOrder) (bytes : Bytes) : Nat :=
  beNat (order.arrange bytes)

def ByteOrder.pack (order : ByteOrder) :
    List (Nat × Nat) → Except PyError Bytes
  | [] => .ok []
  | (width, value) :: rest => do
      let field ← packBe width value
      let fields ← order.pack rest
      .ok (order.arrange field ++ fields)

/-- `struct.unpack` of unsigned integers of the given widths, which are all
there. -/
def ByteOrder.values (order : ByteOrder) : List Nat → Bytes → List Nat
  | [], _ => []
  | width :: rest, bytes =>
      order.nat (bytes.take width) :: order.values rest (bytes.drop width)

def ByteOrder.unpack (order : ByteOrder) (widths : List Nat)
    (bytes : Bytes) : Except PyError (List Nat) :=
  if bytes.length = widths.sum then .ok (order.values widths bytes)
  else .error .structError

def ByteOrder.unpackInt (order : ByteOrder) (width : Nat) (bytes : Bytes) :
    Except PyError Nat :=
  if bytes.length = width then .ok (order.nat bytes) else .error .structError

def ByteOrder.fieldBytes (order : ByteOrder) (fields : List (Nat × Nat)) :
    Bytes :=
  fields.flatMap fun field => order.arrange (beBytes field.1 field.2)

/-- An unsigned field refuses a negative value. -/
def unsignedField (value : Int) : Except PyError Nat :=
  if 0 ≤ value then .ok value.toNat else .error .structError

/-- A signed field, as the unsigned number with the same bytes. -/
def signedField (width : Nat) (value : Int) : Except PyError Nat :=
  if -(256 ^ width / 2 : Nat) ≤ value ∧ value < (256 ^ width / 2 : Nat) then
    .ok (value % (256 ^ width : Nat)).toNat
  else .error .structError

/-- The number that the bytes of an unsigned one stand for when the field is
signed. -/
def toSigned (width value : Nat) : Int :=
  if value < 256 ^ width / 2 then value else value - (256 ^ width : Nat)

theorem signedField_ok {width : Nat} {value : Int}
    (low : -(256 ^ width / 2 : Nat) ≤ value)
    (high : value < (256 ^ width / 2 : Nat)) :
    signedField width value = .ok (value % (256 ^ width : Nat)).toNat :=
  if_pos ⟨low, high⟩

/-- Reading back a signed number. -/
theorem toSigned_emod {width : Nat} {value : Int}
    (low : -(256 ^ width / 2 : Nat) ≤ value)
    (high : value < (256 ^ width / 2 : Nat)) :
    toSigned width (value % (256 ^ width : Nat)).toNat = value := by
  unfold toSigned
  by_cases negative : value < 0
  · have wrapped : value % (256 ^ width : Nat) =
        value + (256 ^ width : Nat) := by
      rw [← Int.add_emod_right, Int.emod_eq_of_lt]
      · omega
      · omega
    rw [wrapped, if_neg]
    · omega
    · omega
  · have same : value % (256 ^ width : Nat) = value := by
      rw [Int.emod_eq_of_lt]
      · omega
      · omega
    rw [same, if_pos]
    · omega
    · omega

/-- `pack_hdr`, whose error is one of the library. -/
def ByteOrder.packHdr (order : ByteOrder) (fields : List (Nat × Nat)) :
    Except PyError Bytes :=
  match order.pack fields with
  | .ok header => .ok header
  | .error _ => .error (.packError [])

/-- `Packet.unpack` of a header, without the data behind it. -/
def ByteOrder.unpackHdr (order : ByteOrder) (widths : List Nat)
    (buf : Bytes) : Except PyError (List Nat) :=
  if buf.length < widths.sum then .error .structError
  else .ok (order.values widths buf)

/-- A class that has a header and nothing else to unpack. -/
def ByteOrder.parseHdr (order : ByteOrder) (className : String)
    (widths : List Nat) (buf : Bytes) : Except PyError (List Nat) :=
  packetInit className (some widths.sum) (order.unpackHdr widths) buf

theorem fieldsFit_nil : FieldsFit [] := by
  unfold FieldsFit
  exact List.forall_mem_nil _

theorem fieldsFit_cons {field : Nat × Nat} {rest : List (Nat × Nat)} :
    FieldsFit (field :: rest) ↔
      field.2 < 256 ^ field.1 ∧ FieldsFit rest := by
  unfold FieldsFit
  exact List.forall_mem_cons

theorem fieldsFit_append {first second : List (Nat × Nat)} :
    FieldsFit (first ++ second) ↔ FieldsFit first ∧ FieldsFit second := by
  unfold FieldsFit
  exact List.forall_mem_append

section Fields

variable (order : ByteOrder)

@[simp] theorem ByteOrder.arrange_length (bytes : Bytes) :
    (order.arrange bytes).length = bytes.length := by
  cases order with
  | big => rfl
  | little => exact List.length_reverse

@[simp] theorem ByteOrder.arrange_arrange (bytes : Bytes) :
    order.arrange (order.arrange bytes) = bytes := by
  cases order with
  | big => rfl
  | little => exact List.reverse_reverse bytes

@[simp] theorem ByteOrder.nat_arrange (bytes : Bytes) :
    order.nat (order.arrange bytes) = beNat bytes := by
  unfold ByteOrder.nat
  rw [order.arrange_arrange]

theorem ByteOrder.unpackInt_arrange {width value : Nat}
    (fits : value < 256 ^ width) :
    order.unpackInt width (order.arrange (beBytes width value)) =
      .ok value := by
  unfold ByteOrder.unpackInt
  rw [order.arrange_length, if_pos (beBytes_length width value),
    order.nat_arrange, beNat_beBytes fits]

theorem ByteOrder.byteAt_of_unpackInt {buf : Bytes} {index value : Nat}
    (read : order.unpackInt 1 (cut buf index (index + 1)) = .ok value) :
    byteAt buf index = .ok value := by
  have arranged (byte : UInt8) : order.nat [byte] = byte.toNat := by
    have bytes : order.arrange [byte] = [byte] := by
      cases order <;> rfl
    unfold ByteOrder.nat
    rw [bytes, beNat_singleton]
  unfold ByteOrder.unpackInt cut at read
  unfold byteAt
  rw [Nat.add_sub_cancel_left, List.take_one, List.head?_drop] at read
  cases here : buf[index]? with
  | none =>
      rw [here] at read
      cases read
  | some byte =>
      rw [here, Option.toList_some, arranged] at read
      exact read

theorem ByteOrder.pack_eq_ok_iff {fields : List (Nat × Nat)} {bytes : Bytes} :
    order.pack fields = .ok bytes ↔
      FieldsFit fields ∧ bytes = order.fieldBytes fields := by
  unfold ByteOrder.fieldBytes
  induction fields generalizing bytes with
  | nil =>
      rw [ByteOrder.pack, Except.ok.injEq]
      simp [eq_comm, fieldsFit_nil]
  | cons field rest ih =>
      rw [ByteOrder.pack, fieldsFit_cons, List.flatMap_cons]
      constructor
      · intro packed
        obtain ⟨first, packedFirst, remaining⟩ := bind_eq_ok.mp packed
        obtain ⟨others, packedRest, done⟩ := bind_eq_ok.mp remaining
        rw [Except.ok.injEq] at done
        obtain ⟨fits, firstBytes⟩ := packBe_eq_ok packedFirst
        obtain ⟨restFit, restBytes⟩ := ih.mp packedRest
        refine ⟨⟨fits, restFit⟩, ?_⟩
        rw [← done, firstBytes, restBytes]
      · intro packable
        obtain ⟨⟨fits, restFit⟩, same⟩ := packable
        have first : packBe field.1 field.2 =
            .ok (beBytes field.1 field.2) := if_pos fits
        rw [first, ok_bind, ih.mpr ⟨restFit, rfl⟩, same]
        rfl

theorem ByteOrder.pack_ok {fields : List (Nat × Nat)}
    (fits : FieldsFit fields) :
    order.pack fields = .ok (order.fieldBytes fields) :=
  order.pack_eq_ok_iff.mpr ⟨fits, rfl⟩

theorem ByteOrder.fieldBytes_cons (field : Nat × Nat)
    (rest : List (Nat × Nat)) :
    order.fieldBytes (field :: rest) =
      order.arrange (beBytes field.1 field.2) ++ order.fieldBytes rest :=
  rfl

theorem ByteOrder.fieldBytes_append (first second : List (Nat × Nat)) :
    order.fieldBytes (first ++ second) =
      order.fieldBytes first ++ order.fieldBytes second :=
  List.flatMap_append

@[simp] theorem ByteOrder.fieldBytes_length (fields : List (Nat × Nat)) :
    (order.fieldBytes fields).length = (fields.map Prod.fst).sum := by
  induction fields with
  | nil => rfl
  | cons field rest ih =>
      rw [order.fieldBytes_cons, List.length_append, order.arrange_length,
        beBytes_length, ih, List.map_cons, List.sum_cons]

theorem ByteOrder.values_fieldBytes {fields : List (Nat × Nat)}
    (fits : FieldsFit fields) (behind : Bytes) :
    order.values (fields.map Prod.fst) (order.fieldBytes fields ++ behind) =
      fields.map Prod.snd := by
  induction fields with
  | nil => rfl
  | cons field rest ih =>
      obtain ⟨firstFits, restFit⟩ := fieldsFit_cons.mp fits
      have width : (order.arrange (beBytes field.1 field.2)).length =
          field.1 := by
        rw [order.arrange_length, beBytes_length]
      rw [List.map_cons, List.map_cons, ByteOrder.values,
        order.fieldBytes_cons, List.append_assoc, List.take_left' width,
        List.drop_left' width, order.nat_arrange, beNat_beBytes firstFits,
        ih restFit]

/-- The fields as they look in big-endian order, whatever order they were
written in. -/
theorem ByteOrder.big_values_fieldBytes (fields : List (Nat × Nat))
    (behind : Bytes) :
    ByteOrder.big.values (fields.map Prod.fst)
        (order.fieldBytes fields ++ behind) =
      fields.map fun field =>
        beNat (order.arrange (beBytes field.1 field.2)) := by
  induction fields with
  | nil => rfl
  | cons field rest ih =>
      have width : (order.arrange (beBytes field.1 field.2)).length =
          field.1 := by
        rw [order.arrange_length, beBytes_length]
      rw [List.map_cons, List.map_cons, ByteOrder.values,
        order.fieldBytes_cons, List.append_assoc, List.take_left' width,
        List.drop_left' width, ih]
      rfl

theorem ByteOrder.values_append (first second : List Nat) (bytes : Bytes) :
    order.values (first ++ second) bytes =
      order.values first bytes ++ order.values second (bytes.drop first.sum) := by
  induction first generalizing bytes with
  | nil => rfl
  | cons width rest ih =>
      rw [List.cons_append, ByteOrder.values, ByteOrder.values, ih,
        List.drop_drop, List.sum_cons, List.cons_append]

theorem ByteOrder.packHdr_ok {fields : List (Nat × Nat)}
    (fits : FieldsFit fields) :
    order.packHdr fields = .ok (order.fieldBytes fields) := by
  unfold ByteOrder.packHdr
  rw [order.pack_ok fits]

theorem ByteOrder.unpack_fieldBytes {fields : List (Nat × Nat)}
    (fits : FieldsFit fields) :
    order.unpack (fields.map Prod.fst) (order.fieldBytes fields) =
      .ok (fields.map Prod.snd) := by
  have read := order.values_fieldBytes fits []
  rw [List.append_nil] at read
  unfold ByteOrder.unpack
  rw [if_pos (order.fieldBytes_length fields), read]

theorem ByteOrder.unpackHdr_fieldBytes {fields : List (Nat × Nat)}
    (fits : FieldsFit fields) (behind : Bytes) :
    order.unpackHdr (fields.map Prod.fst) (order.fieldBytes fields ++ behind) =
      .ok (fields.map Prod.snd) := by
  unfold ByteOrder.unpackHdr
  rw [if_neg, order.values_fieldBytes fits]
  rw [List.length_append, order.fieldBytes_length]
  omega

theorem ByteOrder.parseHdr_fieldBytes {fields : List (Nat × Nat)}
    (className : String) (fits : FieldsFit fields) (behind : Bytes) :
    order.parseHdr className (fields.map Prod.fst)
        (order.fieldBytes fields ++ behind) =
      .ok (fields.map Prod.snd) :=
  packetInit_eq_ok.mpr (order.unpackHdr_fieldBytes fits behind)

end Fields

end DpktNg
