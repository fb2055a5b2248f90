/-
Records of a type byte, a length byte and a value as long as the length says,
one behind the other.  The loops over them stop at a record that is cut short.
-/

import DpktNg.Library.Chunks
import DpktNg.Python.Struct

namespace DpktNg

open Library

structure TypeLengthValue where
  type : UInt8
  value : Bytes
  short : value.length < 256

namespace TypeLengthValue

def encoded (record : TypeLengthValue) : Bytes :=
  record.type :: UInt8.ofNat record.value.length :: record.value

/-- The bytes of records one behind the other. -/
def encodedAll (records : List TypeLengthValue) : Bytes :=
  records.flatMap encoded

/-- No whole record stands in front. -/
def CutShort (rest : Bytes) : Prop :=
  ∀ record : TypeLengthValue, ¬record.encoded <+: rest

/-- The longest front of a buffer that is made of whole records. -/
structure LongestFront (buf front : Bytes) : Prop where
  whole : ∃ records, front = encodedAll records
  inFront : front <+: buf
  longest : ∀ records, encodedAll records <+: buf →
    encodedAll records <+: front

/-- Where the record in front ends. -/
def end_ (buf : Bytes) : Nat := 2 + (buf[1]?.getD 0).toNat

def cutter : Cutter UInt8 :=
  Cutter.ofHeader 2 end_ (Nat.succ_pos 1) (by
    intro buf _enough
    unfold end_
    rw [List.getElem?_take_of_lt (Nat.lt_succ_self 1)])

theorem encoded_length (record : TypeLengthValue) :
    record.encoded.length = 2 + record.value.length := by
  unfold encoded
  rw [List.length_cons, List.length_cons]
  omega

theorem cut_value (record : TypeLengthValue) :
    cut record.encoded 2 (2 + record.value.length) = record.value := by
  unfold cut
  rw [Nat.add_sub_cancel_left]
  exact List.take_length

theorem end_encoded (record : TypeLengthValue) (behind : Bytes) :
    end_ (record.encoded ++ behind) = record.encoded.length := by
  change 2 + (UInt8.ofNat record.value.length).toNat = _
  rw [count_toNat record.short, encoded_length]

theorem encoded_whole (record : TypeLengthValue) :
    cutter.Whole record.encoded := by
  have sized := record.end_encoded []
  have length := record.encoded_length
  rw [List.append_nil] at sized
  exact Cutter.ofHeader_eq_some.mpr
    ⟨by omega, by omega, Nat.le_refl _, sized⟩

theorem exists_encoded {chunk : Bytes} (whole : cutter.Whole chunk) :
    ∃ record : TypeLengthValue, record.encoded = chunk := by
  obtain ⟨enough, _least, _within, sized⟩ := Cutter.ofHeader_eq_some.mp whole
  match chunk with
  | [] => simp at enough
  | [_] => simp at enough
  | type :: length :: value =>
      have counted : length.toNat = value.length := by
        change 2 + length.toNat = value.length + 2 at sized
        omega
      have bound := length.toNat_lt
      have same : UInt8.ofNat value.length = length := by
        rw [← counted, UInt8.ofNat_toNat]
      refine ⟨{ type, value, short := by omega }, ?_⟩
      change type :: UInt8.ofNat value.length :: value = _
      rw [same]

theorem cutShort_of_stops {rest : Bytes} (stops : cutter.next rest = none) :
    CutShort rest := by
  rintro record ⟨behind, rfl⟩
  rw [cutter.behind behind record.encoded_whole] at stops
  cases stops

theorem CutShort.stops {rest : Bytes} (short : CutShort rest) :
    cutter.next rest = none := by
  by_contra goes
  obtain ⟨size, here⟩ := Option.ne_none_iff_exists'.mp goes
  have within := cutter.within here
  have whole : cutter.Whole (rest.take size) := by
    unfold Cutter.Whole
    rw [List.length_take_of_le within]
    exact cutter.alone here
  obtain ⟨record, same⟩ := exists_encoded whole
  apply short record
  rw [same]
  exact List.take_prefix size rest

theorem CutShort.ends {rest : Bytes} (short : CutShort rest) :
    rest.length < 2 ∨ rest.length < end_ rest := by
  have none := Cutter.ofHeader_eq_none.mp short.stops
  unfold end_ at none ⊢
  omega

theorem chunks_encodedAll (records : List TypeLengthValue) (rest : Bytes) :
    cutter.chunks (encodedAll records ++ rest) =
      records.map encoded ++ cutter.chunks rest := by
  unfold encodedAll
  rw [List.flatMap_def]
  refine Cutter.chunks_flatten_append ?_ rest
  intro chunk among
  obtain ⟨record, _in, rfl⟩ := List.mem_map.mp among
  exact record.encoded_whole

/-- Every buffer is made of whole records and a rest that is cut short. -/
theorem exists_records (buf : Bytes) :
    ∃ records rest, buf = encodedAll records ++ rest ∧ CutShort rest := by
  obtain ⟨whole, rest, split, stops⟩ := cutter.chunks_spec buf
  have found (chunks : List Bytes)
      (whole : ∀ chunk ∈ chunks, cutter.Whole chunk) :
      ∃ records : List TypeLengthValue, records.map encoded = chunks := by
    induction chunks with
    | nil => exact ⟨[], rfl⟩
    | cons chunk others ih =>
        rw [List.forall_mem_cons] at whole
        obtain ⟨record, first⟩ := exists_encoded whole.1
        obtain ⟨records, behind⟩ := ih whole.2
        exact ⟨record :: records, congrArg₂ List.cons first behind⟩
  obtain ⟨records, same⟩ := found _ whole
  refine ⟨records, rest, ?_, cutShort_of_stops stops⟩
  unfold encodedAll
  rw [List.flatMap_def, same]
  exact split

theorem longestFront {records : List TypeLengthValue} {rest : Bytes}
    (short : CutShort rest) :
    LongestFront (encodedAll records ++ rest) (encodedAll records) where
  whole := ⟨records, rfl⟩
  inFront := List.prefix_append _ _
  longest := by
    rintro others ⟨behind, same⟩
    have chunks := chunks_encodedAll records rest
    rw [Cutter.chunks_none short.stops, List.append_nil, ← same,
      chunks_encodedAll] at chunks
    unfold encodedAll
    rw [List.flatMap_def, List.flatMap_def, ← chunks, List.flatten_append]
    exact List.prefix_append _ _

end TypeLengthValue

open TypeLengthValue

variable {α : Type}

/-- `while off + 2 <= len(buf)`, left where the record reaches behind the
buffer.  An item is made from the buffer, the offset and the length byte. -/
def recordsFrom (item : Bytes → Nat → Nat → Except PyError α) (buf : Bytes)
    (off : Nat) : Except PyError (List α) :=
  if off + 2 ≤ buf.length then do
    let length ← byteAt buf (off + 1)
    if off + 2 + length > buf.length then .ok []
    else do
      let first ← item buf off length
      let others ← recordsFrom item buf (off + 2 + length)
      .ok (first :: others)
  else .ok []
termination_by buf.length - off
decreasing_by omega

/-- The item of a record, wherever the record stands. -/
def ReadsRecord (item : Bytes → Nat → Nat → Except PyError α)
    (record : TypeLengthValue) (value : α) : Prop :=
  ∀ front behind, item (front ++ (record.encoded ++ behind)) front.length
    record.value.length = .ok value

variable {item : Bytes → Nat → Nat → Except PyError α}

section Places

variable (front behind : Bytes) (record : TypeLengthValue)

theorem byteAt_place (index : Nat) :
    byteAt (front ++ behind) (front.length + index) = byteAt behind index := by
  rw [byteAt_behind rfl (Nat.le_add_right _ index), Nat.add_sub_cancel_left]

theorem byteAt_type :
    byteAt (front ++ (record.encoded ++ behind)) front.length =
      .ok record.type.toNat :=
  byteAt_place front _ 0

theorem byteAt_length :
    byteAt (front ++ (record.encoded ++ behind)) (front.length + 1) =
      .ok record.value.length :=
  (byteAt_place front _ 1).trans (congrArg Except.ok (count_toNat record.short))

theorem cut_record :
    cut (front ++ (record.encoded ++ behind)) front.length
      (front.length + 2 + record.value.length) = record.encoded := by
  have sized := record.encoded_length
  rw [← List.append_assoc]
  exact cut_middle rfl (by omega) behind

end Places

theorem recordsFrom_stops {rest : Bytes} (short : CutShort rest)
    (front : Bytes) :
    recordsFrom item (front ++ rest) front.length = .ok [] := by
  have ends := short.ends
  rw [recordsFrom, List.length_append]
  split
  · rename_i enough
    match rest with
    | [] => simp at enough
    | [_] => simp at enough
    | type :: length :: value =>
        have read : byteAt (front ++ type :: length :: value)
            (front.length + 1) = .ok length.toNat :=
          byteAt_place front _ 1
        have behind : front.length + 2 + length.toNat >
            front.length + (type :: length :: value).length := by
          change _ ∨ _ < 2 + length.toNat at ends
          omega
        rw [read, ok_bind, if_pos behind]
  · rfl

/-- The items of records in front of what is cut short. -/
theorem recordsFrom_encoded {records : List TypeLengthValue} {items : List α}
    {rest : Bytes} (reads : List.Forall₂ (ReadsRecord item) records items)
    (short : CutShort rest) (front : Bytes) :
    recordsFrom item (front ++ (encodedAll records ++ rest)) front.length =
      .ok items := by
  induction reads generalizing front with
  | nil => exact recordsFrom_stops short front
  | @cons record value records items first _others ih =>
      have sized := record.encoded_length
      have behind := ih (front ++ record.encoded)
      rw [List.append_assoc, List.length_append, sized, ← Nat.add_assoc]
        at behind
      have split : encodedAll (record :: records) ++ rest =
          record.encoded ++ (encodedAll records ++ rest) := by
        unfold encodedAll
        rw [List.flatMap_cons, List.append_assoc]
      have enough : front.length + 2 + record.value.length ≤
          (front ++
            (record.encoded ++ (encodedAll records ++ rest))).length := by
        rw [List.length_append, List.length_append, sized]
        omega
      rw [split, recordsFrom, if_pos (Nat.le_of_add_right_le enough),
        byteAt_length, ok_bind, if_neg (Nat.not_lt.mpr enough), first, ok_bind,
        behind]
      rfl

theorem exists_items {Good : TypeLengthValue → α → Prop}
    (each : ∀ record, ∃ value, Good record value)
    (records : List TypeLengthValue) :
    ∃ items, List.Forall₂ Good records items := by
  choose found good using each
  exact ⟨records.map found,
    List.forall₂_map_right_iff.mpr (List.forall₂_same.mpr
      fun record _in => good record)⟩

end DpktNg
