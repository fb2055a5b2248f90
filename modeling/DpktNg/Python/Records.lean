/-
Records of unsigned integers of fixed widths: a `struct` format with the item
that its values stand for, and loops over records that stand one behind the
other.
-/

import DpktNg.Python.ByteOrder
import DpktNg.Python.Loops

namespace DpktNg

open Library

variable {α : Type}

/-- A `struct` format of unsigned integers, with the item behind the values. -/
structure RecordFormat (α : Type) where
  widths : List Nat
  fields : α → List (Nat × Nat)
  ofValues : List Nat → α
  widths_fields : ∀ item, (fields item).map Prod.fst = widths
  ofValues_fields : ∀ item, ofValues ((fields item).map Prod.snd) = item

namespace RecordFormat

variable (format : RecordFormat α) (order : ByteOrder)

def size : Nat := format.widths.sum

def read (record : Bytes) : α :=
  format.ofValues (order.values format.widths record)

def pack (item : α) : Except PyError Bytes := order.pack (format.fields item)

/-- The values of the item fit their widths. -/
def Fits (item : α) : Prop := FieldsFit (format.fields item)

instance (item : α) : Decidable (format.Fits item) :=
  inferInstanceAs (Decidable (FieldsFit (format.fields item)))

def bytes (item : α) : Bytes := order.fieldBytes (format.fields item)

@[simp] theorem bytes_length (item : α) :
    (format.bytes order item).length = format.size := by
  unfold bytes size
  rw [order.fieldBytes_length, format.widths_fields]

theorem pack_ok {item : α} (fits : format.Fits item) :
    format.pack order item = .ok (format.bytes order item) :=
  order.pack_ok fits

theorem read_bytes {item : α} (fits : format.Fits item) (behind : Bytes) :
    format.read order (format.bytes order item ++ behind) = item := by
  have values := order.values_fieldBytes fits behind
  unfold read bytes
  rw [← format.widths_fields item, values, format.ofValues_fields]

end RecordFormat

/-- `while off + size <= len(data)`: the records up to the end. -/
def recordsOf {size : Nat} (positive : 0 < size) (data : Bytes) : List Bytes :=
  if size ≤ data.length then
    data.take size :: recordsOf positive (data.drop size)
  else []
termination_by data.length
decreasing_by
  rw [List.length_drop]
  omega

/-- `for _ in range(count)`, with `break` where a record is not whole. -/
def recordsUpTo (size : Nat) : Nat → Bytes → List Bytes
  | 0, _ => []
  | count + 1, data =>
      if size ≤ data.length then
        data.take size :: recordsUpTo size count (data.drop size)
      else []

def packAll (format : RecordFormat α) (order : ByteOrder) (items : List α) :
    Except PyError Bytes :=
  joinBytes (format.pack order) items

variable {size : Nat} {records : List Bytes} {rest : Bytes}

theorem recordsOf_flatten (positive : 0 < size)
    (sized : ∀ record ∈ records, record.length = size)
    (short : rest.length < size) :
    recordsOf positive (records.flatten ++ rest) = records := by
  induction records with
  | nil =>
      rw [recordsOf, List.flatten_nil, List.nil_append, if_neg (by omega)]
  | cons record later ih =>
      obtain ⟨here, behind⟩ := List.forall_mem_cons.mp sized
      rw [recordsOf, List.flatten_cons, List.append_assoc, if_pos,
        List.take_left' here, List.drop_left' here, ih behind]
      rw [List.length_append]
      omega

theorem recordsUpTo_flatten
    (sized : ∀ record ∈ records, record.length = size) :
    recordsUpTo size records.length (records.flatten ++ rest) = records := by
  induction records with
  | nil => rfl
  | cons record later ih =>
      obtain ⟨here, behind⟩ := List.forall_mem_cons.mp sized
      rw [List.length_cons, recordsUpTo, List.flatten_cons, List.append_assoc,
        if_pos, List.take_left' here, List.drop_left' here, ih behind]
      rw [List.length_append]
      omega

namespace RecordFormat

variable {format : RecordFormat α} {order : ByteOrder} {items : List α}

theorem records_sized :
    ∀ record ∈ items.map (format.bytes order), record.length = format.size := by
  intro record member
  obtain ⟨item, _member, rfl⟩ := List.mem_map.mp member
  exact format.bytes_length order item

theorem read_records (fits : ∀ item ∈ items, format.Fits item) :
    (items.map (format.bytes order)).map (format.read order) = items := by
  rw [List.map_map]
  refine (List.map_congr_left ?_).trans (List.map_id items)
  intro item member
  have read := format.read_bytes order (fits item member) []
  rw [List.append_nil] at read
  exact read

variable (order) in
theorem read_recordsUpTo (fits : ∀ item ∈ items, format.Fits item)
    (rest : Bytes) :
    (recordsUpTo format.size items.length
        ((items.map (format.bytes order)).flatten ++ rest)).map
      (format.read order) = items := by
  have sized : ∀ record ∈ items.map (format.bytes order),
      record.length = format.size := records_sized
  have records := @recordsUpTo_flatten _ _ rest sized
  rw [List.length_map] at records
  rw [records, read_records fits]

variable (order) in
theorem read_recordsOf (positive : 0 < format.size)
    (fits : ∀ item ∈ items, format.Fits item) (rest : Bytes)
    (short : rest.length < format.size) :
    (recordsOf positive ((items.map (format.bytes order)).flatten ++ rest)).map
      (format.read order) = items := by
  rw [recordsOf_flatten positive records_sized short, read_records fits]

theorem packAll_ok (fits : ∀ item ∈ items, format.Fits item) :
    packAll format order items =
      .ok (items.map (format.bytes order)).flatten := by
  apply joinBytes_chunks
  rw [List.forall₂_map_left_iff, List.forall₂_same]
  exact fun item member => format.pack_ok order (fits item member)

theorem fieldBytes_flatMap :
    order.fieldBytes (items.flatMap format.fields) =
      (items.map (format.bytes order)).flatten := by
  unfold ByteOrder.fieldBytes
  rw [List.flatMap_assoc]
  exact List.flatMap_def

theorem fieldsFit_flatMap :
    FieldsFit (items.flatMap format.fields) ↔
      ∀ item ∈ items, format.Fits item := by
  unfold Fits FieldsFit
  exact List.forall_mem_flatMap

theorem flatten_length :
    (items.map (format.bytes order)).flatten.length =
      format.size * items.length := by
  induction items with
  | nil => rfl
  | cons item rest ih =>
      rw [List.map_cons, List.flatten_cons, List.length_append,
        format.bytes_length, ih, List.length_cons, Nat.mul_succ]
      omega

end RecordFormat

theorem fieldBytes_zip (order : ByteOrder) {widths : List Nat} {bytes : Bytes}
    (length : bytes.length = widths.sum) :
    order.fieldBytes (widths.zip (order.values widths bytes)) = bytes := by
  induction widths generalizing bytes with
  | nil => exact (List.eq_nil_of_length_eq_zero length).symm
  | cons width rest ih =>
      rw [List.sum_cons] at length
      have front : (bytes.take width).length = width := by
        rw [List.length_take]
        omega
      have behind : (bytes.drop width).length = rest.sum := by
        rw [List.length_drop]
        omega
      have again := beBytes_beNat (order.arrange (bytes.take width))
      rw [order.arrange_length, front] at again
      rw [ByteOrder.values, List.zip_cons_cons, order.fieldBytes_cons,
        ih behind]
      dsimp only
      rw [show beBytes width (order.nat (bytes.take width)) = _ from again,
        order.arrange_arrange, List.take_append_drop]

theorem fieldsFit_zip (order : ByteOrder) {widths : List Nat} {bytes : Bytes}
    (length : bytes.length = widths.sum) :
    FieldsFit (widths.zip (order.values widths bytes)) := by
  induction widths generalizing bytes with
  | nil => exact fieldsFit_nil
  | cons width rest ih =>
      rw [List.sum_cons] at length
      have bound := beNat_lt (order.arrange (bytes.take width))
      rw [order.arrange_length, List.length_take, min_eq_left (by omega)]
        at bound
      refine fieldsFit_cons.mpr ⟨bound, ih ?_⟩
      rw [List.length_drop]
      omega

theorem ByteOrder.values_length (order : ByteOrder) (widths : List Nat)
    (bytes : Bytes) :
    (order.values widths bytes).length = widths.length := by
  induction widths generalizing bytes with
  | nil => rfl
  | cons width rest ih =>
      rw [ByteOrder.values, List.length_cons, ih, List.length_cons]

namespace RecordFormat

variable {format : RecordFormat α} {order : ByteOrder} {record : Bytes}

/-- An item holds its values and nothing else. -/
def Exact (format : RecordFormat α) : Prop :=
  ∀ values, values.length = format.widths.length →
    format.fields (format.ofValues values) = format.widths.zip values

theorem fields_read (isExact : format.Exact) :
    format.fields (format.read order record) =
      format.widths.zip (order.values format.widths record) :=
  isExact _ (order.values_length _ _)

theorem read_fits (isExact : format.Exact)
    (length : record.length = format.size) :
    format.Fits (format.read order record) := by
  unfold Fits
  rw [fields_read isExact]
  exact fieldsFit_zip order length

theorem bytes_read (isExact : format.Exact)
    (length : record.length = format.size) :
    format.bytes order (format.read order record) = record := by
  unfold bytes
  rw [fields_read isExact]
  exact fieldBytes_zip order length

end RecordFormat

/-- The loop over records splits what it reads, up to an incomplete one. -/
theorem recordsOf_split (positive : 0 < size) (data : Bytes) :
    ∃ rest, data = (recordsOf positive data).flatten ++ rest ∧
      rest.length < size ∧
      ∀ record ∈ recordsOf positive data, record.length = size := by
  induction length : data.length using Nat.strong_induction_on
    generalizing data with
  | _ bound ih =>
      rw [recordsOf]
      split
      · rename_i enough
        have shorter : (data.drop size).length < bound := by
          rw [List.length_drop]
          omega
        have front : (data.take size).length = size := by
          rw [List.length_take]
          omega
        obtain ⟨rest, split, short, sized⟩ := ih _ shorter _ rfl
        refine ⟨rest, ?_, short, List.forall_mem_cons.mpr ⟨front, sized⟩⟩
        rw [List.flatten_cons, List.append_assoc, ← split,
          List.take_append_drop]
      · rename_i short
        exact ⟨data, rfl, by omega, List.forall_mem_nil _⟩

theorem flatten_sized (sized : ∀ record ∈ records, record.length = size) :
    records.flatten.length = size * records.length := by
  induction records with
  | nil => rfl
  | cons record later ih =>
      obtain ⟨here, behind⟩ := List.forall_mem_cons.mp sized
      rw [List.flatten_cons, List.length_append, here, ih behind,
        List.length_cons, Nat.mul_succ, Nat.add_comm]

/-- The loop takes everything when the bytes are whole records. -/
theorem recordsOf_whole_iff (positive : 0 < size) (data : Bytes) :
    (recordsOf positive data).flatten = data ↔ data.length % size = 0 := by
  obtain ⟨rest, split, short, sized⟩ := recordsOf_split positive data
  have length := congrArg List.length split
  rw [List.length_append, flatten_sized sized] at length
  have remainder : data.length % size = rest.length := by
    rw [length, Nat.mul_add_mod, Nat.mod_eq_of_lt short]
  rw [remainder, List.length_eq_zero_iff]
  constructor
  · intro all
    rw [all] at split
    exact List.self_eq_append_right.mp split
  · intro nothing
    rw [nothing, List.append_nil] at split
    exact split.symm

end DpktNg
